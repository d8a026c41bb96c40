import OverlayNet.Json.Codec

set_option autoImplicit false

/-! # Records

A record is read from an object by the names of its fields, in any order, or from a list of the
fields in their own order. Members without a field are skipped. A field that is given twice, or that
is missing and has no default, is a defect; so is a list that breaks off before a field that has no
default there. -/

namespace OverlayNet.Json

/-- One field of a record. -/
structure Field (α : Type) where
  name : String
  read : Tree → Except Defect α
  /-- What is written; nothing if the member is left out. -/
  write : α → Option Json
  /-- The value in an object without the field. -/
  whenMissing : Option α
  /-- The value in a list that ends before the field. -/
  whenShort : Option α

namespace Field

def required {α : Type} (name : String) (codec : Codec α) : Field α where
  name := name
  read := codec.read
  write value := some (codec.write value)
  whenMissing := none
  whenShort := none

/-- A field with a default. It is written in any case. -/
def defaulted {α : Type} (name : String) (codec : Codec α) (value : α) : Field α where
  name := name
  read := codec.read
  write value := some (codec.write value)
  whenMissing := some value
  whenShort := some value

/-- A field without a value if it is missing or null. Without a value it is not written. In a list
it must be given. -/
def optional {α : Type} (name : String) (codec : Codec α) : Field (Option α) where
  name := name
  read := codec.optional.read
  write value := value.map codec.write
  whenMissing := some none
  whenShort := none

end Field

/-- The fields of a record, in order, with the type of their values together. -/
inductive Fields : Type → Type 1 where
  | none : Fields Unit
  | field {α β : Type} (first : Field α) (rest : Fields β) : Fields (α × β)

namespace Fields

def count {ρ : Type} : Fields ρ → Nat
  | none => 0
  | field _ rest => rest.count + 1

def hasName {ρ : Type} (name : String) : Fields ρ → Bool
  | none => false
  | field first rest => first.name == name || rest.hasName name

/-- The check of one member: its value is read for the field of its name, or skipped. -/
def checkValue {ρ : Type} (name : String) (value : Tree) : Fields ρ → Except Defect Unit
  | none => value.skip
  | field first rest =>
      if first.name = name then (first.read value).map fun _ => () else rest.checkValue name value

/-- The check of a key: its text, and that its field has not been given before. -/
def checkKey {ρ : Type} (fields : Fields ρ) (seen : List String) (pieces : List Piece)
    (ending : Ending) : Except Defect String :=
  match pieceText ending pieces with
  | .error fault => .error (.form fault)
  | .ok name =>
      if fields.hasName name && seen.contains name then .error (.duplicateField name) else .ok name

/-- The check of what follows the members of a record. -/
def checkStop {ρ : Type} (fields : Fields ρ) (seen : List String) :
    ObjectStop → Except Defect Unit
  | .closed => .ok ()
  | .ended => .error (.form .endInObject)
  | .unseparated => .error (.form .memberSeparatorExpected)
  | .inside => .error (.form .endInValue)
  | .endedAfterComma => .error (.form .endInValue)
  | .closedAfterComma => .error (.form .trailingComma)
  | .keyNotText => .error (.form .keyNotText)
  | .keyBroken pieces ending => do
      let _ ← fields.checkKey seen pieces ending
      .error (.form .endInText)
  | .colonMissing key atEnd => do
      let _ ← fields.checkKey seen key .closed
      .error (.form (if atEnd then .endInObject else .colonExpected))

/-- The members of a record with their names, once all of them have been checked in order. -/
def checkMembers {ρ : Type} (fields : Fields ρ) (stop : ObjectStop) (seen : List String) :
    List (List Piece × Tree) → Except Defect (List (String × Tree))
  | [] => (fields.checkStop seen stop).map fun _ => []
  | (pieces, value) :: rest => do
      let name ← fields.checkKey seen pieces .closed
      fields.checkValue name value
      let named ← checkMembers fields stop (name :: seen) rest
      pure ((name, value) :: named)

/-- The values of the fields, each from the member of its name. The first field, in order, that has
neither a member nor a default is missing. -/
def collect {ρ : Type} (members : List (String × Tree)) : Fields ρ → Except Defect ρ
  | none => .ok ()
  | field first rest => do
      let value ←
        match members.lookup first.name with
        | some tree => first.read tree
        | Option.none =>
            match first.whenMissing with
            | some value => .ok value
            | Option.none => .error (.missingField first.name)
      let values ← rest.collect members
      pure (value, values)

def readObject {ρ : Type} (fields : Fields ρ) (members : List (List Piece × Tree))
    (stop : ObjectStop) : Except Defect ρ := do
  let named ← fields.checkMembers stop [] members
  fields.collect named

/-- The values of the fields from the items of a list. Behind the last field only the closing
bracket may stand. -/
def readList {ρ : Type} (whole : String) (stop : ListStop) (position : Nat) :
    Fields ρ → List Tree → Except Defect ρ
  | none, [] =>
      match stop with
      | .closed => .ok ()
      | .ended => .error (.form .endInList)
      | .unseparated => .error (.form .trailingCharacters)
      | .inside => .error (.form .endInValue)
  | none, .closing :: _ => .error (.form .trailingComma)
  | none, _ :: _ => .error (.form .trailingCharacters)
  | field _ _, .closing :: _ => .error (.form .trailingComma)
  | field first rest, item :: items => do
      let value ← first.read item
      let values ← rest.readList whole stop (position + 1) items
      pure (value, values)
  | field first rest, [] =>
      match stop with
      | .closed =>
          match first.whenShort with
          | some value => do
              let values ← rest.readList whole stop (position + 1) []
              pure (value, values)
          | Option.none => .error (.wrongLength position whole)
      | .ended => .error (.form .endInList)
      | .unseparated => .error (.form .itemSeparatorExpected)
      | .inside => .error (.form .endInValue)

def write {ρ : Type} : Fields ρ → ρ → List (String × Json)
  | none, () => []
  | field first rest, (value, values) =>
      match first.write value with
      | some json => (first.name, json) :: rest.write values
      | Option.none => rest.write values

end Fields

/-- How a type is a record: its name in messages, its fields, and the correspondence between its
values and those of the fields. -/
structure Record (α : Type) where
  name : String
  {ρ : Type}
  fields : Fields ρ
  make : ρ → α
  parts : α → ρ

namespace Record

def expected {α : Type} (record : Record α) : String :=
  "struct " ++ record.name

def expectedLength {α : Type} (record : Record α) : String :=
  record.expected ++ " with " ++ Decimal.text record.fields.count ++
    (if record.fields.count = 1 then " element" else " elements")

def codec {α : Type} (record : Record α) : Codec α where
  read
    | .object members stop => (record.fields.readObject members stop).map record.make
    | .list items stop =>
        (record.fields.readList record.expectedLength stop 0 items).map record.make
    | tree => .error (tree.mismatch record.expected)
  write value := .object (record.fields.write (record.parts value))

end Record

end OverlayNet.Json
