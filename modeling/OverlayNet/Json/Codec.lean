import OverlayNet.Address.Ipv4
import OverlayNet.Json.Document
import OverlayNet.Json.Value

set_option autoImplicit false

/-! # Reading trees as values and writing values

A codec reads a tree as a value of one type, or reports the first defect in document order, and
writes such a value. A tree that nobody wants is skipped: only its form is checked, and of texts and
numbers not even what they stand for. -/

namespace OverlayNet.Json

structure Codec (α : Type) where
  read : Tree → Except Defect α
  write : α → Json

mutual

def Tree.skipFault? : Tree → Option SyntaxFault
  | .null => none
  | .boolean _ => none
  | .number _ => none
  | .text _ ending => ending.fault?
  | .list items stop => (skipItemsFault? items).or (listStopFault? stop)
  | .object members stop => (skipMembersFault? members).or (objectStopFault? stop)
  | .brokenWord true => some .endInValue
  | .brokenWord false => some .wordExpected
  | .brokenNumber _ => some .invalidNumber
  | .absent => some .endInValue
  | .closing => some .valueExpected
  | .stray => some .valueExpected
where
  listStopFault? : ListStop → Option SyntaxFault
    | .closed => none
    | .ended => some .endInList
    | .unseparated => some .itemSeparatorExpected
    | .inside => none
  objectStopFault? : ObjectStop → Option SyntaxFault
    | .closed => none
    | .ended => some .endInObject
    | .unseparated => some .memberSeparatorExpected
    | .inside => none
    | .endedAfterComma => some .endInObject
    | .closedAfterComma => some .keyNotText
    | .keyNotText => some .keyNotText
    | .keyBroken _ ending => ending.fault?
    | .colonMissing _ true => some .endInObject
    | .colonMissing _ false => some .colonExpected

def skipItemsFault? : List Tree → Option SyntaxFault
  | [] => none
  | item :: rest => (Tree.skipFault? item).or (skipItemsFault? rest)

def skipMembersFault? : List (List Piece × Tree) → Option SyntaxFault
  | [] => none
  | (_, value) :: rest => (Tree.skipFault? value).or (skipMembersFault? rest)

end

/-- A tree whose value nobody wants. -/
def Tree.skip (tree : Tree) : Except Defect Unit :=
  match tree.skipFault? with
  | none => .ok ()
  | some fault => .error (.form fault)

/-- The defect of a tree of another type than the expected one. If the tree is itself broken, or is
a text or number without a meaning, that is its defect. -/
def Tree.mismatch (expected : String) : Tree → Defect
  | .null => .wrongType .null expected
  | .boolean value => .wrongType (.boolean value) expected
  | .number numeral =>
      match numeral.number with
      | .ok meant => .wrongType meant.described expected
      | .error fault => .form fault
  | .text pieces ending =>
      match pieceText ending pieces with
      | .ok meant => .wrongType (.text meant) expected
      | .error fault => .form fault
  | .list _ _ => .wrongType .sequence expected
  | .object _ _ => .wrongType .map expected
  | .brokenWord true => .form .endInValue
  | .brokenWord false => .form .wordExpected
  | .brokenNumber true => .form .endInValue
  | .brokenNumber false => .form .invalidNumber
  | .absent => .form .endInValue
  | .closing => .form .valueExpected
  | .stray => .form .valueExpected

namespace Codec

/-- A text under a name of its own in messages. -/
def textAs (expected : String) : Codec String where
  read
    | .text pieces ending => (pieceText ending pieces).mapError .form
    | tree => .error (tree.mismatch expected)
  write := .text

def text : Codec String := textAs "a string"

/-- A path of the file system. -/
def path : Codec String := textAs "path string"

def boolean : Codec Bool where
  read
    | .boolean value => .ok value
    | tree => .error (tree.mismatch "a boolean")
  write := .boolean

/-- A natural number below a bound, under the name of its type in messages. -/
def natural (bound : Nat) (expected : String) : Codec { value : Nat // value < bound } where
  read
    | .number numeral =>
        match numeral.number with
        | .error fault => .error (.form fault)
        | .ok (.natural value) =>
            if inside : value < bound then .ok ⟨value, inside⟩
            else .error (.wrongValue (.integer value) expected)
        | .ok (.negative value) => .error (.wrongValue (.integer value) expected)
        | .ok (.floating value) => .error (.wrongType (Number.floating value).described expected)
    | tree => .error (tree.mismatch expected)
  write value := .number value.val

/-- A codec for a type whose values correspond to those of another. -/
def transport {α β : Type} (codec : Codec α) (forth : α → β) (back : β → α) : Codec β where
  read tree := (codec.read tree).map forth
  write value := codec.write (back value)

def word16 : Codec UInt16 :=
  (natural UInt16.size "u16").transport (fun value => UInt16.ofNatLT value.val value.property)
    fun word => ⟨word.toNat, word.toNat_lt⟩

def word32 : Codec UInt32 :=
  (natural UInt32.size "u32").transport (fun value => UInt32.ofNatLT value.val value.property)
    fun word => ⟨word.toNat, word.toNat_lt⟩

def index : Codec UInt64 :=
  (natural UInt64.size "usize").transport (fun value => UInt64.ofNatLT value.val value.property)
    fun word => ⟨word.toNat, word.toNat_lt⟩

def address : Codec Ipv4 where
  read tree := do
    let text ← (textAs "IPv4 address").read tree
    match Ipv4.ofText? text with
    | some address => .ok address
    | none => .error (.unreadable "invalid IPv4 address syntax")
  write address := .text address.text

def optional {α : Type} (codec : Codec α) : Codec (Option α) where
  read
    | .null => .ok none
    | tree => (codec.read tree).map some
  write
    | none => .null
    | some value => codec.write value

/-- The items of a list, up to what follows them. -/
def readItems {α : Type} (codec : Codec α) (stop : ListStop) : List Tree → Except Defect (List α)
  | [] =>
      match stop with
      | .closed => .ok []
      | .ended => .error (.form .endInList)
      | .unseparated => .error (.form .itemSeparatorExpected)
      | .inside => .error (.form .endInValue)
  | .closing :: _ => .error (.form .trailingComma)
  | item :: rest => do
      let value ← codec.read item
      let values ← readItems codec stop rest
      pure (value :: values)

def list {α : Type} (codec : Codec α) : Codec (List α) where
  read
    | .list items stop => readItems codec stop items
    | tree => .error (tree.mismatch "a sequence")
  write values := .list (values.map codec.write)

/-- The value of a document, behind which nothing may follow. -/
def ofDocument {α : Type} (codec : Codec α) (document : Document) : Except Defect α := do
  let value ← codec.read document.tree
  if document.trailing then .error (.form .trailingCharacters) else .ok value

/-- The value that these bytes hold. -/
def ofBytes {α : Type} (codec : Codec α) (bytes : Bytes) : Except Defect α :=
  codec.ofDocument (Document.ofBytes bytes)

end Codec

end OverlayNet.Json
