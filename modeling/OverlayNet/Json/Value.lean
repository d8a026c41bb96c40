import OverlayNet.Decimal.Natural

set_option autoImplicit false

/-! # JSON values and their text

A value is written on one line, without blanks, or over several lines, two blanks to a level. Both
forms keep the members of an object in order and escape the same characters. -/

namespace OverlayNet

/-- A value to be written. Members of an object keep their order. -/
inductive Json where
  | null
  | boolean (value : Bool)
  | number (value : Nat)
  | text (value : String)
  | list (items : List Json)
  | object (members : List (String × Json))

namespace Json

/-- How a character is written inside a text. Quotes, backslashes and control characters are
escaped, and nothing else. -/
def escapedCharacter (character : Char) : List Char :=
  match character with
  | '"' => ['\\', '"']
  | '\\' => ['\\', '\\']
  | '\x08' => ['\\', 'b']
  | '\x0c' => ['\\', 'f']
  | '\n' => ['\\', 'n']
  | '\r' => ['\\', 'r']
  | '\t' => ['\\', 't']
  | _ =>
      if character.toNat < 0x20 then
        ['\\', 'u'] ++ (Nat.toDigits 16 character.toNat).leftpad 4 '0'
      else [character]

/-- A text between quotes. -/
def writtenText (text : String) : List Char :=
  '"' :: text.toList.flatMap escapedCharacter ++ ['"']

def writtenBoolean : Bool → List Char
  | true => "true".toList
  | false => "false".toList

mutual

/-- The characters of a value on one line. -/
def compactCharacters : Json → List Char
  | null => "null".toList
  | boolean value => writtenBoolean value
  | number value => Decimal.digits value
  | text value => writtenText value
  | list items => '[' :: compactItems items ++ [']']
  | object members => '\x7b' :: compactMembers members ++ ['\x7d']

def compactItems : List Json → List Char
  | [] => []
  | [item] => compactCharacters item
  | item :: next :: rest => compactCharacters item ++ ',' :: compactItems (next :: rest)

def compactMembers : List (String × Json) → List Char
  | [] => []
  | [(key, value)] => writtenText key ++ ':' :: compactCharacters value
  | (key, value) :: next :: rest =>
      writtenText key ++ ':' :: compactCharacters value ++ ',' :: compactMembers (next :: rest)

end

/-- The start of a line at the given level. -/
def indentation (level : Nat) : List Char :=
  '\n' :: List.replicate (2 * level) ' '

mutual

/-- The characters of a value over several lines, the first of which starts at the given level. -/
def prettyCharacters (level : Nat) : Json → List Char
  | null => "null".toList
  | boolean value => writtenBoolean value
  | number value => Decimal.digits value
  | text value => writtenText value
  | list [] => "[]".toList
  | list (item :: rest) =>
      '[' :: prettyItems (level + 1) (item :: rest) ++ indentation level ++ [']']
  | object [] => "\x7b\x7d".toList
  | object (member :: rest) =>
      '\x7b' :: prettyMembers (level + 1) (member :: rest) ++ indentation level ++ ['\x7d']

def prettyItems (level : Nat) : List Json → List Char
  | [] => []
  | [item] => indentation level ++ prettyCharacters level item
  | item :: next :: rest =>
      indentation level ++ prettyCharacters level item ++ ',' :: prettyItems level (next :: rest)

def prettyMembers (level : Nat) : List (String × Json) → List Char
  | [] => []
  | [(key, value)] =>
      indentation level ++ writtenText key ++ ':' :: ' ' :: prettyCharacters level value
  | (key, value) :: next :: rest =>
      indentation level ++ writtenText key ++ ':' :: ' ' :: prettyCharacters level value ++
        ',' :: prettyMembers level (next :: rest)

end

def compact (value : Json) : String :=
  String.ofList value.compactCharacters

def pretty (value : Json) : String :=
  String.ofList (value.prettyCharacters 0)

end Json

end OverlayNet
