import OverlayNet.Decimal.Natural
import OverlayNet.Text.Quoted

set_option autoImplicit false

/-! # Defects of JSON documents

A document is refused for its form or for its content. The first problem in document order is the
one that is reported. -/

namespace OverlayNet.Json

inductive SyntaxFault where
  | endInValue
  | endInObject
  | endInList
  | endInText
  | valueExpected
  | wordExpected
  | colonExpected
  | memberSeparatorExpected
  | itemSeparatorExpected
  | keyNotText
  | trailingComma
  | trailingCharacters
  | invalidNumber
  | numberOutOfRange
  | invalidEscape
  | controlCharacter
  | notUnicode
  | pairUnfinished
  | loneSurrogate
deriving DecidableEq, Repr

def SyntaxFault.text : SyntaxFault → String
  | .endInValue => "EOF while parsing a value"
  | .endInObject => "EOF while parsing an object"
  | .endInList => "EOF while parsing a list"
  | .endInText => "EOF while parsing a string"
  | .valueExpected => "expected value"
  | .wordExpected => "expected ident"
  | .colonExpected => "expected `:`"
  | .memberSeparatorExpected => "expected `,` or `\x7d`"
  | .itemSeparatorExpected => "expected `,` or `]`"
  | .keyNotText => "key must be a string"
  | .trailingComma => "trailing comma"
  | .trailingCharacters => "trailing characters"
  | .invalidNumber => "invalid number"
  | .numberOutOfRange => "number out of range"
  | .invalidEscape => "invalid escape"
  | .controlCharacter => "control character (\\u0000-\\u001F) found while parsing a string"
  | .notUnicode => "invalid unicode code point"
  | .pairUnfinished => "unexpected end of hex escape"
  | .loneSurrogate => "lone leading surrogate in hex escape"

inductive Described where
  | null
  | boolean (value : Bool)
  | integer (value : Int)
  /-- A number that is no integer of 64 bits, by its shortest text. -/
  | floating (text : String)
  | text (value : String)
  | sequence
  | map
deriving DecidableEq, Repr

def Described.wording : Described → String
  | .null => "null"
  | .boolean true => "boolean `true`"
  | .boolean false => "boolean `false`"
  | .integer value => "integer `" ++ toString value ++ "`"
  | .floating shown => "floating point `" ++ shown ++ "`"
  | .text value => "string " ++ Text.quoted value
  | .sequence => "sequence"
  | .map => "map"

inductive Defect where
  | form (fault : SyntaxFault)
  /-- A value has another type than the one expected. -/
  | wrongType (found : Described) (expected : String)
  /-- A value of the right type lies outside the expected range. -/
  | wrongValue (found : Described) (expected : String)
  /-- A list of fields is too short. -/
  | wrongLength (length : Nat) (expected : String)
  | missingField (name : String)
  | duplicateField (name : String)
  /-- A text does not spell a value of the expected kind. -/
  | unreadable (reason : String)
deriving DecidableEq, Repr

def Defect.text : Defect → String
  | .form fault => fault.text
  | .wrongType found expected => "invalid type: " ++ found.wording ++ ", expected " ++ expected
  | .wrongValue found expected => "invalid value: " ++ found.wording ++ ", expected " ++ expected
  | .wrongLength length expected =>
      "invalid length " ++ Decimal.text length ++ ", expected " ++ expected
  | .missingField name => "missing field `" ++ name ++ "`"
  | .duplicateField name => "duplicate field `" ++ name ++ "`"
  | .unreadable reason => reason

end OverlayNet.Json
