import OverlayNet.Json.Defect
import OverlayNet.Text.Bytes

set_option autoImplicit false

/-! # Texts of JSON documents

The written form of a text is a sequence of pieces: bytes that stand for themselves, escapes of one
character and escapes of one UTF-16 unit. Where a text is wanted its units must pair up and its
bytes must be UTF-8; where it is skipped only the pieces themselves must be well formed. -/

namespace OverlayNet.Json

inductive Piece where
  /-- A byte that stands for itself. -/
  | plain (byte : UInt8)
  /-- An escape of one letter, by the byte for which it stands. -/
  | escape (byte : UInt8)
  /-- An escape of four hexadecimal digits, by the UTF-16 unit that they spell. -/
  | unit (value : Nat)
deriving DecidableEq, Repr

/-- What ends a sequence of pieces. -/
inductive Ending where
  | closed
  | ended
  | control
  /-- A backslash before a character that forms no escape. -/
  | unknownEscape
  /-- The start of a unit escape before characters that are not four hexadecimal digits. -/
  | malformedUnit
deriving DecidableEq, Repr

/-- The fault of an ending that does not close the text. -/
def Ending.fault? : Ending → Option SyntaxFault
  | .closed => none
  | .ended => some .endInText
  | .control => some .controlCharacter
  | .unknownEscape => some .invalidEscape
  | .malformedUnit => some .invalidEscape

/-- The fault of an ending right behind the first unit of a pair: only a second unit may follow. -/
def Ending.faultInPair : Ending → SyntaxFault
  | .closed => .pairUnfinished
  | .ended => .endInText
  | .control => .pairUnfinished
  | .unknownEscape => .pairUnfinished
  | .malformedUnit => .invalidEscape

/-- Whether a unit is the first of a pair. -/
def isHighUnit (unit : Nat) : Bool :=
  0xD800 ≤ unit && unit < 0xDC00

/-- Whether a unit is the second of a pair. -/
def isLowUnit (unit : Nat) : Bool :=
  0xDC00 ≤ unit && unit < 0xE000

def codePointBytes (codePoint : Nat) : Bytes :=
  Bytes.ofText (String.singleton (Char.ofNat codePoint))

/-- The code point that a pair of units spells. -/
def pairedCodePoint (high low : Nat) : Nat :=
  (high - 0xD800) * 0x400 + (low - 0xDC00) + 0x10000

/-- The bytes for which the pieces of a text stand, up to its ending. -/
def pieceBytes (ending : Ending) : List Piece → Except SyntaxFault Bytes
  | [] =>
      match ending.fault? with
      | none => .ok []
      | some fault => .error fault
  | .plain byte :: rest => (pieceBytes ending rest).map (byte :: ·)
  | .escape byte :: rest => (pieceBytes ending rest).map (byte :: ·)
  | [.unit value] =>
      if isLowUnit value then .error .loneSurrogate
      else if isHighUnit value then .error ending.faultInPair
      else (pieceBytes ending []).map (codePointBytes value ++ ·)
  | .unit value :: .unit next :: rest =>
      if isLowUnit value then .error .loneSurrogate
      else if isHighUnit value then
        if isLowUnit next then
          (pieceBytes ending rest).map (codePointBytes (pairedCodePoint value next) ++ ·)
        else .error .loneSurrogate
      else (pieceBytes ending (.unit next :: rest)).map (codePointBytes value ++ ·)
  | .unit value :: next :: rest =>
      if isLowUnit value then .error .loneSurrogate
      else if isHighUnit value then .error .pairUnfinished
      else (pieceBytes ending (next :: rest)).map (codePointBytes value ++ ·)

/-- The text for which its pieces stand. That its bytes are UTF-8 is checked last. -/
def pieceText (ending : Ending) (pieces : List Piece) : Except SyntaxFault String :=
  match pieceBytes ending pieces with
  | .error fault => .error fault
  | .ok bytes =>
      match Bytes.text? bytes with
      | some content => .ok content
      | none => .error .notUnicode

end OverlayNet.Json
