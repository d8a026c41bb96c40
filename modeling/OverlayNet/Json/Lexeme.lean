import OverlayNet.Json.Numeral
import OverlayNet.Json.Text

set_option autoImplicit false

/-! # Lexemes of JSON documents

A document is a sequence of marks, words, numbers and texts between blanks. A lexeme that is broken
off is the last one: nothing behind it is looked at. -/

namespace OverlayNet.Json

/-- A unit of the form of a document. -/
inductive Lexeme where
  | objectOpen
  | objectClose
  | listOpen
  | listClose
  | comma
  | colon
  | null
  | boolean (value : Bool)
  | number (numeral : Numeral)
  /-- A text, with what ends it. -/
  | text (pieces : List Piece) (ending : Ending)
  /-- A word that breaks off, at the end of the document or before another character. -/
  | brokenWord (atEnd : Bool)
  /-- A number that lacks a digit, at the end of the document or before another character, or that
  has a digit too many behind a leading zero. -/
  | brokenNumber (atEnd : Bool)
  /-- A byte with which no lexeme starts. -/
  | stray (byte : UInt8)
deriving DecidableEq, Repr

def isBlankByte (byte : UInt8) : Bool :=
  byte == 0x20 || byte == 0x0A || byte == 0x0D || byte == 0x09

def isDigitByte (byte : UInt8) : Bool :=
  0x30 ≤ byte && byte ≤ 0x39

def hexadecimalValue? (byte : UInt8) : Option Nat :=
  if isDigitByte byte then some (byte.toNat - 0x30)
  else if 0x61 ≤ byte && byte ≤ 0x66 then some (byte.toNat - 0x61 + 10)
  else if 0x41 ≤ byte && byte ≤ 0x46 then some (byte.toNat - 0x41 + 10)
  else none

/-- The unit that four hexadecimal digits spell. -/
def unitValue? (first second third fourth : UInt8) : Option Nat := do
  let first ← hexadecimalValue? first
  let second ← hexadecimalValue? second
  let third ← hexadecimalValue? third
  let fourth ← hexadecimalValue? fourth
  pure (((first * 16 + second) * 16 + third) * 16 + fourth)

/-- The byte for which a letter behind a backslash stands. -/
def escapedByte? (letter : UInt8) : Option UInt8 :=
  match Char.ofNat letter.toNat with
  | '"' => some 0x22
  | '\\' => some 0x5C
  | '/' => some 0x2F
  | 'b' => some 0x08
  | 'f' => some 0x0C
  | 'n' => some 0x0A
  | 'r' => some 0x0D
  | 't' => some 0x09
  | _ => none

/-- The pieces of a text behind its opening quote, what ends it, and the bytes behind it. -/
def scanText : Bytes → List Piece × Ending × Bytes
  | [] => ([], .ended, [])
  | byte :: rest =>
      if byte = 0x22 then ([], .closed, rest)
      else if byte = 0x5C then
        match rest with
        | [] => ([], .ended, [])
        | letter :: rest =>
            if letter = 0x75 then
              match rest with
              | first :: second :: third :: fourth :: rest =>
                  match unitValue? first second third fourth with
                  | none => ([], .malformedUnit, [])
                  | some value =>
                      let (pieces, ending, behind) := scanText rest
                      (.unit value :: pieces, ending, behind)
              | _ => ([], .ended, [])
            else
              match escapedByte? letter with
              | none => ([], .unknownEscape, [])
              | some escaped =>
                  let (pieces, ending, behind) := scanText rest
                  (.escape escaped :: pieces, ending, behind)
      else if byte < 0x20 then ([], .control, [])
      else
        let (pieces, ending, behind) := scanText rest
        (.plain byte :: pieces, ending, behind)

/-- The bytes behind a word whose remaining letters are given, or whether the document ends in
it. -/
def scanWord : (letters bytes : Bytes) → Except Bool Bytes
  | [], bytes => .ok bytes
  | _ :: _, [] => .error true
  | letter :: letters, byte :: bytes =>
      if byte = letter then scanWord letters bytes else .error false

/-- The values of the digits at the start of the bytes, and the bytes behind them. -/
def scanDigits (bytes : Bytes) : List Nat × Bytes :=
  ((bytes.takeWhile isDigitByte).map fun byte => byte.toNat - 0x30, bytes.dropWhile isDigitByte)

/-- The digits that must stand here, or whether the document ends here. -/
def scanSomeDigits (bytes : Bytes) : Except Bool (List Nat × Bytes) :=
  let (digits, behind) := scanDigits bytes
  if digits.isEmpty then .error behind.isEmpty else .ok (digits, behind)

/-- The digits before the point: behind a zero no further digit may stand. -/
def scanWhole (bytes : Bytes) : Except Bool (List Nat × Bytes) :=
  match scanSomeDigits bytes with
  | .ok (0 :: _ :: _, _) => .error false
  | scanned => scanned

/-- The digits behind a point, if a point stands here. -/
def scanFraction (bytes : Bytes) : Except Bool (List Nat × Bytes) :=
  match bytes with
  | [] => .ok ([], [])
  | byte :: rest => if byte = 0x2E then scanSomeDigits rest else .ok ([], byte :: rest)

/-- Whether a minus sign stands here, and the bytes behind a sign of either kind. -/
def scanSign : Bytes → Bool × Bytes
  | [] => (false, [])
  | sign :: unsigned =>
      if sign = 0x2D then (true, unsigned)
      else if sign = 0x2B then (false, unsigned)
      else (false, sign :: unsigned)

/-- The sign and the digits behind the mark of an exponent, if such a mark stands here. -/
def scanExponent (bytes : Bytes) : Except Bool (Option (Bool × List Nat) × Bytes) :=
  match bytes with
  | [] => .ok (none, [])
  | byte :: rest =>
      if byte = 0x65 ∨ byte = 0x45 then
        let (negative, unsigned) := scanSign rest
        (scanSomeDigits unsigned).map fun (digits, behind) => (some (negative, digits), behind)
      else .ok (none, byte :: rest)

/-- A number behind its sign, if it has one. -/
def scanNumber (negative : Bool) (bytes : Bytes) : Except Bool (Numeral × Bytes) := do
  let (whole, behindWhole) ← scanWhole bytes
  let (fraction, behindFraction) ← scanFraction behindWhole
  let (exponent, behind) ← scanExponent behindFraction
  pure (⟨negative, whole, fraction, exponent⟩, behind)

/-- The lexeme that starts with the given byte, and the bytes behind it. -/
def scanLexeme (byte : UInt8) (rest : Bytes) : Lexeme × Bytes :=
  let word (letters : Bytes) (lexeme : Lexeme) :=
    match scanWord letters rest with
    | .ok behind => (lexeme, behind)
    | .error atEnd => (.brokenWord atEnd, [])
  let number (scanned : Except Bool (Numeral × Bytes)) :=
    match scanned with
    | .ok (numeral, behind) => (.number numeral, behind)
    | .error atEnd => (.brokenNumber atEnd, [])
  match Char.ofNat byte.toNat with
  | '\x7b' => (.objectOpen, rest)
  | '\x7d' => (.objectClose, rest)
  | '[' => (.listOpen, rest)
  | ']' => (.listClose, rest)
  | ',' => (.comma, rest)
  | ':' => (.colon, rest)
  | 'n' => word [0x75, 0x6C, 0x6C] .null
  | 't' => word [0x72, 0x75, 0x65] (.boolean true)
  | 'f' => word [0x61, 0x6C, 0x73, 0x65] (.boolean false)
  | '"' =>
      let (pieces, ending, behind) := scanText rest
      (.text pieces ending, behind)
  | '-' => number (scanNumber true rest)
  | _ =>
      if isDigitByte byte then number (scanNumber false (byte :: rest)) else (.stray byte, [])

private theorem length_scanText (bytes : Bytes) : (scanText bytes).2.2.length ≤ bytes.length := by
  fun_induction scanText bytes <;> simp_all <;> omega

private theorem length_scanWord {letters bytes behind : Bytes}
    (scanned : scanWord letters bytes = .ok behind) : behind.length ≤ bytes.length := by
  fun_induction scanWord letters bytes with
  | case1 => simp_all
  | case2 => simp at scanned
  | case3 _ _ _ ih => simpa using Nat.le_succ_of_le (ih scanned)
  | case4 => simp at scanned

private theorem length_scanSomeDigits {bytes behind : Bytes} {digits : List Nat}
    (scanned : scanSomeDigits bytes = .ok (digits, behind)) : behind.length < bytes.length := by
  have parts :=
    congrArg List.length (List.takeWhile_append_dropWhile (p := isDigitByte) (l := bytes))
  rw [List.length_append] at parts
  by_cases none : bytes.takeWhile isDigitByte = []
  · simp [scanSomeDigits, scanDigits, none] at scanned
  · have taken : (bytes.takeWhile isDigitByte).length ≠ 0 := by simpa using none
    simp only [scanSomeDigits, scanDigits, List.isEmpty_map, List.isEmpty_iff, none, if_false,
      Except.ok.injEq, Prod.mk.injEq] at scanned
    rw [← scanned.2]
    omega

private theorem length_scanWhole {bytes behind : Bytes} {digits : List Nat}
    (scanned : scanWhole bytes = .ok (digits, behind)) : behind.length < bytes.length := by
  rw [scanWhole] at scanned
  split at scanned
  · simp at scanned
  · exact length_scanSomeDigits scanned

private theorem length_scanFraction {bytes behind : Bytes} {digits : List Nat}
    (scanned : scanFraction bytes = .ok (digits, behind)) : behind.length ≤ bytes.length := by
  cases bytes with
  | nil => simp_all [scanFraction]
  | cons byte rest =>
      by_cases point : byte = 0x2E
      · simp only [scanFraction, point, if_true] at scanned
        exact Nat.le_succ_of_le (Nat.le_of_lt (length_scanSomeDigits scanned))
      · simp only [scanFraction, point, if_false, Except.ok.injEq, Prod.mk.injEq] at scanned
        exact Nat.le_of_eq (congrArg List.length scanned.2.symm)

private theorem length_scanSign (bytes : Bytes) : (scanSign bytes).2.length ≤ bytes.length := by
  cases bytes with
  | nil => simp [scanSign]
  | cons sign unsigned =>
      simp only [scanSign]
      split
      · simp
      · split <;> simp

private theorem length_scanExponent {bytes behind : Bytes} {exponent : Option (Bool × List Nat)}
    (scanned : scanExponent bytes = .ok (exponent, behind)) : behind.length ≤ bytes.length := by
  cases bytes with
  | nil => simp_all [scanExponent]
  | cons byte rest =>
      by_cases mark : byte = 0x65 ∨ byte = 0x45
      · simp only [scanExponent, mark, if_true] at scanned
        cases digits : scanSomeDigits (scanSign rest).2 with
        | error atEnd => simp [digits, Except.map] at scanned
        | ok result =>
            obtain ⟨values, remaining⟩ := result
            have unsigned := length_scanSign rest
            have shorter := length_scanSomeDigits digits
            simp only [digits, Except.map, Except.ok.injEq, Prod.mk.injEq] at scanned
            rw [← scanned.2, List.length_cons]
            omega
      · simp only [scanExponent, mark, if_false, Except.ok.injEq, Prod.mk.injEq] at scanned
        exact Nat.le_of_eq (congrArg List.length scanned.2.symm)

private theorem length_scanNumber {negative : Bool} {bytes behind : Bytes} {numeral : Numeral}
    (scanned : scanNumber negative bytes = .ok (numeral, behind)) :
    behind.length < bytes.length := by
  simp only [scanNumber, bind, Except.bind] at scanned
  cases whole : scanWhole bytes with
  | error atEnd => simp [whole] at scanned
  | ok wholePart =>
      obtain ⟨wholeDigits, behindWhole⟩ := wholePart
      cases fraction : scanFraction behindWhole with
      | error atEnd => simp [whole, fraction] at scanned
      | ok fractionPart =>
          obtain ⟨fractionDigits, behindFraction⟩ := fractionPart
          cases exponent : scanExponent behindFraction with
          | error atEnd => simp [whole, fraction, exponent] at scanned
          | ok exponentPart =>
              have first := length_scanWhole whole
              have second := length_scanFraction fraction
              have third := length_scanExponent exponent
              simp only [whole, fraction, exponent, pure, Except.pure, Except.ok.injEq,
                Prod.mk.injEq] at scanned
              rw [← scanned.2]
              omega

private theorem length_scanLexeme (byte : UInt8) (rest : Bytes) :
    (scanLexeme byte rest).2.length ≤ rest.length := by
  have word (letters : Bytes) (lexeme : Lexeme) :
      (match scanWord letters rest with
        | .ok behind => (lexeme, behind)
        | .error atEnd => (Lexeme.brokenWord atEnd, [])).2.length ≤ rest.length := by
    cases scanned : scanWord letters rest with
    | error atEnd => simp
    | ok behind => exact length_scanWord scanned
  have number (negative : Bool) (bytes : Bytes) (bounded : bytes.length ≤ rest.length + 1) :
      (match scanNumber negative bytes with
        | .ok (numeral, behind) => (Lexeme.number numeral, behind)
        | .error atEnd => (Lexeme.brokenNumber atEnd, [])).2.length ≤ rest.length := by
    cases scanned : scanNumber negative bytes with
    | error atEnd => simp
    | ok part =>
        obtain ⟨numeral, behind⟩ := part
        have shorter := length_scanNumber scanned
        simp only
        omega
  simp only [scanLexeme]
  split
  case h_7 => exact word _ _
  case h_8 => exact word _ _
  case h_9 => exact word _ _
  case h_10 => exact length_scanText rest
  case h_11 => exact number _ _ (by omega)
  case h_12 =>
    split
    · exact number _ _ (by simp)
    · simp
  all_goals exact Nat.le_refl _

def lexemes : Bytes → List Lexeme
  | [] => []
  | byte :: rest =>
      if isBlankByte byte then lexemes rest
      else
        let scanned := scanLexeme byte rest
        scanned.1 :: lexemes scanned.2
termination_by bytes => bytes.length
decreasing_by
  · simp
  · have shorter := length_scanLexeme byte rest
    simp only [List.length_cons]
    omega

end OverlayNet.Json
