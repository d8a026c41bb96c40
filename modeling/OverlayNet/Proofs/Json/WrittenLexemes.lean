import Mathlib
import OverlayNet.Json.Lexeme
import OverlayNet.Json.Value
import OverlayNet.Proofs.Address.TextReading
import OverlayNet.Proofs.Json.TokenSpelling
import OverlayNet.Proofs.Text.Encoding

set_option autoImplicit false

/-! # Written texts and numbers

The characters of a written text spell the pieces of that text, whatever characters it has, and the
pieces stand for the text. The digits of a written number spell its digits. -/

namespace OverlayNet

namespace Json

open Bytes (encoded)

/-- The characters that are escaped by a letter. -/
def letterEscaped : List Char :=
  ['"', '\\', '\x08', '\x0c', '\n', '\r', '\t']

/-- The pieces as which the written form of a character is read. -/
def characterPieces (character : Char) : List Piece :=
  if character ∈ letterEscaped then [.escape (UInt8.ofNat character.toNat)]
  else if character.toNat < 0x20 then [.unit character.toNat]
  else (String.utf8EncodeChar character).map .plain

def textPieces (text : String) : List Piece :=
  text.toList.flatMap characterPieces

section Texts

variable {character : Char}

private theorem encoded_letterEscape (escaped : character ∈ letterEscaped) :
    ∃ letter, encoded (escapedCharacter character) = [0x5C, letter] ∧
      (letter, UInt8.ofNat character.toNat) ∈ letterEscapes := by
  simp only [letterEscaped, List.mem_cons, List.not_mem_nil, or_false] at escaped
  rcases escaped with rfl | rfl | rfl | rfl | rfl | rfl | rfl <;> exact ⟨_, rfl, by decide⟩

private theorem encoded_unitEscape (control : character.toNat < 0x20)
    (unescaped : character ∉ letterEscaped) :
    ∃ digits, encoded (escapedCharacter character) = 0x5C :: 0x75 :: digits ∧
      SpellsUnit character.toNat digits := by
  obtain ⟨code, rfl⟩ : ∃ code : Fin 0x20, character = Char.ofNat code :=
    ⟨⟨character.toNat, control⟩, (Char.ofNat_toNat character).symm⟩
  clear control
  revert unescaped
  fin_cases code <;> intro unescaped <;>
    first | exact absurd (by decide) unescaped | exact ⟨_, rfl, spellsUnit_iff.mp rfl⟩

theorem escapedCharacter_of_visible (visible : 0x20 ≤ character.toNat)
    (unescaped : character ∉ letterEscaped) : escapedCharacter character = [character] := by
  simp only [letterEscaped, List.mem_cons, List.not_mem_nil, or_false, not_or] at unescaped
  obtain ⟨quote, backslash, backspace, formFeed, newline, carriageReturn, tab⟩ := unescaped
  unfold escapedCharacter
  split <;> first | contradiction | rw [if_neg (Nat.not_lt.mpr visible)]

private theorem plain_of_mem_utf8EncodeChar (visible : 0x20 ≤ character.toNat)
    (unescaped : character ∉ letterEscaped) {byte : UInt8}
    (member : byte ∈ String.utf8EncodeChar character) :
    byte ≠ 0x22 ∧ byte ≠ 0x5C ∧ 0x20 ≤ byte := by
  by_cases ascii : character.toNat < 0x80
  · rw [Bytes.utf8EncodeChar_of_ascii ascii, List.mem_singleton] at member
    have value : byte.toNat = character.toNat := by
      rw [member, UInt8.toNat_ofNat_of_lt' (Nat.lt_trans ascii (by decide))]
    have different (code : Nat) (inside : Char.ofNat code ∈ letterEscaped) :
        character.toNat ≠ code := by
      rintro rfl
      rw [Char.ofNat_toNat] at inside
      exact unescaped inside
    refine ⟨?_, ?_, ?_⟩
    · rintro rfl
      exact different 0x22 (by decide) value.symm
    · rintro rfl
      exact different 0x5C (by decide) value.symm
    · rw [UInt8.le_iff_toNat_le, value]
      exact visible
  · have great := Bytes.le_of_mem_utf8EncodeChar (Nat.le_of_not_lt ascii) member
    rw [UInt8.le_iff_toNat_le] at great
    refine ⟨?_, ?_, ?_⟩
    · rintro rfl
      exact absurd great (by decide)
    · rintro rfl
      exact absurd great (by decide)
    · rw [UInt8.le_iff_toNat_le]
      exact Nat.le_trans (by decide) great

private theorem spellsPieces_plains {bytes : Bytes}
    (plain : ∀ byte ∈ bytes, byte ≠ 0x22 ∧ byte ≠ 0x5C ∧ 0x20 ≤ byte) {pieces : List Piece}
    {rest : Bytes} (behind : SpellsPieces pieces rest) :
    SpellsPieces (bytes.map .plain ++ pieces) (bytes ++ rest) := by
  induction bytes with
  | nil => exact behind
  | cons byte bytes ih =>
      obtain ⟨quote, backslash, visible⟩ := plain byte List.mem_cons_self
      exact .plain quote backslash visible
        (ih fun other member => plain other (List.mem_cons_of_mem byte member))

/-- The written form of a character spells its pieces. -/
theorem spellsPieces_escapedCharacter (character : Char) {pieces : List Piece} {rest : Bytes}
    (behind : SpellsPieces pieces rest) :
    SpellsPieces (characterPieces character ++ pieces)
      (encoded (escapedCharacter character) ++ rest) := by
  by_cases escaped : character ∈ letterEscaped
  · obtain ⟨letter, written, listed⟩ := encoded_letterEscape escaped
    rw [characterPieces, if_pos escaped, written]
    exact .escape listed behind
  · by_cases control : character.toNat < 0x20
    · obtain ⟨digits, written, spelled⟩ := encoded_unitEscape control escaped
      rw [characterPieces, if_neg escaped, if_pos control, written]
      exact .unit spelled behind
    · have visible := Nat.le_of_not_lt control
      rw [characterPieces, if_neg escaped, if_neg control,
        escapedCharacter_of_visible visible escaped, Bytes.encoded_cons, Bytes.encoded_nil,
        List.append_nil]
      exact spellsPieces_plains (fun byte => plain_of_mem_utf8EncodeChar visible escaped) behind

private theorem spellsPieces_writtenCharacters (characters : List Char) :
    SpellsPieces (characters.flatMap characterPieces)
      (encoded (characters.flatMap escapedCharacter)) := by
  induction characters with
  | nil => exact .none
  | cons character characters ih =>
      rw [List.flatMap_cons, List.flatMap_cons, Bytes.encoded_append]
      exact spellsPieces_escapedCharacter character ih

/-- What is written for a text spells its pieces between quotes. -/
theorem spelled_writtenText (text : String) :
    (Lexeme.text (textPieces text) .closed).Spelled (encoded (writtenText text)) := by
  rw [writtenText, Bytes.encoded_append]
  exact .text (spellsPieces_writtenCharacters text.toList)

end Texts

section Meaning

/-- A unit that belongs to no pair stands for its code point. -/
theorem pieceBytes_unit {value : Nat} (low : value < 0xD800) (ending : Ending)
    (rest : List Piece) :
    pieceBytes ending (.unit value :: rest) =
      (pieceBytes ending rest).map (codePointBytes value ++ ·) := by
  have notLow : isLowUnit value = false := by simp [isLowUnit]; omega
  have notHigh : isHighUnit value = false := by simp [isHighUnit]; omega
  rcases rest with _ | ⟨next, rest⟩
  · simp [pieceBytes, notLow, notHigh]
  · cases next <;> simp [pieceBytes, notLow, notHigh]

private theorem pieceBytes_plains (ending : Ending) (bytes : Bytes) (rest : List Piece) :
    pieceBytes ending (bytes.map .plain ++ rest) =
      (pieceBytes ending rest).map (bytes ++ ·) := by
  induction bytes with
  | nil =>
      rw [List.map_nil, List.nil_append]
      cases pieceBytes ending rest <;> rfl
  | cons byte bytes ih =>
      rw [List.map_cons, List.cons_append, pieceBytes, ih]
      cases pieceBytes ending rest <;> rfl

private theorem codePointBytes_toNat (character : Char) :
    codePointBytes character.toNat = String.utf8EncodeChar character := by
  rw [codePointBytes, Char.ofNat_toNat, String.singleton_eq_ofList, Bytes.ofText_ofList]
  simp

private theorem pieceBytes_characterPieces (ending : Ending) (character : Char)
    (rest : List Piece) :
    pieceBytes ending (characterPieces character ++ rest) =
      (pieceBytes ending rest).map (String.utf8EncodeChar character ++ ·) := by
  by_cases escaped : character ∈ letterEscaped
  · have ascii : character.toNat < 0x80 := by
      revert escaped
      simp only [letterEscaped, List.mem_cons, List.not_mem_nil, or_false]
      rintro (rfl | rfl | rfl | rfl | rfl | rfl | rfl) <;> decide
    rw [characterPieces, if_pos escaped, Bytes.utf8EncodeChar_of_ascii ascii]
    rfl
  · by_cases control : character.toNat < 0x20
    · rw [characterPieces, if_neg escaped, if_pos control, ← codePointBytes_toNat]
      exact pieceBytes_unit (by omega) ending rest
    · rw [characterPieces, if_neg escaped, if_neg control]
      exact pieceBytes_plains ending _ rest

/-- The pieces of a text stand for the text. -/
theorem pieceText_textPieces (text : String) : pieceText .closed (textPieces text) = .ok text := by
  have bytes (characters : List Char) :
      pieceBytes .closed (characters.flatMap characterPieces) = .ok (encoded characters) := by
    induction characters with
    | nil => rfl
    | cons character characters ih =>
        rw [List.flatMap_cons, pieceBytes_characterPieces, ih]
        rfl
  rw [pieceText, textPieces, bytes, Bytes.encoded_toList]
  simp only [Bytes.text?_ofText]

end Meaning

section Numbers

def digitValue (digit : Char) : Nat :=
  digit.toNat - 0x30

/-- The number as it is read from its written form. -/
def Numeral.ofNatural (value : Nat) : Numeral :=
  ⟨false, (Decimal.digits value).map digitValue, [], none⟩

theorem toNat_of_isDigit {digit : Char} (isDigit : Decimal.isDigit digit = true) :
    0x30 ≤ digit.toNat ∧ digit.toNat ≤ 0x39 := by
  simp only [Decimal.isDigit, Bool.and_eq_true, decide_eq_true_eq, Char.le_def,
    UInt32.le_iff_toNat_le] at isDigit
  exact isDigit

/-- A digit is one byte. -/
theorem utf8EncodeChar_of_isDigit {digit : Char} (isDigit : Decimal.isDigit digit = true) :
    ∃ byte, String.utf8EncodeChar digit = [byte] ∧ SpellsDigit (digitValue digit) byte := by
  obtain ⟨low, high⟩ := toNat_of_isDigit isDigit
  have value : (UInt8.ofNat digit.toNat).toNat = digit.toNat :=
    UInt8.toNat_ofNat_of_lt' (Nat.lt_of_le_of_lt high (by decide))
  refine ⟨_, Bytes.utf8EncodeChar_of_ascii (Nat.lt_of_le_of_lt high (by decide)), ?_, ?_⟩
  · rw [digitValue]
    omega
  · rw [value, digitValue]
    omega

private theorem spellsDigits_encoded {digits : List Char}
    (allDigits : ∀ digit ∈ digits, Decimal.isDigit digit = true) :
    SpellsDigits (digits.map digitValue) (encoded digits) := by
  induction digits with
  | nil => exact .nil
  | cons digit digits ih =>
      obtain ⟨byte, written, spelled⟩ :=
        utf8EncodeChar_of_isDigit (allDigits digit List.mem_cons_self)
      rw [Bytes.encoded_cons, written]
      exact .cons spelled (ih fun other member => allDigits other (List.mem_cons_of_mem _ member))

/-- No number but zero is written with a leading zero. -/
theorem eq_nil_of_digits_eq_zero_cons {value : Nat} {rest : List Char}
    (written : Decimal.digits value = '0' :: rest) : rest = [] := by
  induction value using Nat.base_induction 10 (by decide) generalizing rest with
  | single value small =>
      rw [Decimal.digits, Nat.toDigits_of_lt_base small] at written
      exact (List.cons.inj written).2.symm
  | digit value last lastSmall positive ih =>
      rw [Decimal.digits, ← Nat.toDigits_append_toDigits (by decide) positive lastSmall] at written
      obtain ⟨first, others, front⟩ :=
        List.exists_cons_of_ne_nil (Decimal.digits_ne_nil value)
      have front' : Nat.toDigits 10 value = first :: others := front
      rw [front', List.cons_append] at written
      obtain rfl := (List.cons.inj written).1
      have single := ih front
      have read := Decimal.digits?_digits value
      rw [front, single] at read
      exact absurd (Option.some.inj read) (Nat.ne_of_lt positive)

private theorem digitValue_ne_zero {digit : Char} (isDigit : Decimal.isDigit digit = true)
    (other : digit ≠ '0') : digitValue digit ≠ 0 := by
  obtain ⟨low, -⟩ := toNat_of_isDigit isDigit
  intro zero
  have same : digit.toNat = '0'.toNat := Nat.le_antisymm (Nat.le_of_sub_eq_zero zero) low
  exact other (Char.toNat_inj.mp same)

private theorem spellsWhole_digits (value : Nat) :
    SpellsWhole ((Decimal.digits value).map digitValue) (encoded (Decimal.digits value)) where
  spelled := spellsDigits_encoded fun _ member => Decimal.isDigit_of_mem_digits member
  nonempty none := Decimal.digits_ne_nil value (List.map_eq_nil_iff.mp none)
  unpadded := by
    intro rest zero
    obtain ⟨first, others, written, leading, rfl⟩ := List.map_eq_cons_iff.mp zero
    have isDigit : Decimal.isDigit first = true :=
      Decimal.isDigit_of_mem_digits (written ▸ List.mem_cons_self)
    by_cases other : first = '0'
    · subst other
      rw [eq_nil_of_digits_eq_zero_cons written]
      rfl
    · exact absurd leading (digitValue_ne_zero isDigit other)

/-- What is written for a number spells it. -/
theorem spelled_digits (value : Nat) :
    (Lexeme.number (Numeral.ofNatural value)).Spelled (encoded (Decimal.digits value)) := by
  have spelled : (Numeral.ofNatural value).SpelledUnsigned (encoded (Decimal.digits value) ++ []) :=
    .parts (spellsWhole_digits value) .none .none
  rw [List.append_nil] at spelled
  exact .unsigned spelled rfl

private theorem digitsValue_digits (value : Nat) :
    Numeral.digitsValue 0 ((Decimal.digits value).map digitValue) = value := by
  have folded := Nat.ofDigitChars_ten_toDigits (n := value)
  rw [Nat.ofDigitChars_eq_foldl] at folded
  rw [Numeral.digitsValue, List.foldl_map]
  simp only [Nat.mul_comm] at folded
  exact folded

/-- A number of 64 bits is read as the integer that it is. -/
theorem Numeral.number_ofNatural {value : Nat} (small : value < UInt64.size) :
    (Numeral.ofNatural value).number = .ok (.natural value) := by
  simp [number, ofNatural, digitsValue_digits, small]

end Numbers

theorem spelled_writtenBoolean (value : Bool) :
    (Lexeme.boolean value).Spelled (encoded (writtenBoolean value)) := by
  cases value with
  | false => exact .negative
  | true => exact .positive

end Json

end OverlayNet
