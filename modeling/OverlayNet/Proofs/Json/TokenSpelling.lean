import Mathlib
import OverlayNet.Json.Lexeme
import OverlayNet.Proofs.Procedure

set_option autoImplicit false

/-! # How lexemes are spelled

The spellings of numbers, texts and other lexemes are given apart from the reader, after the grammar
of JSON. Bytes are read as lexemes that are whole exactly if they spell these lexemes in their
order, with any blanks before, between and behind them. -/

namespace OverlayNet.Json

section Numbers

/-- The byte of a decimal digit. -/
def SpellsDigit (digit : Nat) (byte : UInt8) : Prop :=
  digit < 10 ∧ byte.toNat = 0x30 + digit

/-- The spelling of digits, one byte for each. -/
def SpellsDigits (digits : List Nat) (bytes : Bytes) : Prop :=
  List.Forall₂ SpellsDigit digits bytes

/-- The digits before a point: at least one, and a leading zero only alone. -/
structure SpellsWhole (digits : List Nat) (bytes : Bytes) : Prop where
  spelled : SpellsDigits digits bytes
  nonempty : digits ≠ []
  unpadded : ∀ rest, digits = 0 :: rest → rest = []

inductive SpellsFraction : List Nat → Bytes → Prop where
  | none : SpellsFraction [] []
  | point {digits : List Nat} {bytes : Bytes} :
      SpellsDigits digits bytes → digits ≠ [] → SpellsFraction digits (0x2E :: bytes)

inductive SpellsSign : Bool → Bytes → Prop where
  | none : SpellsSign false []
  | plus : SpellsSign false [0x2B]
  | minus : SpellsSign true [0x2D]

inductive SpellsExponent : Option (Bool × List Nat) → Bytes → Prop where
  | none : SpellsExponent .none []
  | power {mark : UInt8} {negative : Bool} {digits : List Nat} {sign bytes : Bytes} :
      mark = 0x65 ∨ mark = 0x45 → SpellsSign negative sign → SpellsDigits digits bytes →
      digits ≠ [] → SpellsExponent (some (negative, digits)) (mark :: (sign ++ bytes))

/-- The spelling of a number behind its minus sign, if it has one. -/
inductive Numeral.SpelledUnsigned : Numeral → Bytes → Prop where
  | parts {negative : Bool} {whole fraction : List Nat} {exponent : Option (Bool × List Nat)}
      {wholeBytes fractionBytes exponentBytes : Bytes} :
      SpellsWhole whole wholeBytes → SpellsFraction fraction fractionBytes →
      SpellsExponent exponent exponentBytes →
      SpelledUnsigned ⟨negative, whole, fraction, exponent⟩
        (wholeBytes ++ (fractionBytes ++ exponentBytes))

end Numbers

/-- The letter behind a backslash and the byte for which it stands. -/
def letterEscapes : List (UInt8 × UInt8) :=
  [(0x22, 0x22), (0x5C, 0x5C), (0x2F, 0x2F), (0x62, 0x08), (0x66, 0x0C), (0x6E, 0x0A),
    (0x72, 0x0D), (0x74, 0x09)]

/-- The byte of a hexadecimal digit, whose letters may be small or capital. -/
def SpellsHexadecimal (digit : Nat) (byte : UInt8) : Prop :=
  SpellsDigit digit byte ∨
    10 ≤ digit ∧ digit < 16 ∧ (byte.toNat + 10 = 0x61 + digit ∨ byte.toNat + 10 = 0x41 + digit)

/-- The spelling of a UTF-16 unit, the most significant digit first. -/
inductive SpellsUnit : Nat → Bytes → Prop where
  | digits {first second third fourth : Nat} {a b c d : UInt8} :
      SpellsHexadecimal first a → SpellsHexadecimal second b → SpellsHexadecimal third c →
      SpellsHexadecimal fourth d →
      SpellsUnit (((first * 16 + second) * 16 + third) * 16 + fourth) [a, b, c, d]

/-- The spelling of the pieces of a text between its quotes. -/
inductive SpellsPieces : List Piece → Bytes → Prop where
  | none : SpellsPieces [] []
  | plain {byte : UInt8} {pieces : List Piece} {rest : Bytes} :
      byte ≠ 0x22 → byte ≠ 0x5C → 0x20 ≤ byte → SpellsPieces pieces rest →
      SpellsPieces (.plain byte :: pieces) (byte :: rest)
  | escape {letter byte : UInt8} {pieces : List Piece} {rest : Bytes} :
      (letter, byte) ∈ letterEscapes → SpellsPieces pieces rest →
      SpellsPieces (.escape byte :: pieces) (0x5C :: letter :: rest)
  | unit {value : Nat} {digits : Bytes} {pieces : List Piece} {rest : Bytes} :
      SpellsUnit value digits → SpellsPieces pieces rest →
      SpellsPieces (.unit value :: pieces) (0x5C :: 0x75 :: (digits ++ rest))

namespace Lexeme

/-- The spelling of a lexeme that is whole. -/
inductive Spelled : Lexeme → Bytes → Prop where
  | objectOpen : Spelled .objectOpen (Bytes.ofText "\x7b")
  | objectClose : Spelled .objectClose (Bytes.ofText "\x7d")
  | listOpen : Spelled .listOpen (Bytes.ofText "[")
  | listClose : Spelled .listClose (Bytes.ofText "]")
  | comma : Spelled .comma (Bytes.ofText ",")
  | colon : Spelled .colon (Bytes.ofText ":")
  | null : Spelled .null (Bytes.ofText "null")
  | positive : Spelled (.boolean true) (Bytes.ofText "true")
  | negative : Spelled (.boolean false) (Bytes.ofText "false")
  | unsigned {numeral : Numeral} {bytes : Bytes} :
      numeral.SpelledUnsigned bytes → numeral.negative = false → Spelled (.number numeral) bytes
  | signed {numeral : Numeral} {bytes : Bytes} :
      numeral.SpelledUnsigned bytes → numeral.negative = true →
      Spelled (.number numeral) (0x2D :: bytes)
  | text {pieces : List Piece} {bytes : Bytes} :
      SpellsPieces pieces bytes → Spelled (.text pieces .closed) (0x22 :: (bytes ++ [0x22]))

/-- Whether nothing of a lexeme is broken off. -/
def Whole : Lexeme → Prop
  | .text _ ending => ending = .closed
  | .brokenWord _ => False
  | .brokenNumber _ => False
  | .stray _ => False
  | _ => True

def IsNumber : Lexeme → Prop
  | .number _ => True
  | _ => False

end Lexeme

/-- Bytes that spell these lexemes in their order, with any blanks before, between and behind
them. -/
inductive Spaced : List Lexeme → Bytes → Prop where
  | done : Spaced [] []
  | blank {byte : UInt8} {lexemes : List Lexeme} {rest : Bytes} :
      byte ∈ [0x20, 0x09, 0x0A, 0x0D] → Spaced lexemes rest → Spaced lexemes (byte :: rest)
  | lexeme {lexeme : Lexeme} {lexemes : List Lexeme} {bytes rest : Bytes} :
      lexeme.Spelled bytes → Spaced lexemes rest → Spaced (lexeme :: lexemes) (bytes ++ rest)

/-- Whether no number stands right behind another one, which would carry it on. -/
def NumbersApart (lexemes : List Lexeme) : Prop :=
  lexemes.IsChain fun first second => ¬ (first.IsNumber ∧ second.IsNumber)

section Digits

/-- Whether these bytes do not start with a digit. -/
def StartsNoDigit (rest : Bytes) : Prop :=
  ∀ byte ∈ rest.head?, isDigitByte byte = false

theorem isDigitByte_eq_true_iff {byte : UInt8} :
    isDigitByte byte = true ↔ 0x30 ≤ byte.toNat ∧ byte.toNat ≤ 0x39 := by
  simp [isDigitByte, UInt8.le_iff_toNat_le]

private theorem SpellsDigit.isDigitByte {digit : Nat} {byte : UInt8}
    (spelled : SpellsDigit digit byte) :
    isDigitByte byte = true := by
  obtain ⟨small, value⟩ := spelled
  rw [isDigitByte_eq_true_iff]
  omega

private theorem spellsDigit_of_isDigitByte {byte : UInt8} (isDigit : isDigitByte byte = true) :
    SpellsDigit (byte.toNat - 0x30) byte := by
  rw [isDigitByte_eq_true_iff] at isDigit
  constructor <;> omega

private theorem scanDigits_append {digits : List Nat} {bytes rest : Bytes}
    (spelled : SpellsDigits digits bytes) (stops : StartsNoDigit rest) :
    scanDigits (bytes ++ rest) = (digits, rest) := by
  induction spelled with
  | nil =>
      cases rest with
      | nil => rfl
      | cons byte rest => simp [scanDigits, stops byte rfl]
  | @cons digit byte digits bytes first _ ih =>
      have isDigit := first.isDigitByte
      have value : byte.toNat - 0x30 = digit := by
        rw [first.2, Nat.add_sub_cancel_left]
      rw [scanDigits, Prod.mk.injEq] at ih
      obtain ⟨values, behind⟩ := ih
      rw [List.cons_append, scanDigits, List.takeWhile_cons_of_pos isDigit,
        List.dropWhile_cons_of_pos isDigit, List.map_cons, values, behind, value]

private theorem spellsDigits_of_all {bytes : Bytes}
    (all : ∀ byte ∈ bytes, isDigitByte byte = true) :
    SpellsDigits (bytes.map fun byte => byte.toNat - 0x30) bytes := by
  induction bytes with
  | nil => exact .nil
  | cons byte bytes ih =>
      exact .cons (spellsDigit_of_isDigitByte (all byte List.mem_cons_self))
        (ih fun other member => all other (List.mem_cons_of_mem byte member))

private theorem spelled_of_scanDigits {bytes behind : Bytes} {digits : List Nat}
    (scanned : scanDigits bytes = (digits, behind)) :
    ∃ front, bytes = front ++ behind ∧ SpellsDigits digits front := by
  obtain ⟨rfl, rfl⟩ := Prod.mk.inj scanned
  refine ⟨bytes.takeWhile isDigitByte, List.takeWhile_append_dropWhile.symm, ?_⟩
  exact spellsDigits_of_all fun byte member => List.mem_takeWhile_imp member

private theorem scanSomeDigits_append {digits : List Nat} {bytes rest : Bytes}
    (spelled : SpellsDigits digits bytes) (nonempty : digits ≠ []) (stops : StartsNoDigit rest) :
    scanSomeDigits (bytes ++ rest) = .ok (digits, rest) := by
  simp [scanSomeDigits, scanDigits_append spelled stops, nonempty]

private theorem spelled_of_scanSomeDigits {bytes behind : Bytes} {digits : List Nat}
    (scanned : scanSomeDigits bytes = .ok (digits, behind)) :
    ∃ front, bytes = front ++ behind ∧ SpellsDigits digits front ∧ digits ≠ [] := by
  rcases digitsScanned : scanDigits bytes with ⟨values, remaining⟩
  obtain ⟨front, same, spelled⟩ := spelled_of_scanDigits digitsScanned
  by_cases none : values = []
  · simp [scanSomeDigits, digitsScanned, none] at scanned
  · simp only [scanSomeDigits, digitsScanned, List.isEmpty_iff, none, if_false, Except.ok.injEq,
      Prod.mk.injEq] at scanned
    obtain ⟨rfl, rfl⟩ := scanned
    exact ⟨front, same, spelled, none⟩

end Digits

section Numerals

/-- Whether a number ends in front of these bytes: they start with none that carries it on. -/
def EndsNumber (rest : Bytes) : Prop :=
  ∀ byte ∈ rest.head?, isDigitByte byte = false ∧ byte ≠ 0x2E ∧ byte ≠ 0x65 ∧ byte ≠ 0x45

private theorem EndsNumber.startsNoDigit {rest : Bytes} (ends : EndsNumber rest) :
    StartsNoDigit rest :=
  fun byte first => (ends byte first).1

private theorem scanWhole_append {digits : List Nat} {bytes rest : Bytes}
    (spelled : SpellsWhole digits bytes) (stops : StartsNoDigit rest) :
    scanWhole (bytes ++ rest) = .ok (digits, rest) := by
  rw [scanWhole, scanSomeDigits_append spelled.spelled spelled.nonempty stops]
  split
  · rename_i second others behind same
    obtain ⟨rfl, -⟩ := Prod.mk.inj (Except.ok.inj same)
    cases spelled.unpadded _ rfl
  · rfl

private theorem spelled_of_scanWhole {bytes behind : Bytes} {digits : List Nat}
    (scanned : scanWhole bytes = .ok (digits, behind)) :
    ∃ front, bytes = front ++ behind ∧ SpellsWhole digits front := by
  rw [scanWhole] at scanned
  split at scanned
  · cases scanned
  · rename_i unpadded
    obtain ⟨front, same, spelled, nonempty⟩ := spelled_of_scanSomeDigits scanned
    refine ⟨front, same, spelled, nonempty, ?_⟩
    intro rest zero
    cases rest with
    | nil => rfl
    | cons digit rest => exact absurd (zero ▸ scanned) (unpadded digit rest behind)

private theorem scanFraction_append {digits : List Nat} {bytes rest : Bytes}
    (spelled : SpellsFraction digits bytes) (stops : StartsNoDigit rest)
    (noPoint : ∀ byte ∈ rest.head?, byte ≠ 0x2E) :
    scanFraction (bytes ++ rest) = .ok (digits, rest) := by
  cases spelled with
  | none =>
      cases rest with
      | nil => rfl
      | cons byte rest => exact if_neg (noPoint byte rfl)
  | point spelled nonempty => exact scanSomeDigits_append spelled nonempty stops

private theorem spelled_of_scanFraction {bytes behind : Bytes} {digits : List Nat}
    (scanned : scanFraction bytes = .ok (digits, behind)) :
    ∃ front, bytes = front ++ behind ∧ SpellsFraction digits front := by
  cases bytes with
  | nil =>
      obtain ⟨rfl, rfl⟩ := Prod.mk.inj (Except.ok.inj scanned)
      exact ⟨[], rfl, .none⟩
  | cons byte rest =>
      rw [scanFraction] at scanned
      split at scanned
      · rename_i point
        obtain ⟨front, same, spelled, nonempty⟩ := spelled_of_scanSomeDigits scanned
        exact ⟨byte :: front, congrArg _ same, point ▸ .point spelled nonempty⟩
      · obtain ⟨rfl, rfl⟩ := Prod.mk.inj (Except.ok.inj scanned)
        exact ⟨[], rfl, .none⟩

private theorem SpellsDigits.exists_cons {digits : List Nat} {bytes : Bytes}
    (spelled : SpellsDigits digits bytes) (nonempty : digits ≠ []) :
    ∃ byte rest, bytes = byte :: rest ∧ isDigitByte byte = true := by
  cases spelled with
  | nil => exact absurd rfl nonempty
  | cons first _ => exact ⟨_, _, rfl, first.isDigitByte⟩

private theorem scanSign_append {negative : Bool} {sign rest : Bytes}
    (spelled : SpellsSign negative sign) (unsigned : ∀ byte ∈ rest.head?, isDigitByte byte = true) :
    scanSign (sign ++ rest) = (negative, rest) := by
  cases spelled with
  | none =>
      cases rest with
      | nil => rfl
      | cons byte rest =>
          have isDigit := unsigned byte rfl
          have noMinus : byte ≠ 0x2D := by
            rintro rfl
            cases isDigit
          have noPlus : byte ≠ 0x2B := by
            rintro rfl
            cases isDigit
          rw [List.nil_append, scanSign, if_neg noMinus, if_neg noPlus]
  | plus => rfl
  | minus => rfl

private theorem spelled_of_scanSign {bytes behind : Bytes} {negative : Bool}
    (scanned : scanSign bytes = (negative, behind)) :
    ∃ sign, bytes = sign ++ behind ∧ SpellsSign negative sign := by
  cases bytes with
  | nil =>
      obtain ⟨rfl, rfl⟩ := Prod.mk.inj scanned
      exact ⟨[], rfl, .none⟩
  | cons byte rest =>
      rw [scanSign] at scanned
      split at scanned
      · rename_i minus
        obtain ⟨rfl, rfl⟩ := Prod.mk.inj scanned
        exact ⟨[0x2D], congrArg (· :: rest) minus, .minus⟩
      · split at scanned
        · rename_i plus
          obtain ⟨rfl, rfl⟩ := Prod.mk.inj scanned
          exact ⟨[0x2B], congrArg (· :: rest) plus, .plus⟩
        · obtain ⟨rfl, rfl⟩ := Prod.mk.inj scanned
          exact ⟨[], rfl, .none⟩

private theorem scanExponent_append {exponent : Option (Bool × List Nat)} {bytes rest : Bytes}
    (spelled : SpellsExponent exponent bytes) (ends : EndsNumber rest) :
    scanExponent (bytes ++ rest) = .ok (exponent, rest) := by
  cases spelled with
  | none =>
      cases rest with
      | nil => rfl
      | cons byte rest =>
          obtain ⟨-, -, small, capital⟩ := ends byte rfl
          exact if_neg (not_or.mpr ⟨small, capital⟩)
  | @power mark negative digits sign bytes marked signed spelled nonempty =>
      have unsigned : ∀ byte ∈ (bytes ++ rest).head?, isDigitByte byte = true := by
        obtain ⟨first, others, rfl, isDigit⟩ := spelled.exists_cons nonempty
        rintro byte ⟨⟩
        exact isDigit
      rw [List.cons_append, List.append_assoc, scanExponent, if_pos marked,
        scanSign_append signed unsigned]
      simp only [scanSomeDigits_append spelled nonempty ends.startsNoDigit]
      rfl

private theorem spelled_of_scanExponent {bytes behind : Bytes} {exponent : Option (Bool × List Nat)}
    (scanned : scanExponent bytes = .ok (exponent, behind)) :
    ∃ front, bytes = front ++ behind ∧ SpellsExponent exponent front := by
  cases bytes with
  | nil =>
      obtain ⟨rfl, rfl⟩ := Prod.mk.inj (Except.ok.inj scanned)
      exact ⟨[], rfl, .none⟩
  | cons mark rest =>
      rw [scanExponent] at scanned
      split at scanned
      · rename_i marked
        rcases signScanned : scanSign rest with ⟨negative, unsigned⟩
        rw [signScanned] at scanned
        obtain ⟨sign, rfl, signed⟩ := spelled_of_scanSign signScanned
        cases digitsScanned : scanSomeDigits unsigned with
        | error atEnd => simp [digitsScanned, Except.map] at scanned
        | ok result =>
            obtain ⟨digits, remaining⟩ := result
            obtain ⟨front, rfl, spelled, nonempty⟩ := spelled_of_scanSomeDigits digitsScanned
            simp only [digitsScanned, Except.map, Except.ok.injEq, Prod.mk.injEq] at scanned
            obtain ⟨rfl, rfl⟩ := scanned
            refine ⟨mark :: (sign ++ front), ?_, .power marked signed spelled nonempty⟩
            rw [List.cons_append, List.append_assoc]
      · obtain ⟨rfl, rfl⟩ := Prod.mk.inj (Except.ok.inj scanned)
        exact ⟨[], rfl, .none⟩

/-- Behind digits neither a fraction nor an exponent goes on with a digit. -/
theorem startsNoDigit_fraction {digits : List Nat} {bytes rest : Bytes}
    (spelled : SpellsFraction digits bytes) (stops : StartsNoDigit rest) :
    StartsNoDigit (bytes ++ rest) := by
  cases spelled with
  | none => exact stops
  | point =>
      rintro byte ⟨⟩
      rfl

private theorem starts_exponent {exponent : Option (Bool × List Nat)} {bytes rest : Bytes}
    (spelled : SpellsExponent exponent bytes) (ends : EndsNumber rest) :
    ∀ byte ∈ (bytes ++ rest).head?, isDigitByte byte = false ∧ byte ≠ 0x2E := by
  cases spelled with
  | none =>
      intro byte first
      obtain ⟨noDigit, noPoint, -⟩ := ends byte first
      exact ⟨noDigit, noPoint⟩
  | power marked =>
      rintro byte ⟨⟩
      cases marked with
      | inl small => simp [small, isDigitByte]
      | inr capital => simp [capital, isDigitByte]

/-- A number is read from its spelling, unless what follows carries it on. -/
theorem scanNumber_append {numeral : Numeral} {bytes rest : Bytes}
    (spelled : numeral.SpelledUnsigned bytes) (ends : EndsNumber rest) :
    scanNumber numeral.negative (bytes ++ rest) = .ok (numeral, rest) := by
  obtain ⟨whole, fraction, exponent⟩ := spelled
  have behind := starts_exponent exponent ends
  have noDigit : StartsNoDigit (_ ++ rest) := fun byte first => (behind byte first).1
  simp only [List.append_assoc, scanNumber, bind, Except.bind,
    scanWhole_append whole (startsNoDigit_fraction fraction noDigit),
    scanFraction_append fraction noDigit fun byte first => (behind byte first).2,
    scanExponent_append exponent ends]
  rfl

private theorem spelled_of_scanNumber {negative : Bool} {numeral : Numeral} {bytes behind : Bytes}
    (scanned : scanNumber negative bytes = .ok (numeral, behind)) :
    numeral.negative = negative ∧
      ∃ front, bytes = front ++ behind ∧ numeral.SpelledUnsigned front := by
  simp only [scanNumber, bind, exceptBind_eq_ok_iff] at scanned
  obtain ⟨⟨whole, behindWhole⟩, wholeScanned, ⟨fraction, behindFraction⟩, fractionScanned,
    ⟨exponent, behindAll⟩, exponentScanned, same⟩ := scanned
  obtain ⟨rfl, rfl⟩ := Prod.mk.inj (Except.ok.inj same)
  obtain ⟨wholeBytes, rfl, wholeSpelled⟩ := spelled_of_scanWhole wholeScanned
  obtain ⟨fractionBytes, rfl, fractionSpelled⟩ := spelled_of_scanFraction fractionScanned
  obtain ⟨exponentBytes, rfl, exponentSpelled⟩ := spelled_of_scanExponent exponentScanned
  refine ⟨rfl, wholeBytes ++ (fractionBytes ++ exponentBytes), ?_,
    .parts wholeSpelled fractionSpelled exponentSpelled⟩
  simp only [List.append_assoc]

end Numerals

section Texts

private theorem byte_of_character {byte : UInt8} {character : Char}
    (same : Char.ofNat byte.toNat = character) : byte = UInt8.ofNat character.toNat := by
  have valid : byte.toNat.isValidChar := .inl (Nat.lt_trans byte.toNat_lt (by decide))
  rw [← same, Char.toNat_ofNat, if_pos valid, UInt8.ofNat_toNat]

theorem escapedByte?_eq_some_iff {letter byte : UInt8} :
    escapedByte? letter = some byte ↔ (letter, byte) ∈ letterEscapes := by
  constructor
  · intro stands
    unfold escapedByte? at stands
    split at stands <;> rename_i same
    case h_9 => cases stands
    all_goals
      obtain rfl := Option.some.inj stands
      obtain rfl := byte_of_character same
      decide
  · intro listed
    simp only [letterEscapes, List.mem_cons, Prod.mk.injEq, List.not_mem_nil, or_false] at listed
    rcases listed with
      ⟨rfl, rfl⟩ | ⟨rfl, rfl⟩ | ⟨rfl, rfl⟩ | ⟨rfl, rfl⟩ | ⟨rfl, rfl⟩ | ⟨rfl, rfl⟩ | ⟨rfl, rfl⟩ |
        ⟨rfl, rfl⟩ <;> rfl

theorem hexadecimalValue?_eq_some_iff {byte : UInt8} {digit : Nat} :
    hexadecimalValue? byte = some digit ↔ SpellsHexadecimal digit byte := by
  simp only [hexadecimalValue?, SpellsHexadecimal, SpellsDigit, isDigitByte, Bool.and_eq_true,
    decide_eq_true_eq, UInt8.le_iff_toNat_le, UInt8.reduceToNat]
  split
  · rw [Option.some.injEq]
    omega
  · split
    · rw [Option.some.injEq]
      omega
    · split
      · rw [Option.some.injEq]
        omega
      · simp only [reduceCtorEq, false_iff]
        omega

theorem spellsUnit_iff {value : Nat} {first second third fourth : UInt8} :
    unitValue? first second third fourth = some value ↔
      SpellsUnit value [first, second, third, fourth] := by
  simp only [unitValue?, Option.bind_eq_bind, Option.bind_eq_some_iff,
    hexadecimalValue?_eq_some_iff, Option.pure_def, Option.some.injEq]
  constructor
  · rintro ⟨a, firstSpelled, b, secondSpelled, c, thirdSpelled, d, fourthSpelled, rfl⟩
    exact .digits firstSpelled secondSpelled thirdSpelled fourthSpelled
  · rintro ⟨firstSpelled, secondSpelled, thirdSpelled, fourthSpelled⟩
    exact ⟨_, firstSpelled, _, secondSpelled, _, thirdSpelled, _, fourthSpelled, rfl⟩

variable (rest : Bytes)

private theorem scanText_close : scanText (0x22 :: rest) = ([], .closed, rest) := by
  rw [scanText.eq_def]
  rfl

private theorem scanText_plain {byte : UInt8} (quote : byte ≠ 0x22) (backslash : byte ≠ 0x5C)
    (visible : 0x20 ≤ byte) :
    scanText (byte :: rest) = (.plain byte :: (scanText rest).1, (scanText rest).2) := by
  rw [scanText.eq_def]
  simp [quote, backslash, visible]

private theorem scanText_escape {letter byte : UInt8} (listed : (letter, byte) ∈ letterEscapes) :
    scanText (0x5C :: letter :: rest) =
      (.escape byte :: (scanText rest).1, (scanText rest).2) := by
  have stands := escapedByte?_eq_some_iff.mpr listed
  have other : letter ≠ 0x75 := by
    rintro rfl
    cases stands
  rw [scanText.eq_def]
  simp [other, stands]

private theorem scanText_unit {value : Nat} {digits : Bytes} (spelled : SpellsUnit value digits) :
    scanText (0x5C :: 0x75 :: (digits ++ rest)) =
      (.unit value :: (scanText rest).1, (scanText rest).2) := by
  have digits := spelled
  cases digits with
  | digits =>
      rw [scanText.eq_def]
      simp [spellsUnit_iff.mpr spelled]

/-- The spelling of pieces is read as them, whatever follows. -/
theorem scanText_append {pieces : List Piece} {bytes : Bytes}
    (spelled : SpellsPieces pieces bytes) :
    scanText (bytes ++ rest) = (pieces ++ (scanText rest).1, (scanText rest).2) := by
  induction spelled with
  | none => rfl
  | plain quote backslash visible _ ih =>
      rw [List.cons_append, scanText_plain _ quote backslash visible, ih]
      rfl
  | escape listed _ ih =>
      rw [List.cons_append, List.cons_append, scanText_escape _ listed, ih]
      rfl
  | unit unitSpelled _ ih =>
      rw [List.cons_append, List.cons_append, List.append_assoc, scanText_unit _ unitSpelled, ih]
      rfl

private theorem spelled_of_scanText {bytes behind : Bytes} {pieces : List Piece}
    (scanned : scanText bytes = (pieces, .closed, behind)) :
    ∃ front, bytes = front ++ 0x22 :: behind ∧ SpellsPieces pieces front := by
  fun_induction scanText bytes generalizing pieces with
  | case2 rest =>
      obtain ⟨rfl, rfl⟩ : pieces = [] ∧ rest = behind := by simpa using scanned
      exact ⟨[], rfl, .none⟩
  | case5 first second third fourth rest value unitScanned others ending remaining _ _ ih =>
      obtain ⟨rfl, rfl, rfl⟩ : .unit value :: others = pieces ∧ ending = .closed ∧
        remaining = behind := by simpa using scanned
      obtain ⟨front, rfl, spelled⟩ := ih (by assumption)
      exact ⟨_, rfl, .unit (spellsUnit_iff.mp unitScanned) spelled⟩
  | case8 letter rest _ escaped stands others ending remaining _ _ ih =>
      obtain ⟨rfl, rfl, rfl⟩ : .escape escaped :: others = pieces ∧ ending = .closed ∧
        remaining = behind := by simpa using scanned
      obtain ⟨front, rfl, spelled⟩ := ih (by assumption)
      exact ⟨_, rfl, .escape (escapedByte?_eq_some_iff.mp stands) spelled⟩
  | case10 byte rest quote backslash visible others ending remaining _ ih =>
      obtain ⟨rfl, rfl, rfl⟩ : .plain byte :: others = pieces ∧ ending = .closed ∧
        remaining = behind := by simpa using scanned
      obtain ⟨front, rfl, spelled⟩ := ih (by assumption)
      exact ⟨_, rfl, .plain quote backslash (UInt8.not_lt.mp visible) spelled⟩
  | _ => simp at scanned

end Texts

section Lexemes

private theorem lexemes_blank {byte : UInt8} (blank : isBlankByte byte = true) (rest : Bytes) :
    lexemes (byte :: rest) = lexemes rest := by
  rw [lexemes, if_pos blank]

private theorem lexemes_of_scanLexeme {byte : UInt8} (visible : isBlankByte byte = false)
    {rest behind : Bytes} {lexeme : Lexeme} (scanned : scanLexeme byte rest = (lexeme, behind)) :
    lexemes (byte :: rest) = lexeme :: lexemes behind := by
  rw [lexemes, visible, scanned]
  rfl

theorem isBlankByte_eq_true_iff {byte : UInt8} :
    isBlankByte byte = true ↔ byte ∈ [0x20, 0x09, 0x0A, 0x0D] := by
  simp [isBlankByte]
  tauto

private theorem scanLexeme_digit {byte : UInt8} (isDigit : isDigitByte byte = true)
    {rest behind : Bytes}
    {numeral : Numeral} (scanned : scanNumber false (byte :: rest) = .ok (numeral, behind)) :
    scanLexeme byte rest = (.number numeral, behind) := by
  have value := isDigitByte_eq_true_iff.mp isDigit
  obtain ⟨digit, rfl⟩ : ∃ digit : Fin 10, byte = UInt8.ofNat (0x30 + digit) := by
    refine ⟨⟨byte.toNat - 0x30, by omega⟩, ?_⟩
    rw [Nat.add_sub_cancel' value.1, UInt8.ofNat_toNat]
  clear isDigit value
  revert scanned
  fin_cases digit <;> intro scanned <;>
    · unfold scanLexeme
      rw [scanned]
      rfl

private theorem scanLexeme_minus {rest behind : Bytes} {numeral : Numeral}
    (scanned : scanNumber true rest = .ok (numeral, behind)) :
    scanLexeme 0x2D rest = (.number numeral, behind) := by
  unfold scanLexeme
  rw [scanned]
  rfl

private theorem scanLexeme_quote {rest behind : Bytes} {pieces : List Piece} {ending : Ending}
    (scanned : scanText rest = (pieces, ending, behind)) :
    scanLexeme 0x22 rest = (.text pieces ending, behind) := by
  unfold scanLexeme
  rw [scanned]
  rfl

private theorem Numeral.SpelledUnsigned.exists_cons {numeral : Numeral} {bytes : Bytes}
    (spelled : numeral.SpelledUnsigned bytes) :
    ∃ byte rest, bytes = byte :: rest ∧ isDigitByte byte = true := by
  obtain ⟨whole, _, _⟩ := spelled
  obtain ⟨byte, rest, rfl, isDigit⟩ := whole.spelled.exists_cons whole.nonempty
  exact ⟨byte, _, rfl, isDigit⟩

private theorem isBlankByte_of_isDigitByte {byte : UInt8} (isDigit : isDigitByte byte = true) :
    isBlankByte byte = false := by
  rw [Bool.eq_false_iff, ne_eq, isBlankByte_eq_true_iff]
  intro blank
  simp only [List.mem_cons, List.not_mem_nil, or_false] at blank
  rcases blank with rfl | rfl | rfl | rfl <;> cases isDigit

/-- A lexeme is read from its spelling, and what follows is read behind it. -/
theorem Lexeme.Spelled.lexemes_append {lexeme : Lexeme} {bytes rest : Bytes}
    (spelled : lexeme.Spelled bytes) (ends : lexeme.IsNumber → EndsNumber rest) :
    lexemes (bytes ++ rest) = lexeme :: lexemes rest := by
  cases spelled with
  | unsigned spelled unsigned =>
      have scanned := scanNumber_append spelled (ends trivial)
      rw [unsigned] at scanned
      obtain ⟨byte, others, rfl, isDigit⟩ := spelled.exists_cons
      exact lexemes_of_scanLexeme (isBlankByte_of_isDigitByte isDigit)
        (scanLexeme_digit isDigit scanned)
  | signed spelled signed =>
      have scanned := scanNumber_append spelled (ends trivial)
      rw [signed] at scanned
      exact lexemes_of_scanLexeme rfl (scanLexeme_minus scanned)
  | text spelled =>
      have scanned := scanText_append (0x22 :: rest) spelled
      rw [scanText_close, List.append_nil] at scanned
      rw [List.cons_append, List.append_assoc]
      exact lexemes_of_scanLexeme rfl (scanLexeme_quote scanned)
  | _ => exact lexemes_of_scanLexeme rfl rfl

private theorem spelled_of_scanWord {letters bytes behind : Bytes}
    (scanned : scanWord letters bytes = .ok behind) : bytes = letters ++ behind := by
  fun_induction scanWord letters bytes with
  | case1 => exact Except.ok.inj scanned
  | case2 => cases scanned
  | case3 byte letters bytes ih => rw [ih scanned, List.cons_append]
  | case4 => cases scanned

private theorem spelled_of_scanLexeme {byte : UInt8} {rest behind : Bytes} {lexeme : Lexeme}
    (scanned : scanLexeme byte rest = (lexeme, behind)) (whole : lexeme.Whole) :
    ∃ front, byte :: rest = front ++ behind ∧ lexeme.Spelled front := by
  simp only [scanLexeme] at scanned
  split at scanned <;> rename_i character
  case h_12 =>
    split at scanned
    · split at scanned
      · rename_i numberScanned
        obtain ⟨rfl, rfl⟩ := Prod.mk.inj scanned
        obtain ⟨unsigned, front, same, spelled⟩ := spelled_of_scanNumber numberScanned
        exact ⟨front, same, .unsigned spelled unsigned⟩
      · obtain ⟨rfl, -⟩ := Prod.mk.inj scanned
        cases whole
    · obtain ⟨rfl, -⟩ := Prod.mk.inj scanned
      cases whole
  all_goals obtain rfl := byte_of_character character
  case h_7 | h_8 | h_9 =>
    split at scanned
    · rename_i wordScanned
      obtain ⟨rfl, rfl⟩ := Prod.mk.inj scanned
      rw [spelled_of_scanWord wordScanned]
      exact ⟨_, rfl, by constructor⟩
    · obtain ⟨rfl, -⟩ := Prod.mk.inj scanned
      cases whole
  case h_10 =>
    rcases textScanned : scanText rest with ⟨pieces, ending, remaining⟩
    rw [textScanned] at scanned
    obtain ⟨rfl, rfl⟩ := Prod.mk.inj scanned
    obtain rfl : ending = .closed := whole
    obtain ⟨front, rfl, spelled⟩ := spelled_of_scanText textScanned
    refine ⟨0x22 :: (front ++ [0x22]), ?_, .text spelled⟩
    rw [List.cons_append, List.append_assoc]
    rfl
  case h_11 =>
    split at scanned
    · rename_i numberScanned
      obtain ⟨rfl, rfl⟩ := Prod.mk.inj scanned
      obtain ⟨signed, front, rfl, spelled⟩ := spelled_of_scanNumber numberScanned
      exact ⟨_, rfl, .signed spelled signed⟩
    · obtain ⟨rfl, -⟩ := Prod.mk.inj scanned
      cases whole
  all_goals
    obtain ⟨rfl, rfl⟩ := Prod.mk.inj scanned
    exact ⟨_, rfl, by constructor⟩

private theorem endsNumber_cons {byte : UInt8}
    (other : isDigitByte byte = false ∧ byte ≠ 0x2E ∧ byte ≠ 0x65 ∧ byte ≠ 0x45) (rest : Bytes) :
    EndsNumber (byte :: rest) := by
  rintro first ⟨⟩
  exact other

/-- Neither a blank nor a lexeme other than a number carries a number on. -/
theorem Spaced.endsNumber {lexemes : List Lexeme} {bytes : Bytes} (spaced : Spaced lexemes bytes)
    (noNumber : ∀ lexeme ∈ lexemes.head?, ¬ lexeme.IsNumber) : EndsNumber bytes := by
  cases spaced with
  | done => exact fun _ first => nomatch first
  | blank blank _ =>
      simp only [List.mem_cons, List.not_mem_nil, or_false] at blank
      rcases blank with rfl | rfl | rfl | rfl <;> exact endsNumber_cons (by decide) _
  | lexeme spelled _ =>
      have other := noNumber _ rfl
      cases spelled with
      | unsigned => exact absurd trivial other
      | signed => exact absurd trivial other
      | _ => exact endsNumber_cons (by decide) _

private theorem lexemes_of_spaced {expected : List Lexeme} {bytes : Bytes}
    (spaced : Spaced expected bytes)
    (apart : NumbersApart expected) : lexemes bytes = expected := by
  induction spaced with
  | done => exact lexemes.eq_1
  | blank blank _ ih => rw [lexemes_blank (isBlankByte_eq_true_iff.mpr blank), ih apart]
  | @lexeme first others bytes rest spelled behind ih =>
      rw [NumbersApart, List.isChain_cons] at apart
      have ends : first.IsNumber → EndsNumber rest := fun number =>
        behind.endsNumber fun next member nextNumber => apart.1 next member ⟨number, nextNumber⟩
      rw [spelled.lexemes_append ends, ih apart.2]

private theorem spaced_of_lexemes {bytes : Bytes} (whole : ∀ lexeme ∈ lexemes bytes, lexeme.Whole) :
    Spaced (lexemes bytes) bytes := by
  fun_induction lexemes bytes with
  | case1 => exact .done
  | case2 byte rest blank ih => exact .blank (isBlankByte_eq_true_iff.mp blank) (ih whole)
  | case3 byte rest visible scanned ih =>
      have first : scanLexeme byte rest = (scanned.1, scanned.2) := rfl
      obtain ⟨front, same, spelled⟩ :=
        spelled_of_scanLexeme first (whole scanned.1 List.mem_cons_self)
      rw [same]
      exact .lexeme spelled (ih fun lexeme member => whole lexeme (List.mem_cons_of_mem _ member))

/-- Bytes are read as given lexemes exactly if they spell them. -/
theorem lexemes_eq_iff_spaced {expected : List Lexeme} {bytes : Bytes}
    (apart : NumbersApart expected) (whole : ∀ lexeme ∈ expected, lexeme.Whole) :
    lexemes bytes = expected ↔ Spaced expected bytes := by
  constructor
  · rintro rfl
    exact spaced_of_lexemes whole
  · exact fun spaced => lexemes_of_spaced spaced apart

end Lexemes

end OverlayNet.Json
