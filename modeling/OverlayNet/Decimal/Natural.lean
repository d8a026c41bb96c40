set_option autoImplicit false

/-! # Natural numbers in decimal and hexadecimal

Numbers are written without leading zeros. Reading accepts leading zeros and, where the form allows
it, one plus sign, and refuses a number that does not fit the given bound. -/

namespace OverlayNet.Decimal

def digits (number : Nat) : List Char :=
  Nat.toDigits 10 number

def text (number : Nat) : String :=
  String.ofList (digits number)

/-- Whether a character is one of the ten ASCII digits. -/
def isDigit (character : Char) : Bool :=
  '0' ≤ character && character ≤ '9'

/-- The number that a nonempty run of digits spells. -/
def digits? (characters : List Char) : Option Nat :=
  if characters.isEmpty || !characters.all isDigit then none
  else some (Nat.ofDigitChars 10 characters 0)

/-- The number below `bound` that is spelled by digits after at most one plus sign. -/
def unsigned? (bound : Nat) (characters : List Char) : Option Nat :=
  let magnitude := match characters with
    | '+' :: rest => rest
    | _ => characters
  (digits? magnitude).filter (· < bound)

theorem digits?_digits (number : Nat) : digits? (digits number) = some number := by
  have allDigits : ∀ character ∈ Nat.toDigits 10 number, isDigit character = true := by
    intro character member
    have digit := Nat.isDigit_of_mem_toDigits (by decide) (by decide) member
    simp only [Char.isDigit, ge_iff_le, Bool.and_eq_true, decide_eq_true_eq] at digit
    simpa [isDigit, Char.le_def] using digit
  have nonempty : Nat.toDigits 10 number ≠ [] := Nat.toDigits_ne_nil
  have notEmpty : (Nat.toDigits 10 number).isEmpty = false := by simp [nonempty]
  have covered : (Nat.toDigits 10 number).all isDigit = true := List.all_eq_true.mpr allDigits
  simp [digits?, digits, notEmpty, covered]

/-- The lower-case hexadecimal digits of a word, padded with zeros to eight. -/
def hexadecimal8 (word : UInt32) : List Char :=
  (Nat.toDigits 16 word.toNat).leftpad 8 '0'

end OverlayNet.Decimal
