import OverlayNet.Decimal.Shortest
import OverlayNet.Json.Defect

set_option autoImplicit false

/-! # Numbers of JSON documents

A number without fraction and exponent that fits 64 bits is an integer. Every other number is read
as a double: its leading digits, as many as fit 64 bits, are scaled by a power of ten. -/

namespace OverlayNet.Json

structure Numeral where
  negative : Bool
  whole : List Nat
  /-- The digits after the point; none if there is no point. -/
  fraction : List Nat
  /-- The exponent, if there is one: whether it has a minus sign, and its digits. -/
  exponent : Option (Bool × List Nat)
deriving DecidableEq, Repr

inductive Number where
  | natural (value : Nat)
  | negative (value : Int)
  | floating (value : Float)

/-- Where numbers that are no integers are shown positionally in messages: from five places behind
the point for the first digit to sixteen digits before the point. -/
def floatingRange : Decimal.PositionalRange := ⟨-5, 15⟩

def Number.described : Number → Described
  | .natural value => .integer value
  | .negative value => .integer value
  | .floating value => .floating (Decimal.shortestText floatingRange value)

namespace Numeral

/-- The number that a run of digits spells behind the given leading digits. -/
def digitsValue (leading : Nat) (digits : List Nat) : Nat :=
  digits.foldl (fun value digit => value * 10 + digit) leading

/-- The leading digits joined by as many of the digits as fit 64 bits, and how many those are. -/
def significand (leading : Nat) : List Nat → Nat × Nat
  | [] => (leading, 0)
  | digit :: rest =>
      if leading * 10 + digit < UInt64.size then
        let (value, taken) := significand (leading * 10 + digit) rest
        (value, taken + 1)
      else (leading, 0)

/-- A double scaled by a power of ten that a double can hold, or in several steps down to such a
power. The steps end because a double divided by the greatest power twice is zero. -/
def scaleDown : (steps : Nat) → Float → (places : Nat) → Float
  | 0, value, _ => value
  | steps + 1, value, places =>
      if places ≤ 308 then value / Float.ofScientific 1 false places
      else if value == 0 then value
      else scaleDown steps (value / Float.ofScientific 1 false 308) (places - 308)

/-- The significand scaled by a power of ten. -/
def scaled (significand : Nat) (exponent : Int) : Except SyntaxFault Float :=
  let value := (UInt64.ofNat significand).toFloat
  if exponent < 0 then .ok (scaleDown 4 value exponent.natAbs)
  else if exponent ≤ 308 then
    let product := value * Float.ofScientific 1 false exponent.natAbs
    if product.isInf then .error .numberOutOfRange else .ok product
  else if significand = 0 then .ok 0
  else .error .numberOutOfRange

/-- The magnitude of a number with a fraction, an exponent or more digits than fit 64 bits. An
exponent of 31 bits or more is out of range for every significand but zero. -/
def magnitude (numeral : Numeral) : Except SyntaxFault Float :=
  let (high, takenHigh) := significand 0 numeral.whole
  let (all, takenLow) := significand high numeral.fraction
  let places : Int := (numeral.whole.length : Int) - takenHigh - takenLow
  match numeral.exponent with
  | none => scaled all places
  | some (negative, digits) =>
      let power := digitsValue 0 digits
      if power < 0x80000000 then scaled all (if negative then places - power else places + power)
      else if all ≠ 0 ∧ !negative then .error .numberOutOfRange
      else .ok 0

def number (numeral : Numeral) : Except SyntaxFault Number :=
  let value := digitsValue 0 numeral.whole
  if numeral.fraction.isEmpty ∧ numeral.exponent.isNone ∧ value < UInt64.size then
    if !numeral.negative then .ok (.natural value)
    else if value = 0 then .ok (.floating (-0.0))
    else if value ≤ 0x8000000000000000 then .ok (.negative (-(value : Int)))
    else .ok (.floating (-(UInt64.ofNat value).toFloat))
  else
    numeral.magnitude.map fun magnitude =>
      .floating (if numeral.negative then -magnitude else magnitude)

end Numeral

end OverlayNet.Json
