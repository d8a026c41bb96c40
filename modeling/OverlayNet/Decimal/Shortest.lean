import OverlayNet.Decimal.Natural

set_option autoImplicit false

/-! # The shortest decimal text of a double

A finite double stands for an interval of reals that round to it. Of the decimals in that interval
one with the fewest digits is written, and of those the nearest to the double. All comparisons are
made on natural numbers. -/

namespace OverlayNet.Decimal

/-- A finite nonnegative double as `significand * 2 ^ (power - 1074)`. -/
structure Binary where
  significand : Nat
  power : Nat
deriving DecidableEq, Repr

/-- The least significand of a normal double: its leading bit, which is not stored. -/
def leastNormal : Nat := 0x10000000000000

/-- The magnitude of a finite double, from its bit pattern. -/
def Binary.ofBits (bits : UInt64) : Binary :=
  let fraction := bits.toNat % leastNormal
  let exponent := bits.toNat / leastNormal % 0x800
  if exponent = 0 then ⟨fraction, 0⟩ else ⟨leastNormal + fraction, exponent - 1⟩

/-- A decimal `coefficient * 10 ^ (power - 345)`. -/
structure Scientific where
  coefficient : Nat
  power : Nat
deriving DecidableEq, Repr

namespace Binary

/-- Quarters of the unit in the last place: the scale on which the ends of the rounding interval of
a double are whole numbers, times a common factor that makes every decimal grid whole too. -/
def scaled (double : Binary) (quarters : Nat) : Nat :=
  quarters * Nat.pow 2 double.power * Nat.pow 10 345

/-- The lower end of the rounding interval. Below a power of two it is nearer. -/
def lower (double : Binary) : Nat :=
  if double.significand = leastNormal ∧ 0 < double.power then
    double.scaled (4 * double.significand - 1)
  else double.scaled (4 * double.significand - 2)

def upper (double : Binary) : Nat :=
  double.scaled (4 * double.significand + 2)

def centre (double : Binary) : Nat :=
  double.scaled (4 * double.significand)

/-- The distance between neighbouring decimals `_ * 10 ^ (power - 345)` on the scale of the ends. -/
def grid (power : Nat) : Nat :=
  Nat.pow 10 power * Nat.pow 2 1076

/-- Whether a point of a decimal grid rounds to the double; the ends do if the significand is
even. -/
def covers (double : Binary) (decimal : Scientific) : Bool :=
  let point := decimal.coefficient * grid decimal.power
  if double.significand % 2 = 0 then double.lower ≤ point && point ≤ double.upper
  else double.lower < point && point < double.upper

/-- The position of the first digit: the double lies between `10 ^ (p - 345)` and ten times that. -/
def leading (double : Binary) : Nat :=
  (digits (double.centre / Nat.pow 2 1076)).length - 1

/-- The nearest decimal on the grid of the given power that rounds to the double, if there is one.
A tie goes to the even digit. -/
def nearestOn? (double : Binary) (power : Nat) : Option Scientific :=
  let below : Scientific := ⟨double.centre / grid power, power⟩
  let above : Scientific := ⟨double.centre / grid power + 1, power⟩
  let fromBelow := double.centre - below.coefficient * grid power
  let fromAbove := above.coefficient * grid power - double.centre
  match double.covers below, double.covers above with
  | true, true =>
      if fromBelow < fromAbove then some below
      else if fromBelow = fromAbove ∧ below.coefficient % 2 = 0 then some below
      else some above
  | true, false => some below
  | false, true => some above
  | false, false => none

/-- The decimal with the fewest digits that rounds to the double. Seventeen digits always do. -/
def shortest (double : Binary) : Scientific :=
  ((List.range 17).findSome? fun places => double.nearestOn? (double.leading - places)).getD
    ⟨double.centre / grid (double.leading - 16), double.leading - 16⟩

end Binary

/-- The exponents of the first digit for which a number is still written positionally. Every other
number is written with an exponent. -/
structure PositionalRange where
  least : Int
  greatest : Int
deriving DecidableEq, Repr

/-- The digits of a decimal without zeros at the end, and the exponent of the first digit. -/
def Scientific.spelled (decimal : Scientific) : List Char × Int :=
  let all := Decimal.digits decimal.coefficient
  let significant := (all.reverse.dropWhile (· = '0')).reverse
  (significant, (decimal.power : Int) - 345 + all.length - 1)

/-- A decimal as it is written. A whole number written positionally ends in one zero place; an
exponent has a sign and no leading zeros. -/
def Scientific.write (positional : PositionalRange) (decimal : Scientific) : List Char :=
  let (significant, exponent) := decimal.spelled
  if positional.least ≤ exponent ∧ exponent ≤ positional.greatest then
    if exponent < 0 then
      '0' :: '.' :: List.replicate (exponent.natAbs - 1) '0' ++ significant
    else
      let whole := significant.take (exponent.natAbs + 1)
      let places := significant.drop (exponent.natAbs + 1)
      whole ++ List.replicate (exponent.natAbs + 1 - whole.length) '0' ++
        '.' :: (if places.isEmpty then ['0'] else places)
  else
    let mantissa := match significant with
      | first :: second :: rest => first :: '.' :: second :: rest
      | other => other
    mantissa ++ ['e', if exponent < 0 then '-' else '+'] ++ Decimal.digits exponent.natAbs

def shortestText (positional : PositionalRange) (double : Float) : String :=
  let magnitude := Binary.ofBits double.toBits
  let unsigned :=
    if magnitude.significand = 0 then ['0', '.', '0'] else magnitude.shortest.write positional
  String.ofList (if double.toBits >>> 63 = 1 then '-' :: unsigned else unsigned)

end OverlayNet.Decimal
