import Scaffold.Number.Double

/-!
# Shortest decimals

A double is written with as few decimal digits as identify it: of all decimal numbers to which it is
the nearest double, those with the fewest digits are candidates, and of these the one nearest to it
is taken. Decimal numbers and the bounds of the numbers that a double is nearest to are compared as
integers, by multiplying away all denominators.
-/

namespace Scaffold.Double

/-- The decimal number `digits * 10 ^ exponent`. -/
structure Decimal where
  digits : Nat
  exponent : Int
  deriving DecidableEq, Repr

/-- How the decimal number `digits * 10 ^ exponent` compares with `places * 2 ^ power`. -/
def compareDecimal (digits : Nat) (exponent : Int) (places : Nat) (power : Int) : Ordering :=
  compare
    (digits * Nat.pow 10 exponent.toNat * Nat.pow 2 (-power).toNat)
    (places * Nat.pow 2 power.toNat * Nat.pow 10 (-exponent).toNat)

/-- Whether a double is the one nearest to a decimal number. The numbers that it is nearest to reach
half way to its neighbours, of which the lower one is twice as near below a power of two, and they
include both ends when the mantissa is even. -/
def isNearestTo (value : Double) (digits : Nat) (exponent : Int) : Bool :=
  let isNarrowBelow := value.mantissa == fullMantissa && value.exponent > leastExponent
  let lower := 4 * value.mantissa - if isNarrowBelow then 1 else 2
  let upper := 4 * value.mantissa + 2
  let hasEnds := value.mantissa % 2 == 0
  let fromLower := compareDecimal digits exponent lower (value.exponent - 2)
  let fromUpper := compareDecimal digits exponent upper (value.exponent - 2)
  (fromLower == .gt || hasEnds && fromLower == .eq) &&
    (fromUpper == .lt || hasEnds && fromUpper == .eq)

/-- The number of decimal digits of a natural number, none of them for zero. -/
def digitCount (value : Nat) : Nat :=
  if value = 0 then 0 else (Nat.toDigits 10 value).length

/-- The least power of ten that is above the magnitude of a double other than zero. -/
def decimalScale (value : Double) : Int :=
  if value.denominator ≤ value.numerator then
    digitCount (value.numerator / value.denominator)
  else
    1 - (digitCount ((value.denominator - 1) / value.numerator) : Int)

/-- The multiple of `10 ^ exponent` that is nearest to a double, of the two around it to which the
double is nearest. If both are equally near, the even one is taken. -/
def nearestMultiple? (value : Double) (exponent : Int) : Option Nat :=
  let below :=
    value.numerator * Nat.pow 10 (-exponent).toNat /
      (value.denominator * Nat.pow 10 exponent.toNat)
  match value.isNearestTo below exponent, value.isNearestTo (below + 1) exponent with
  | true, true =>
    match compareDecimal (2 * below + 1) exponent (2 * value.mantissa) value.exponent with
    | .lt => some (below + 1)
    | .eq => some (below + below % 2)
    | .gt => some below
  | true, false => some below
  | false, true => some (below + 1)
  | false, false => none

/-- The greatest number of decimal digits that a double needs. -/
def mostDigits : Nat :=
  17

/-- The digits without their trailing zeros. The number of zeros to remove is bounded by `zeros`. -/
def Decimal.withoutZeros : (zeros : Nat) → Decimal → Decimal
  | 0, decimal => decimal
  | zeros + 1, ⟨digits, exponent⟩ =>
    if digits % 10 = 0 then withoutZeros zeros ⟨digits / 10, exponent + 1⟩
    else ⟨digits, exponent⟩

/-- All digits of a double. -/
def allDigits (value : Double) : Decimal :=
  ⟨value.numerator * Nat.pow 5 (-value.exponent).toNat, min value.exponent 0⟩

/-- The shortest decimal number that identifies a double other than zero. -/
def shortest (value : Double) : Decimal :=
  let scale := value.decimalScale
  let found :=
    (List.range mostDigits).findSome? fun (count : Nat) =>
      let exponent := scale - (count + 1)
      (value.nearestMultiple? exponent).map (Decimal.mk · exponent)
  (found.getD value.allDigits).withoutZeros mostDigits

end Scaffold.Double
