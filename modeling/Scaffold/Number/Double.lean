/-!
# Doubles

A double is a number of 53 binary places with an exponent between -1074 and 971. The result of an
operation is the double nearest to the exact result, and of two that are equally near the one whose
last place is even; a result whose nearest double would need a greater exponent has none.
-/

namespace Scaffold

/-- The finite number `mantissa * 2 ^ exponent`, negative if `negative` says so. A mantissa takes
all 53 places, unless the exponent is the least one. -/
structure Double where
  negative : Bool
  mantissa : Nat
  exponent : Int
  deriving DecidableEq, Repr

namespace Double

/-- The least exponent. -/
def leastExponent : Int :=
  -1074

/-- The greatest exponent. -/
def greatestExponent : Int :=
  971

/-- The least mantissa that takes all places. -/
def fullMantissa : Nat :=
  Nat.pow 2 52

/-- Zero, of either sign. -/
def zero (negative : Bool) : Double :=
  ⟨negative, 0, leastExponent⟩

/-- Whether a double is zero. -/
def isZero (value : Double) : Bool :=
  value.mantissa == 0

/-- Whether a double is neither zero nor so small that its mantissa lacks places. -/
def isNormal (value : Double) : Bool :=
  fullMantissa ≤ value.mantissa

/-- The natural number nearest to a quotient, and an even one if two are equally near. -/
def roundedQuotient (numerator denominator : Nat) : Nat :=
  let quotient := numerator / denominator
  match compare (2 * (numerator % denominator)) denominator with
  | .lt => quotient
  | .eq => quotient + quotient % 2
  | .gt => quotient + 1

/-- The greatest exponent at which a quotient, cut to an integer there, takes 53 places, or the
least exponent if that is greater. The difference of the binary logarithms misses it by at most one.
-/
def exponentOf (numerator denominator : Nat) : Int :=
  let guess : Int := Nat.log2 numerator - Nat.log2 denominator - 52
  let places := numerator * Nat.pow 2 (-guess).toNat / (denominator * Nat.pow 2 guess.toNat)
  max (if places < fullMantissa then guess - 1 else guess) leastExponent

/-- The double nearest to the quotient of two natural numbers. -/
def nearest? (negative : Bool) (numerator denominator : Nat) : Option Double :=
  if numerator = 0 then
    some (zero negative)
  else
    let exponent := exponentOf numerator denominator
    let mantissa :=
      roundedQuotient
        (numerator * Nat.pow 2 (-exponent).toNat)
        (denominator * Nat.pow 2 exponent.toNat)
    let rounded : Double :=
      if mantissa = 2 * fullMantissa then ⟨negative, fullMantissa, exponent + 1⟩
      else ⟨negative, mantissa, exponent⟩
    if rounded.exponent > greatestExponent then none else some rounded

/-- The magnitude of a double times its denominator. -/
def numerator (value : Double) : Nat :=
  value.mantissa * Nat.pow 2 value.exponent.toNat

/-- The power of two that makes an integer of a double. -/
def denominator (value : Double) : Nat :=
  Nat.pow 2 (-value.exponent).toNat

/-- The product of two doubles. -/
def times? (left right : Double) : Option Double :=
  nearest? (left.negative != right.negative)
    (left.numerator * right.numerator) (left.denominator * right.denominator)

/-- The quotient of two doubles, of which the second is not zero. -/
def over? (left right : Double) : Option Double :=
  nearest? (left.negative != right.negative)
    (left.numerator * right.denominator) (left.denominator * right.numerator)

/-- The greatest power of ten that is less than infinity. -/
def greatestPower : Nat :=
  308

/-- A double times a power of ten, computed in doubles: the factor is rounded before the product or
the quotient is. A power beyond the greatest one divides in two steps, and two steps of the greatest
one leave nothing of what sixty-four bits can hold. -/
def scaled? (value : Double) (exponent : Int) : Option Double := do
  let power (exponent : Nat) := nearest? false (Nat.pow 10 exponent) 1
  if value.isZero then
    some value
  else if exponent > greatestPower then
    none
  else if 0 ≤ exponent then
    value.times? (← power exponent.toNat)
  else if -greatestPower ≤ exponent then
    value.over? (← power (-exponent).toNat)
  else if -2 * (greatestPower : Int) ≤ exponent then
    let value ← value.over? (← power greatestPower)
    value.over? (← power (-exponent - greatestPower).toNat)
  else
    some (zero value.negative)

/-- A double as a multiple of the power of two `2 ^ exponent`, for exponents not above its own. -/
def scaledTo (value : Double) (exponent : Int) : Int :=
  let magnitude : Nat := value.mantissa * Nat.pow 2 (value.exponent - exponent).toNat
  if value.negative then -magnitude else magnitude

end Double

end Scaffold
