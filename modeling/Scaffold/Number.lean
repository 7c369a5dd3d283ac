import Scaffold.Number.Shortest
import Scaffold.Text.Basic

/-!
# Numbers

A number is an integer or a double. A double is written with as few digits as identify it: with a
decimal point within sixteen places before the point and four zeros after it, and beyond that with a
signed exponent of at least two digits. Numbers of both kinds are compared exactly, without rounding.
-/

namespace Scaffold

/-- An integer or a double. -/
inductive Number where
  | integer (value : Int)
  | double (value : Double)
  deriving DecidableEq, Repr

namespace Number

/-- The digits of a natural number in base ten. -/
def digitsOf (value : Nat) : Text :=
  Nat.toDigits 10 value

/-- An integer in base ten. -/
def integerText : Int → Text
  | .ofNat magnitude => digitsOf magnitude
  | .negSucc less => '-' :: digitsOf (less + 1)

/-- An exponent with its sign and at least two digits. -/
def exponentText (exponent : Int) : Text :=
  let sign := if 0 ≤ exponent then '+' else '-'
  let digits := digitsOf exponent.natAbs
  sign :: List.replicate (2 - digits.length) '0' ++ digits

/-- The decimal number `digits * 10 ^ exponent`, whose digits end in no zero. -/
def decimalText (digits : Text) (exponent : Int) : Text :=
  let count : Int := digits.length
  let point := count + exponent
  if 0 ≤ exponent ∧ point ≤ 16 then
    digits ++ List.replicate exponent.toNat '0' ++ ".0".toList
  else if 0 < point ∧ point ≤ 16 then
    digits.take point.toNat ++ '.' :: digits.drop point.toNat
  else if -5 < point ∧ point ≤ 0 then
    "0.".toList ++ List.replicate (-point).toNat '0' ++ digits
  else
    let significand := if count = 1 then digits else digits.take 1 ++ '.' :: digits.drop 1
    significand ++ 'e' :: exponentText (point - 1)

/-- A double in base ten. -/
def doubleText (value : Double) : Text :=
  let magnitude :=
    if value.isZero then "0.0".toList
    else
      let decimal := value.shortest
      decimalText (digitsOf decimal.digits) decimal.exponent
  if value.negative then '-' :: magnitude else magnitude

/-- A number in base ten. -/
def toText : Number → Text
  | .integer value => integerText value
  | .double value => doubleText value

/-- The power of two that a number is a multiple of. -/
def exponent : Number → Int
  | .integer _ => 0
  | .double value => value.exponent

/-- A number as a multiple of the power of two `2 ^ exponent`, for exponents not above its own. -/
def scaledTo (number : Number) (exponent : Int) : Int :=
  match number with
  | .integer value => value * Nat.pow 2 (-exponent).toNat
  | .double value => value.scaledTo exponent

/-- How two numbers compare. -/
def compare (left right : Number) : Ordering :=
  let exponent := min left.exponent right.exponent
  Ord.compare (left.scaledTo exponent) (right.scaledTo exponent)

end Number

end Scaffold
