import Scaffold.Number

/-!
# Reading numbers

A number is written as JSON writes it: an optional minus sign, digits without a leading zero, and
optionally a point with digits and an exponent. Without the last two it is an integer, if 64 bits
hold it. Otherwise it is a double: the digits that 64 bits hold make an integer, the digits beyond
them only count as places, and the integer, as a double, is scaled by the power of ten that places
and exponent amount to. This leaves the last digit of a double uncertain.
-/

namespace Scaffold.Number

/-- The value of a decimal digit. -/
def digitValue (digit : Char) : Nat :=
  digit.toNat - 48

/-- The natural number that digits stand for. -/
def naturalOf (digits : Text) : Nat :=
  digits.foldl (fun value digit => value * 10 + digitValue digit) 0

/-- The number of naturals that 64 bits hold. -/
def wordLimit : Nat :=
  Nat.pow 2 64

/-- The natural number `value` followed by digits, as long as 64 bits hold it, and the digits that
are left. -/
def accumulated (value : Nat) : Text → Nat × Text
  | [] => (value, [])
  | digit :: digits =>
    let next := value * 10 + digitValue digit
    if next < wordLimit then accumulated next digits else (value, digit :: digits)

/-- The parts of a written number. -/
structure Written where
  negative : Bool
  whole : Text
  fraction : Text
  exponent : Option Int

/-- An integer that 64 bits hold with its sign. A negative zero is none. -/
def integer? (negative : Bool) (magnitude : Nat) : Option Number :=
  if !negative then some (.integer magnitude)
  else if magnitude = 0 ∨ magnitude > wordLimit / 2 then none
  else some (.integer (-(magnitude : Int)))

/-- The double of a significand times a power of ten. -/
def double? (negative : Bool) (significand : Nat) (exponent : Int) : Option Number := do
  let significand ← Double.nearest? negative significand 1
  some (.double (← significand.scaled? exponent))

/-- The value of a written number, unless it is too large. -/
def Written.value? (written : Written) : Option Number :=
  let (significand, uncounted) := accumulated 0 written.whole
  let isInteger := written.fraction.isEmpty && written.exponent.isNone && uncounted.isEmpty
  match if isInteger then integer? written.negative significand else none with
  | some number => some number
  | none =>
    let (significand, unread) := accumulated significand written.fraction
    let places : Int := written.fraction.length - unread.length
    let exponent := written.exponent.getD 0 + uncounted.length - places
    double? written.negative significand exponent

/-- Digits at the start of a text, at least one, and the rest. -/
def digits? (text : Text) : Option (Text × Text) :=
  match text.takeWhile Char.isDigit with
  | [] => none
  | digits => some (digits, text.dropWhile Char.isDigit)

/-- Whether a text starts with a minus sign, and the rest. -/
def minusSign : Text → Bool × Text
  | '-' :: rest => (true, rest)
  | text => (false, text)

/-- Whether an exponent is negative, and the rest after its sign. -/
def exponentSign : Text → Bool × Text
  | '+' :: rest => (false, rest)
  | text => minusSign text

/-- The digits after a point, none if there is no point, and the rest. -/
def fraction? : Text → Option (Text × Text)
  | '.' :: rest => digits? rest
  | text => some ([], text)

/-- The exponent after its mark, nothing if there is no mark, and the rest. -/
def exponent? (text : Text) : Option (Option Int × Text) :=
  match text with
  | [] => some (none, [])
  | mark :: rest =>
    if mark == 'e' || mark == 'E' then do
      let (negative, rest) := exponentSign rest
      let (digits, rest) ← digits? rest
      let magnitude : Int := naturalOf digits
      some (some (if negative then -magnitude else magnitude), rest)
    else
      some (none, text)

/-- A written number at the start of a text, and the rest. -/
def written? (text : Text) : Option (Written × Text) := do
  let (negative, text) := minusSign text
  let (whole, text) ← digits? text
  if whole.head? == some '0' && whole.length > 1 then none
  else
    let (fraction, text) ← fraction? text
    let (exponent, text) ← exponent? text
    some (⟨negative, whole, fraction, exponent⟩, text)

/-- A number at the start of a text, and the rest. -/
def read? (text : Text) : Option (Number × Text) := do
  let (written, rest) ← written? text
  some (← written.value?, rest)

/-- The number that a text stands for. -/
def ofText? (text : Text) : Option Number :=
  match read? text with
  | some (number, []) => some number
  | _ => none

end Scaffold.Number
