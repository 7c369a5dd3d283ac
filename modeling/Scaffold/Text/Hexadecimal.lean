import Scaffold.Text.Basic

/-!
# Hexadecimal digits

Sixteen digits, of which the last six are letters: written in lower case, and read in either case.
-/

namespace Scaffold.Text

/-- A hexadecimal digit in lower case. -/
def hexDigit (value : Nat) : Char :=
  if value < 10 then Char.ofNat (48 + value) else Char.ofNat (87 + value)

/-- The value of a hexadecimal digit. -/
def hexValue? (character : Char) : Option Nat :=
  if character.isDigit then some (character.toNat - 48)
  else if 'a' ≤ character && character ≤ 'f' then some (character.toNat - 87)
  else if 'A' ≤ character && character ≤ 'F' then some (character.toNat - 55)
  else none

/-- The number that the first `count` characters stand for, when all of them are hexadecimal digits,
and the rest. -/
def hexNumber? (count : Nat) (text : Text) : Option (Nat × Text) := do
  let digits := text.take count
  if digits.length < count then none
  else
    let value ← digits.foldlM (fun value digit => (hexValue? digit).map (value * 16 + ·)) 0
    some (value, text.drop count)

end Scaffold.Text
