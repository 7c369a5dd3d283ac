import Scaffold.Toml.Strings

/-!
# TOML numbers and dates

Integers and decimal numbers may have a sign and single underscores between their digits, and a
whole part of several digits does not start with zero. Integers may also be written in hexadecimal,
octal or binary digits. A date, a time of day, or a date with a time and perhaps an offset is a
value too.
-/

namespace Scaffold.Toml

/-- Whether a text is digits with single underscores between some of them. -/
def isGrouped (isDigit : Char → Bool) (text : Text) : Bool :=
  (Text.pieces (· == '_') text).all fun piece => !piece.isEmpty && piece.all isDigit

/-- A number without its sign. -/
def withoutSign : Text → Text
  | '+' :: rest => rest
  | '-' :: rest => rest
  | other => other

/-- Whether a text is the whole part of a number. -/
def isWhole (text : Text) : Bool :=
  isGrouped Char.isDigit text && (text.length = 1 || text.head? != some '0')

/-- Whether a text is nothing or the fraction of a number. -/
def isFraction : Text → Bool
  | [] => true
  | _ :: digits => isGrouped Char.isDigit digits

/-- Whether a text is nothing or the exponent of a number. -/
def isExponent : Text → Bool
  | [] => true
  | _ :: scale => isGrouped Char.isDigit (withoutSign scale)

/-- Whether a text is nothing or digits with single underscores between some of them. -/
def isGroupedOrEmpty (isDigit : Char → Bool) (text : Text) : Bool :=
  text.isEmpty || isGrouped isDigit text

/-- Whether a text is an integer in hexadecimal, octal or binary digits. The digits may be left
out. -/
def isBased : Text → Bool
  | '0' :: 'x' :: digits => isGroupedOrEmpty (fun digit => (Text.hexValue? digit).isSome) digits
  | '0' :: 'o' :: digits => isGroupedOrEmpty (fun digit => '0' ≤ digit && digit ≤ '7') digits
  | '0' :: 'b' :: digits => isGroupedOrEmpty (fun digit => digit == '0' || digit == '1') digits
  | _ => false

/-- Whether a character does not start an exponent. -/
def belongsToMantissa (character : Char) : Bool :=
  character != 'e' && character != 'E'

/-- Whether a text is a number. -/
def isNumber (text : Text) : Bool :=
  let magnitude := withoutSign text
  let mantissa := magnitude.takeWhile belongsToMantissa
  let isDecimal :=
    isWhole (mantissa.takeWhile (· != '.')) && isFraction (mantissa.dropWhile (· != '.')) &&
      isExponent (magnitude.dropWhile belongsToMantissa)
  isDecimal || isBased text || magnitude = "inf".toList || magnitude = "nan".toList

/-- The number that `count` digits stand for, and the rest. -/
def digits? (count : Nat) (text : Text) : Option (Nat × Text) :=
  let digits := text.take count
  if digits.length = count && digits.all Char.isDigit then
    some (digits.foldl (fun value digit => value * 10 + (digit.toNat - 48)) 0, text.drop count)
  else
    none

/-- The number of days of a month. -/
def daysIn (year month : Nat) : Nat :=
  if month = 2 then
    if year % 4 = 0 && (year % 100 != 0 || year % 400 = 0) then 29 else 28
  else if [4, 6, 9, 11].contains month then
    30
  else
    31

/-- The text after a date. -/
def afterDate? (text : Text) : Option Text := do
  let (year, rest) ← digits? 4 text
  let rest ← Text.after? ['-'] rest
  let (month, rest) ← digits? 2 rest
  let rest ← Text.after? ['-'] rest
  let (day, rest) ← digits? 2 rest
  if 1 ≤ month && month ≤ 12 && 1 ≤ day && day ≤ daysIn year month then some rest else none

/-- The text after the hours and minutes of a time or an offset. -/
def afterMinutes? (text : Text) : Option Text := do
  let (hour, rest) ← digits? 2 text
  let rest ← Text.after? [':'] rest
  let (minute, rest) ← digits? 2 rest
  if hour ≤ 23 && minute ≤ 59 then some rest else none

/-- The text after a time of day, whose seconds may be left out. A minute may have a leap second. -/
def afterTime? (text : Text) : Option Text := do
  let rest ← afterMinutes? text
  match rest with
  | ':' :: rest =>
    let (second, rest) ← digits? 2 rest
    if second > 60 then none
    else
      match rest with
      | '.' :: fraction =>
        if fraction.head?.any Char.isDigit then some (fraction.dropWhile Char.isDigit) else none
      | other => some other
  | _ => some rest

/-- Whether a text is nothing or the offset of a time. -/
def isOffset : Text → Bool
  | [] => true
  | ['Z'] => true
  | ['z'] => true
  | sign :: rest => (sign == '+' || sign == '-') && afterMinutes? rest = some []

/-- Whether a text is a date, a time of day, or both. -/
def isMoment (text : Text) : Bool :=
  match afterDate? text with
  | some [] => true
  | some (separator :: rest) =>
    ['T', 't', ' '].contains separator && (afterTime? rest).any isOffset
  | none => afterTime? text = some []

/-- Whether a character may stand in a boolean, a number, a date or a time. -/
def isScalarCharacter (character : Char) : Bool :=
  character.isAlphanum || character == '+' || character == '-' || character == '_' ||
    character == '.' || character == ':'

/-- The date with the time that follows it after a blank, and the rest. -/
def spacedMoment? (date text : Text) : Option (Value × Text) :=
  match text with
  | ' ' :: rest =>
    let moment := date ++ ' ' :: rest.takeWhile isScalarCharacter
    if isMoment moment then some (.other moment, rest.dropWhile isScalarCharacter) else none
  | _ => none

/-- A boolean, a number, a date or a time, and the rest. -/
def scalar? (text : Text) : Option (Value × Text) :=
  let word := text.takeWhile isScalarCharacter
  let rest := text.dropWhile isScalarCharacter
  if word = "true".toList then some (.boolean true, rest)
  else if word = "false".toList then some (.boolean false, rest)
  else if isNumber word then some (.other word, rest)
  else if isMoment word then some ((spacedMoment? word rest).getD (.other word, rest))
  else none

end Scaffold.Toml
