import Scaffold.Data
import Scaffold.Text.Hexadecimal

/-!
# Data as JSON

Data is written as JSON with two spaces per level and one item per line. Quotes, backslashes and
control characters are escaped; every other character stands for itself.
-/

namespace Scaffold.Data

/-- A character inside a JSON string. -/
def escaped (character : Char) : Text :=
  match character with
  | '"' => ['\\', '"']
  | '\\' => ['\\', '\\']
  | '\n' => ['\\', 'n']
  | '\r' => ['\\', 'r']
  | '\t' => ['\\', 't']
  | other =>
    let code := other.toNat
    if code = 8 then ['\\', 'b']
    else if code = 12 then ['\\', 'f']
    else if code < 0x20 then
      ['\\', 'u', '0', '0', Text.hexDigit (code / 16), Text.hexDigit (code % 16)]
    else
      [other]

/-- A text as a JSON string. -/
def quotedText (text : Text) : Text :=
  '"' :: text.flatMap escaped ++ ['"']

/-- The start of a line at a level. -/
def lineStart (level : Nat) : Text :=
  '\n' :: List.replicate (2 * level) ' '

mutual

/-- A value as JSON, whose lines after the first stand at `level` or deeper. -/
def jsonAt (level : Nat) : Data → Text
  | .null => "null".toList
  | .boolean value => if value then "true".toList else "false".toList
  | .number value => value.toText
  | .text value => quotedText value
  | .list [] => "[]".toList
  | .list (first :: others) =>
    '[' :: lineStart (level + 1) ++ jsonAt (level + 1) first ++
      itemsJsonAt (level + 1) others ++ lineStart level ++ [']']
  | .record [] => ['\x7b', '\x7d']
  | .record ((key, value) :: others) =>
    '\x7b' :: lineStart (level + 1) ++ quotedText key ++ ": ".toList ++
      jsonAt (level + 1) value ++ entriesJsonAt (level + 1) others ++ lineStart level ++ ['\x7d']

/-- The items after the first, each on a line of its own. -/
def itemsJsonAt (level : Nat) : List Data → Text
  | [] => []
  | item :: others =>
    ',' :: lineStart level ++ jsonAt level item ++ itemsJsonAt level others

/-- The entries after the first, each on a line of its own. -/
def entriesJsonAt (level : Nat) : List (Text × Data) → Text
  | [] => []
  | (key, value) :: others =>
    ',' :: lineStart level ++ quotedText key ++ ": ".toList ++ jsonAt level value ++
      entriesJsonAt level others

end

/-- A value as JSON. -/
def toJson (data : Data) : Text :=
  jsonAt 0 data

end Scaffold.Data
