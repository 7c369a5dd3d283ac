import Scaffold.Data
import Scaffold.Number.Reading
import Scaffold.Text.Hexadecimal

/-!
# Reading data from JSON

A text of JSON is one value, with white space around its parts. Strings stand in double quotes,
without control characters, and escape the others with a backslash; of two entries of a record with
the same key the later one counts, and values are nested no deeper than a limit.
-/

namespace Scaffold

namespace JsonReader

/-- A text without the white space at its start. -/
def skipSpace (text : Text) : Text :=
  text.dropWhile fun character =>
    character == ' ' || character == '\t' || character == '\n' || character == '\r'

/-- The character of an escape after `\u`, which may take two units, and the rest. -/
def unicodeEscape? (text : Text) : Option (Char × Text) := do
  let (unit, rest) ← Text.hexNumber? 4 text
  if 0xD800 ≤ unit && unit ≤ 0xDBFF then
    let (low, rest) ← Text.hexNumber? 4 (← Text.after? ['\\', 'u'] rest)
    if 0xDC00 ≤ low && low ≤ 0xDFFF then
      some (Char.ofNat (0x10000 + (unit - 0xD800) * 0x400 + (low - 0xDC00)), rest)
    else
      none
  else if 0xDC00 ≤ unit && unit ≤ 0xDFFF then
    none
  else
    some (Char.ofNat unit, rest)

/-- The character of an escape after the backslash, and the rest. -/
def escape? : Text → Option (Char × Text)
  | '"' :: rest => some ('"', rest)
  | '\\' :: rest => some ('\\', rest)
  | '/' :: rest => some ('/', rest)
  | 'b' :: rest => some (Char.ofNat 8, rest)
  | 'f' :: rest => some (Char.ofNat 12, rest)
  | 'n' :: rest => some ('\n', rest)
  | 'r' :: rest => some ('\r', rest)
  | 't' :: rest => some ('\t', rest)
  | 'u' :: rest => unicodeEscape? rest
  | _ => none

/-- The content of a string up to its closing quote, and the rest. The number of characters to read
is bounded by `fuel`. -/
def stringContent? : (fuel : Nat) → Text → Option (Text × Text)
  | 0, _ => none
  | _ + 1, [] => none
  | _ + 1, '"' :: rest => some ([], rest)
  | fuel + 1, '\\' :: rest => do
    let (character, rest) ← escape? rest
    let (content, rest) ← stringContent? fuel rest
    some (character :: content, rest)
  | fuel + 1, character :: rest =>
    if character.toNat < 0x20 then none
    else do
      let (content, rest) ← stringContent? fuel rest
      some (character :: content, rest)

/-- A string, and the rest. -/
def string? : Text → Option (Text × Text)
  | '"' :: rest => stringContent? (rest.length + 1) rest
  | _ => none

/-- The values that are written as a word. -/
def wordValues : List (Text × Data) :=
  [("null".toList, .null), ("true".toList, .boolean true), ("false".toList, .boolean false)]

/-- A value that is written as a word or a number, and the rest. -/
def plainValue? (text : Text) : Option (Data × Text) :=
  let word :=
    wordValues.findSome? fun (word, value) => (Text.after? word text).map fun rest => (value, rest)
  match word with
  | some result => some result
  | none => (Number.read? text).map fun (number, rest) => (.number number, rest)

mutual

/-- A value, and the rest. Lists and records may be nested `depth` deep, and the number of values to
read is bounded by `fuel`. -/
def value? : (fuel depth : Nat) → Text → Option (Data × Text)
  | 0, _, _ => none
  | fuel + 1, depth, text =>
    match skipSpace text, depth with
    | '"' :: rest, _ => (string? ('"' :: rest)).map fun (content, rest) => (.text content, rest)
    | '[' :: rest, depth + 1 =>
      match skipSpace rest with
      | ']' :: rest => some (.list [], rest)
      | _ => (items? fuel depth rest).map fun (items, rest) => (.list items, rest)
    | '\x7b' :: rest, depth + 1 =>
      match skipSpace rest with
      | '\x7d' :: rest => some (.record [], rest)
      | _ => (entries? fuel depth [] rest).map fun (entries, rest) => (.record entries, rest)
    | text, _ => plainValue? text

/-- The items of a list up to its closing bracket, and the rest. -/
def items? : (fuel depth : Nat) → Text → Option (List Data × Text)
  | 0, _, _ => none
  | fuel + 1, depth, text => do
    let (item, rest) ← value? fuel depth text
    match skipSpace rest with
    | ',' :: rest =>
      let (items, rest) ← items? fuel depth rest
      some (item :: items, rest)
    | ']' :: rest => some ([item], rest)
    | _ => none

/-- The entries of a record after those that are given, up to its closing brace, and the rest. -/
def entries? :
    (fuel depth : Nat) → List (Text × Data) → Text → Option (List (Text × Data) × Text)
  | 0, _, _, _ => none
  | fuel + 1, depth, entries, text => do
    let (key, rest) ← string? (skipSpace text)
    match skipSpace rest with
    | ':' :: rest =>
      let (value, rest) ← value? fuel depth rest
      let entries := Data.withEntry key value entries
      match skipSpace rest with
      | ',' :: rest => entries? fuel depth entries rest
      | '\x7d' :: rest => some (entries, rest)
      | _ => none
    | _ => none

end

/-- How deep lists and records may be nested. -/
def deepestNesting : Nat :=
  127

end JsonReader

/-- The value that a text of JSON stands for. -/
def Data.ofJson? (text : Text) : Option Data := do
  let (value, rest) ← JsonReader.value? (2 * text.length + 2) JsonReader.deepestNesting text
  if (JsonReader.skipSpace rest).isEmpty then some value else none

end Scaffold
