import Scaffold.Text.Hexadecimal
import Scaffold.Toml

/-!
# TOML strings and keys

Strings in double quotes have escapes, strings in single quotes stand for themselves, and either
kind may span several lines between tripled quotes. A line end right after tripled quotes is
dropped, and a backslash before a line end drops the white space up to the next character; any other
line end is kept as it is written. Control characters other than tabs are not allowed. Keys are bare
words or strings on one line, separated by dots, and have a limited number of parts.
-/

namespace Scaffold.Toml

/-- Whether a character may separate the parts of a line. -/
def isSpace (character : Char) : Bool :=
  character == ' ' || character == '\t'

/-- A text without the spaces at its start. -/
def skipSpace (text : Text) : Text :=
  text.dropWhile isSpace

/-- Whether a character may stand in a comment or a string. -/
def isPlain (character : Char) : Bool :=
  character == '\t' || (0x20 ≤ character.toNat && character.toNat != 0x7F)

/-- A line end, and the rest. -/
def lineBreak? : Text → Option (Text × Text)
  | '\n' :: rest => some (['\n'], rest)
  | '\r' :: '\n' :: rest => some (['\r', '\n'], rest)
  | _ => none

/-- The text after a line end. -/
def lineEnd? (text : Text) : Option Text :=
  (lineBreak? text).map fun (_, rest) => rest

/-- The character whose code point `count` hexadecimal digits give, and the rest. -/
def codePoint? (count : Nat) (text : Text) : Option (Char × Text) := do
  let (code, rest) ← Text.hexNumber? count text
  if code.isValidChar then some (Char.ofNat code, rest) else none

/-- The character of an escape after the backslash, and the rest. -/
def escape? : Text → Option (Char × Text)
  | 'b' :: rest => some (Char.ofNat 8, rest)
  | 'e' :: rest => some (Char.ofNat 27, rest)
  | 't' :: rest => some ('\t', rest)
  | 'n' :: rest => some ('\n', rest)
  | 'f' :: rest => some (Char.ofNat 12, rest)
  | 'r' :: rest => some ('\r', rest)
  | '"' :: rest => some ('"', rest)
  | '\\' :: rest => some ('\\', rest)
  | 'x' :: rest => codePoint? 2 rest
  | 'u' :: rest => codePoint? 4 rest
  | 'U' :: rest => codePoint? 8 rest
  | _ => none

/-- A text without the spaces and line ends at its start. -/
def skipLines : Text → Text
  | [] => []
  | '\r' :: '\n' :: rest => skipLines rest
  | character :: rest =>
    if isSpace character || character == '\n' then skipLines rest else character :: rest

/-- The text after a line end and all white space before the next character. -/
def continuation? (text : Text) : Option Text :=
  (lineEnd? (skipSpace text)).map skipLines

/-- The content of a string on one line up to its closing quote, and the rest. -/
def lineContent? (quote : Char) : (fuel : Nat) → Text → Option (Text × Text)
  | 0, _ => none
  | _ + 1, [] => none
  | fuel + 1, character :: rest =>
    if character = quote then
      some ([], rest)
    else if character = '\\' && quote = '"' then do
      let (escaped, rest) ← escape? rest
      let (content, rest) ← lineContent? quote fuel rest
      some (escaped :: content, rest)
    else if isPlain character then do
      let (content, rest) ← lineContent? quote fuel rest
      some (character :: content, rest)
    else
      none

/-- The quotes at the end of a string over several lines. Up to two of them are content. -/
def closingQuotes? (quote : Char) (text : Text) : Option (Text × Text) :=
  let quotes := (text.takeWhile (· == quote)).length
  if quotes < 3 then none
  else
    let kept := min (quotes - 3) 2
    some (List.replicate kept quote, text.drop (kept + 3))

/-- The content of a string over several lines up to its closing quotes, and the rest. -/
def blockContent? (quote : Char) : (fuel : Nat) → Text → Option (Text × Text)
  | 0, _ => none
  | _ + 1, [] => none
  | fuel + 1, character :: following =>
    let text := character :: following
    match closingQuotes? quote text with
    | some result => some result
    | none =>
      match lineBreak? text with
      | some (lineBreak, rest) => do
        let (content, rest) ← blockContent? quote fuel rest
        some (lineBreak ++ content, rest)
      | none =>
        if character = '\\' && quote = '"' then
          match continuation? following with
          | some rest => blockContent? quote fuel rest
          | none => do
            let (escaped, rest) ← escape? following
            let (content, rest) ← blockContent? quote fuel rest
            some (escaped :: content, rest)
        else if isPlain character then do
          let (content, rest) ← blockContent? quote fuel following
          some (character :: content, rest)
        else
          none

/-- A string on one line, and the rest. -/
def lineString? : Text → Option (Text × Text)
  | '"' :: rest => lineContent? '"' (rest.length + 1) rest
  | '\'' :: rest => lineContent? '\'' (rest.length + 1) rest
  | _ => none

/-- A string over several lines after its opening quotes, and the rest. -/
def blockString? (quote : Char) (text : Text) : Option (Text × Text) :=
  let start := (lineEnd? text).getD text
  blockContent? quote (start.length + 1) start

/-- A string of any kind, and the rest. -/
def string? (text : Text) : Option (Text × Text) :=
  match text with
  | '"' :: '"' :: '"' :: rest => blockString? '"' rest
  | '\'' :: '\'' :: '\'' :: rest => blockString? '\'' rest
  | other => lineString? other

/-- Whether a character may stand in a bare key. -/
def isKeyCharacter (character : Char) : Bool :=
  character.isAlphanum || character == '_' || character == '-'

/-- One part of a key, and the rest. -/
def keyPart? (text : Text) : Option (Text × Text) :=
  match text.takeWhile isKeyCharacter with
  | [] => lineString? text
  | part => some (part, text.dropWhile isKeyCharacter)

/-- The parts of a key, and the rest. -/
def keyParts? : (fuel : Nat) → Text → Option (List Text × Text)
  | 0, _ => none
  | fuel + 1, text => do
    let (part, rest) ← keyPart? (skipSpace text)
    match skipSpace rest with
    | '.' :: rest =>
      let (parts, rest) ← keyParts? fuel rest
      some (part :: parts, rest)
    | rest => some ([part], rest)

/-- The greatest number of parts of a key. -/
def mostKeyParts : Nat :=
  80

/-- A key with its parts, and the text after it and its spaces. -/
def key? (text : Text) : Option (List Text × Text) := do
  let (parts, rest) ← keyParts? (text.length + 1) text
  if parts.length ≤ mostKeyParts then some (parts, rest) else none

end Scaffold.Toml
