import Scaffold.Data.JsonReader
import Scaffold.Stencil.Lexicon

/-!
# Literals

The values that can be written out in a hole: strings in either kind of quote, numbers, booleans,
`null`, lists and records. The shape of a literal says where it ends, and is wider than JSON; what
has the shape of a literal and is not JSON has no value. Only a string in single quotes that is
no part of a list or a record is read like one in double quotes.
-/

namespace Scaffold.Stencil

/-- Whether a character after a backslash stands for one character in a string. -/
def isEscapable (quote : Char) (character : Char) : Bool :=
  character == quote || ['\\', '/', 'b', 'f', 'n', 'r', 't'].contains character

/-- The text after the content of a string and its closing quote. -/
def afterString? (quote : Char) : Text → Option Text
  | [] => none
  | '\\' :: 'u' :: a :: b :: c :: d :: rest =>
    if [a, b, c, d].all fun digit => (Text.hexValue? digit).isSome then afterString? quote rest
    else none
  | '\\' :: escaped :: rest => if isEscapable quote escaped then afterString? quote rest else none
  | character :: rest => if character = quote then some rest else afterString? quote rest

/-- The text after a mark, if it stands there, and after what follows it, or the text itself. -/
def afterOptional (mark : Char) (following : Text → Option Text) (text : Text) : Text :=
  match text with
  | [] => []
  | character :: rest => if character = mark then (following rest).getD text else text

/-- The text after what has the shape of a number, where no word goes on. -/
def afterNumber? (text : Text) : Option Text := do
  let text := afterOptional '-' some text
  let (_, text) ← run? Char.isDigit text
  let text := afterOptional '.' (fun rest => some (rest.dropWhile Char.isDigit)) text
  let text :=
    afterOptional 'E'
      (fun rest => (run? Char.isDigit (afterOptional '-' some rest)).map fun (_, rest) => rest)
      text
  if startsWithSymbol text then none else some text

mutual

/-- The text after what has the shape of a literal. Nesting and length are bounded by `fuel`. -/
def afterLiteral? : (fuel : Nat) → Text → Option Text
  | 0, _ => none
  | fuel + 1, text =>
    match text with
    | '"' :: rest => afterString? '"' rest
    | '\'' :: rest => afterString? '\'' rest
    | '[' :: rest => afterItems? fuel ((afterLiteral? fuel (skipSpace rest)).getD rest)
    | '\x7b' :: rest => afterPairs? fuel ((afterPair? fuel rest).getD rest)
    | _ =>
      match afterNumber? text with
      | some rest => some rest
      | none =>
        ["null".toList, "true".toList, "false".toList].findSome? fun word => keyword? word text

/-- The text after the further items of a list, each after a comma, and its closing bracket. -/
def afterItems? : (fuel : Nat) → Text → Option Text
  | 0, _ => none
  | fuel + 1, text =>
    match skipSpace text with
    | ',' :: rest => (afterLiteral? fuel (skipSpace rest)).bind (afterItems? fuel)
    | ']' :: rest => some rest
    | _ => none

/-- The text after an entry of a record. -/
def afterPair? : (fuel : Nat) → Text → Option Text
  | 0, _ => none
  | fuel + 1, text => do
    let rest ←
      match skipSpace text with
      | '"' :: rest => afterString? '"' rest
      | '\'' :: rest => afterString? '\'' rest
      | _ => none
    let rest ← Text.after? [':'] (skipSpace rest)
    afterLiteral? fuel (skipSpace rest)

/-- The text after the further entries of a record, each after a comma, and its closing brace. -/
def afterPairs? : (fuel : Nat) → Text → Option Text
  | 0, _ => none
  | fuel + 1, text =>
    match skipSpace text with
    | ',' :: rest => (afterPair? fuel rest).bind (afterPairs? fuel)
    | '\x7d' :: rest => some rest
    | _ => none

end

/-- The content of single quotes with the closing quote, as it stands in double quotes. -/
def requoted : Text → Text
  | [] => []
  | ['\''] => ['"']
  | '\\' :: '\'' :: rest => '\'' :: requoted rest
  | '"' :: rest => '\\' :: '"' :: requoted rest
  | character :: rest => character :: requoted rest

/-- The value of what has the shape of a literal. -/
def literalValue? : Text → Option Data
  | '\'' :: rest => Data.ofJson? ('"' :: requoted rest)
  | written => Data.ofJson? written

end Scaffold.Stencil
