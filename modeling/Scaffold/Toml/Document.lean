import Scaffold.Toml.Numbers

/-!
# TOML documents

A document is a sequence of lines: headers, which say where the following lines belong, and keys
with their values. Values in brackets or braces may span several lines, with comments in between,
and are nested no deeper than a limit. `ofText?` gives the entries of a document, or nothing when it
is not well-formed or gives something twice.
-/

namespace Scaffold.Toml

/-- A text without a comment at its start, whose characters must be plain. -/
def afterComment? (text : Text) : Option Text :=
  match text with
  | '#' :: rest =>
    let after := rest.dropWhile isPlain
    match after with
    | [] => some []
    | _ => if (lineEnd? after).isSome then some after else none
  | other => some other

/-- The text after the spaces, comments and line ends at its start. -/
def afterBlankLines? : (fuel : Nat) → Text → Option Text
  | 0, _ => none
  | fuel + 1, text => do
    let rest ← afterComment? (skipSpace text)
    match lineEnd? rest with
    | some rest => afterBlankLines? fuel rest
    | none => some rest

/-- The text after what may stand between the parts of a list or an inline table. -/
def betweenItems? (text : Text) : Option Text :=
  afterBlankLines? (text.length + 1) text

mutual

/-- A value, and the rest. Lists and inline tables may be nested `depth` deep, and the number of
values to read is bounded by `fuel`. -/
def value? : (fuel depth : Nat) → Text → Option (Value × Text)
  | 0, _, _ => none
  | fuel + 1, depth, text =>
    match text, depth with
    | '"' :: _, _ | '\'' :: _, _ =>
      (string? text).map fun (content, rest) => (.text content, rest)
    | '[' :: rest, depth + 1 =>
      (items? fuel depth rest).map fun (items, rest) => (.list items, rest)
    | '\x7b' :: rest, depth + 1 =>
      (inlineEntries? fuel depth [] rest).map fun (entries, rest) => (.table .inline entries, rest)
    | _, _ => scalar? text

/-- The items of a list up to its closing bracket, and the rest. -/
def items? : (fuel depth : Nat) → Text → Option (List Value × Text)
  | 0, _, _ => none
  | fuel + 1, depth, text => do
    let start ← betweenItems? text
    match start with
    | ']' :: rest => some ([], rest)
    | _ => do
      let (item, rest) ← value? fuel depth start
      let rest ← betweenItems? rest
      match rest with
      | ',' :: rest => do
        let (items, rest) ← items? fuel depth rest
        some (item :: items, rest)
      | ']' :: rest => some ([item], rest)
      | _ => none

/-- The entries of an inline table after those that are given, up to its closing brace, and the
rest. -/
def inlineEntries? : (fuel depth : Nat) → Entries → Text → Option (Entries × Text)
  | 0, _, _, _ => none
  | fuel + 1, depth, entries, text => do
    let start ← betweenItems? text
    match start with
    | '\x7d' :: rest => some (entries, rest)
    | _ => do
      let (keys, rest) ← key? start
      let rest ← Text.after? ['='] (← betweenItems? rest)
      let (value, rest) ← value? fuel depth (← betweenItems? rest)
      let entries ← assigned? keys value entries
      let rest ← betweenItems? rest
      match rest with
      | ',' :: rest => inlineEntries? fuel depth entries rest
      | '\x7d' :: rest => some (entries, rest)
      | _ => none

end

/-- How deep lists and inline tables may be nested. -/
def deepestNesting : Nat :=
  80

/-- The entries read so far and the header that the next lines belong to. -/
structure Reading where
  entries : Entries
  header : List Text

/-- The text after the end of a line, which may have a comment. -/
def afterLine? (text : Text) : Option Text := do
  let rest ← afterComment? (skipSpace text)
  match rest with
  | [] => some []
  | _ => lineEnd? rest

/-- The entries with a header of one table. -/
def Reading.headed? (reading : Reading) (keys : List Text) : Option Reading :=
  match keys.reverse with
  | [] => none
  | last :: before => do
    let entries ← within? false (Toml.headed? last) before.reverse reading.entries
    some ⟨entries, keys⟩

/-- The entries with a header of one more table. -/
def Reading.headedAgain? (reading : Reading) (keys : List Text) : Option Reading :=
  match keys.reverse with
  | [] => none
  | last :: before => do
    let entries ← within? false (Toml.headedAgain? last) before.reverse reading.entries
    some ⟨entries, keys⟩

/-- The entries with a value under a key of the current table. -/
def Reading.assigned? (reading : Reading) (keys : List Text) (value : Value) : Option Reading := do
  let entries ← within? false (Toml.assigned? keys value) reading.header reading.entries
  some { reading with entries := entries }

/-- What one line that is not blank adds, and the rest. -/
def Reading.line? (reading : Reading) (text : Text) : Option (Reading × Text) :=
  match text with
  | '[' :: '[' :: rest => do
    let (keys, rest) ← key? rest
    let rest ← Text.after? "]]".toList rest
    let reading ← reading.headedAgain? keys
    some (reading, rest)
  | '[' :: rest => do
    let (keys, rest) ← key? rest
    let rest ← Text.after? "]".toList rest
    let reading ← reading.headed? keys
    some (reading, rest)
  | _ => do
    let (keys, rest) ← key? text
    let rest ← Text.after? "=".toList rest
    let (value, rest) ← value? (2 * rest.length + 2) deepestNesting (skipSpace rest)
    let reading ← reading.assigned? keys value
    some (reading, rest)

/-- The entries after all lines of a text. -/
def Reading.lines? (reading : Reading) : (fuel : Nat) → Text → Option Reading
  | 0, _ => none
  | fuel + 1, text => do
    let start ← betweenItems? text
    match start with
    | [] => some reading
    | _ => do
      let (reading, rest) ← reading.line? start
      let rest ← afterLine? rest
      reading.lines? fuel rest

/-- A text without a byte order mark. -/
def withoutMark (text : Text) : Text :=
  match text with
  | character :: rest => if character.toNat = 0xFEFF then rest else text
  | [] => []

/-- The entries of a document. -/
def ofText? (text : Text) : Option Entries :=
  let text := withoutMark text
  ((Reading.mk [] []).lines? (text.length + 1) text).map (·.entries)

end Scaffold.Toml
