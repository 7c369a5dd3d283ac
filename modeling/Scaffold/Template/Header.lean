import Scaffold.Text.Blank
import Scaffold.Text.Lines

/-!
# Template headers

A template starts with a header that may say where its output goes. Blank lines and directive lines
belong to the header; the first other line starts the body, and no directive is recognised after it.
A later directive of the same kind overrides an earlier one, and an empty value counts as none.
-/

namespace Scaffold

/-- What a directive of the header gives. -/
inductive Directive where
  /-- The directory of the output. -/
  | path
  /-- The name of the output file. -/
  | fileName
  deriving DecidableEq, Repr

namespace Directive

/-- The name of a directive. -/
def label : Directive → Text
  | path => "path".toList
  | fileName => "fileName".toList

/-- The word that starts a directive line. -/
def keyword (directive : Directive) : Text :=
  '#' :: directive.label

/-- Whether a character may stand between the keyword and the value. -/
def accepts : Directive → Char → Bool
  | path, operator => operator == '='
  | fileName, operator => operator == '=' || operator == ':'

/-- The value of a trimmed line, when it is a line of this directive. -/
def value? (directive : Directive) (line : Text) : Option Text :=
  match Text.after? directive.keyword line with
  | none => none
  | some rest =>
    match Text.trimStart rest with
    | operator :: value => if directive.accepts operator then some (Text.trim value) else none
    | [] => none

/-- The directive that a trimmed line gives and its value. -/
def ofLine? (line : Text) : Option (Directive × Text) :=
  match path.value? line with
  | some value => some (path, value)
  | none => (fileName.value? line).map fun value => (fileName, value)

end Directive

namespace Template

/-- A template source, divided into its directives and its body. -/
structure Parts where
  path : Option Text
  fileName : Option Text
  body : Text
  deriving DecidableEq

/-- A value of a directive, where the empty one counts as none. -/
def givenValue (value : Text) : Option Text :=
  if value.isEmpty then none else some value

/-- The parts with the value of one more directive. -/
def Parts.withValue (parts : Parts) : Directive → Text → Parts
  | .path, value => { parts with path := givenValue value }
  | .fileName, value => { parts with fileName := givenValue value }

/-- Whether a line belongs to a header. -/
def isHeaderLine (line : Text) : Bool :=
  let trimmed := Text.trim line
  trimmed.isEmpty || (Directive.ofLine? trimmed).isSome

/-- The directives that the lines of a header give, in order. -/
def directivesOf (header : List Text) : List (Directive × Text) :=
  header.filterMap fun line => Directive.ofLine? (Text.trim line)

/-- The parts of a template source. -/
def partsOf (source : Text) : Parts :=
  let lines := Text.lines source
  let header := lines.takeWhile isHeaderLine
  (directivesOf header).foldl
    (fun parts (directive, value) => parts.withValue directive value)
    ⟨none, none, Text.written (lines.dropWhile isHeaderLine)⟩

end Template

end Scaffold
