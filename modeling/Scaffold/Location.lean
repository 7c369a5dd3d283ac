import Scaffold.NamingConvention
import Scaffold.Settings
import Scaffold.Text.Blank

/-!
# Output locations

Where the output of a template goes, given its rendered directives. A path directive names a
directory below the project root by its segments; without one the directory of the category is used.
A file name that starts with a separator brings leading segments of its own, any other is taken as
it stands, and without one the naming convention decides. Both slashes separate segments, and empty
segments and `.` say nothing, so no directive can leave the directory it starts in except by `..`.
-/

namespace Scaffold

/-- A directory and the file in it. -/
structure Location where
  directory : Path
  fileName : Text
  deriving DecidableEq

/-- Why there is no location. -/
inductive LocationError where
  /-- The file name ends in a separator or in a segment that stands for a directory. -/
  | namesNoFile (fileName : Text)
  deriving DecidableEq

namespace Location

/-- The path of the file. -/
def path (location : Location) : Path :=
  location.directory.child location.fileName

/-- Whether a character separates segments. -/
def isSeparator (character : Char) : Bool :=
  character == '/' || character == '\\'

/-- Whether a segment says something. -/
def isTelling (segment : Text) : Bool :=
  !segment.isEmpty && segment != ['.']

/-- The segments of a rendered directive that say something. -/
def segments (text : Text) : List Text :=
  (Text.pieces isSeparator text).filter isTelling

/-- A path followed by segments. -/
def below (start : Path) (segments : List Text) : Path :=
  segments.foldl Path.child start

/-- A rendered directive without white space at its ends, unless it is blank. -/
def given? (rendered : Option Text) : Option Text :=
  match rendered with
  | none => none
  | some text => if (Text.trim text).isEmpty then none else some (Text.trim text)

/-- The directory that a path directive gives. -/
def startDirectory
    (settings : Settings)
    (category : Category)
    (renderedPath : Option Text) :
    Path :=
  match given? renderedPath with
  | some text => below settings.root (segments text)
  | none => settings.fallbackDirectory category

/-- Whether a text starts with a separator. -/
def startsWithSeparator : Text → Bool
  | [] => false
  | character :: _ => isSeparator character

/-- The part of a text after its last separator. -/
def lastPiece (text : Text) : Text :=
  ((Text.pieces isSeparator text).getLast?).getD []

/-- The segments before the last separator of a text. -/
def leadingSegments (text : Text) : List Text :=
  (Text.pieces isSeparator text).dropLast.filter isTelling

/-- Whether a file name ends in the name of a file. -/
def endsInName (fileName : Text) : Bool :=
  isTelling (lastPiece fileName) && lastPiece fileName != ['.', '.']

/-- The location in a directory that a file name directive gives. -/
def withinDirectory
    (naming : NamingConvention)
    (extension template entity : Text)
    (directory : Path)
    (renderedFileName : Option Text) :
    Location :=
  match given? renderedFileName with
  | some text =>
    if startsWithSeparator text then
      ⟨below directory (leadingSegments text), lastPiece text⟩
    else
      ⟨directory, text⟩
  | none =>
    let fallback :=
      naming.fallbackName (Category.ofTemplateName template) entity template extension
    match fallback.subdirectory with
    | some name => ⟨directory.child name, fallback.fileName⟩
    | none => ⟨directory, fallback.fileName⟩

/-- The location of a template's output. -/
def resolve
    (settings : Settings)
    (naming : NamingConvention)
    (extension template entity : Text)
    (renderedPath renderedFileName : Option Text) :
    Except LocationError Location :=
  let directory :=
    startDirectory settings (Category.ofTemplateName template) renderedPath
  let location :=
    withinDirectory naming extension template entity directory renderedFileName
  if endsInName location.fileName then
    .ok location
  else
    .error (.namesNoFile location.fileName)

end Location

end Scaffold
