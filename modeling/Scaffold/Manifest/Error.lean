import Scaffold.Diagnostic
import Scaffold.Path

/-!
# Errors of manifests

Why a manifest is refused, and how each cause is told. Where the text of the manifest shows what is
wrong, labels point at it by byte offsets.
-/

namespace Scaffold

/-- A range of bytes in a text. -/
structure Span where
  offset : Nat
  length : Nat
  deriving DecidableEq

/-- A range of bytes and what is said about it. -/
structure Label where
  span : Span
  text : Text
  deriving DecidableEq

/-- Why a manifest is refused. -/
inductive ManifestFault where
  /-- It cannot be read as text. -/
  | unreadable (path : Path)
  /-- It is not well-formed, or does not have the entries of a manifest. -/
  | malformed
  /-- A path of the project is empty. -/
  | emptyPath (key : Text) (span : Option Span)
  /-- The name of a table is blank. -/
  | blankName (span : Option Span)
  /-- The name of an entity is no identifier. -/
  | invalidEntity (entity table : Text) (span : Option Span)
  /-- A table is listed twice, at these places. -/
  | duplicate (table : Text) (first second : Span)
  /-- A table is listed twice, but its places are not found. -/
  | unlocatedDuplicate (table : Text)
  deriving DecidableEq

/-- Why the manifest of this name is refused. -/
structure ManifestError where
  fileName : Text
  fault : ManifestFault
  deriving DecidableEq

namespace ManifestFault

open Diagnostic (quoted)

/-- The message of a fault. -/
def message : ManifestFault → Text
  | unreadable path => "failed to read ".toList ++ quoted path.text
  | malformed => "failed to parse crudgen.toml".toList
  | emptyPath key _ => "project.".toList ++ key ++ " must not be empty".toList
  | blankName _ => "table name must not be empty".toList
  | invalidEntity entity table _ =>
    "invalid entity name ".toList ++ quoted entity ++ " for table ".toList ++ quoted table
  | duplicate table _ _ | unlocatedDuplicate table =>
    "table ".toList ++ quoted table ++ " is listed more than once".toList

/-- The code of a fault. -/
def code : ManifestFault → Text
  | unreadable _ => "crudgen::manifest::io".toList
  | malformed => "crudgen::manifest::parse".toList
  | emptyPath .. | blankName _ | unlocatedDuplicate _ =>
    "crudgen::manifest::validation".toList
  | invalidEntity .. => "crudgen::manifest::invalid_entity".toList
  | duplicate .. => "crudgen::manifest::duplicate_table".toList

/-- What the user can do about a fault. -/
def help : ManifestFault → Option Text
  | unreadable _ =>
    some "create a crudgen.toml or pass --migration-file and --templates".toList
  | invalidEntity .. =>
    some
      ("use only letters, numbers, and underscores, " ++
        "starting with a letter or underscore").toList
  | duplicate table _ _ =>
    some ("remove one of the [[tables]] entries for ".toList ++ quoted table)
  | _ => none

/-- How a fault is told. -/
def diagnostic (fault : ManifestFault) : Diagnostic :=
  ⟨fault.message, some fault.code, fault.help⟩

/-- A label at a span, if there is one. -/
def labelAt (span : Option Span) (text : Text) : List Label :=
  match span with
  | some span => [⟨span, text⟩]
  | none => []

/-- The labels that point at a fault. -/
def labels : ManifestFault → List Label
  | unreadable _ | malformed | unlocatedDuplicate _ => []
  | emptyPath key span => labelAt span (emptyPath key span).message
  | blankName span => labelAt span (blankName span).message
  | invalidEntity _ _ span => labelAt span "invalid identifier".toList
  | duplicate _ first second =>
    [⟨first, "first listed here".toList⟩, ⟨second, "listed again here".toList⟩]

end ManifestFault

end Scaffold
