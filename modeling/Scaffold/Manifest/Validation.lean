import Scaffold.Manifest.Decode
import Scaffold.Manifest.Error
import Scaffold.Text.Blank

/-!
# Validation of manifests

A manifest is valid when its migration and its templates are given by paths that are not empty, no
table has a blank name or the name of an earlier one, and every entity that is given is an
identifier. The first violation is reported, in the order of the project and then of the tables, and
labels show where the text of the manifest has it.
-/

namespace Scaffold.Manifest

/-- The span of a key at its first assignment, with a space before the equals sign if it is ever
written so. -/
def keySpan? (source key : Text) : Option Span :=
  let offset? :=
    match Text.occurrences (key ++ " =".toList) source with
    | offset :: _ => some offset
    | [] => (Text.occurrences (key ++ "=".toList) source).head?
  offset?.map fun offset => ⟨offset, Text.byteLength key⟩

/-- An assignment of a value in quotes. -/
def assignment (key value : Text) (quote : Char) : Text :=
  key ++ " = ".toList ++ quote :: value ++ [quote]

/-- The spans of a value where it is assigned to a key in quotes of one kind. -/
def quotedSpans (source key value : Text) (quote : Char) : List Span :=
  (Text.occurrences (assignment key value quote) source).map fun offset =>
    ⟨offset + Text.byteLength key + 4, Text.byteLength value⟩

/-- The spans of a value where it is assigned to a key, from left to right. -/
def valueSpans (source key value : Text) : List Span :=
  (quotedSpans source key value '"' ++ quotedSpans source key value '\'').mergeSort
    fun left right => left.offset ≤ right.offset

/-- The first span of a value where it is assigned to a key. -/
def valueSpan? (source key value : Text) : Option Span :=
  (valueSpans source key value).head?

/-- The fault of a table that is listed twice. -/
def duplicateFault (source table : Text) : ManifestFault :=
  match valueSpans source "name".toList table with
  | first :: second :: _ => .duplicate table first second
  | _ => .unlocatedDuplicate table

/-- Whether an optional entity name is an identifier. -/
def entityFault? (source : Text) (table : ListedTable) : Option ManifestFault :=
  match table.entity with
  | none => none
  | some entity =>
    if Identifier.isIdentifier entity then
      none
    else
      some (.invalidEntity entity table.name (valueSpan? source "entity".toList entity))

/-- The first fault of a table after tables of these names. -/
def tableFault? (source : Text) (seen : List Text) (table : ListedTable) : Option ManifestFault :=
  if (Text.trim table.name).isEmpty then
    some (.blankName (valueSpan? source "name".toList table.name))
  else if seen.contains table.name then
    some (duplicateFault source table.name)
  else
    entityFault? source table

/-- The first fault of tables after tables of these names. -/
def tablesFault? (source : Text) : (seen : List Text) → List ListedTable → Option ManifestFault
  | _, [] => none
  | seen, table :: tables =>
    match tableFault? source seen table with
    | some fault => some fault
    | none => tablesFault? source (seen ++ [table.name]) tables

/-- The fault of a path that must not be empty. -/
def pathFault? (source key : Text) (path : Path) : Option ManifestFault :=
  if path.isEmpty then some (.emptyPath key (keySpan? source key)) else none

/-- The first fault of a manifest that was read from `source`. -/
def fault? (source : Text) (manifest : Manifest) : Option ManifestFault :=
  match pathFault? source "migration".toList manifest.migration with
  | some fault => some fault
  | none =>
    match pathFault? source "templates".toList manifest.templates with
    | some fault => some fault
    | none => tablesFault? source [] manifest.tables

/-- Accepts a manifest that has no fault. -/
def validate (fileName source : Text) (manifest : Manifest) : Except ManifestError Unit :=
  match fault? source manifest with
  | some fault => .error ⟨fileName, fault⟩
  | none => .ok ()

/-- The valid manifest that a text writes. -/
def parse (fileName source : Text) : Except ManifestError Manifest :=
  match ofText? source with
  | none => .error ⟨fileName, .malformed⟩
  | some manifest =>
    match validate fileName source manifest with
    | .error error => .error error
    | .ok () => .ok manifest

end Scaffold.Manifest
