import Scaffold.Manifest
import Scaffold.Toml.Document

/-!
# Manifests in TOML

A manifest is a document whose entries are sections with known keys only. A section is a table,
whose missing entries take their defaults, or the list of its values in the order of the keys, which
may end early where the following keys have defaults.
-/

namespace Scaffold.Manifest

/-- The values of a section under its keys. -/
structure Section where
  /-- Whether the section is written as a list. -/
  isList : Bool
  values : List (Text × Toml.Value)

/-- A value as a section with these keys. -/
def section? (keys : List Text) : Toml.Value → Option Section
  | .table _ entries =>
    if entries.all fun (key, _) => keys.contains key then some ⟨false, entries⟩ else none
  | .list items | .tables items => some ⟨true, keys.zip items⟩
  | _ => none

/-- A text. -/
def text? : Toml.Value → Option Text
  | .text content => some content
  | _ => none

/-- A path. -/
def path? (value : Toml.Value) : Option Path :=
  (text? value).map Path.mk

/-- A boolean. -/
def boolean? : Toml.Value → Option Bool
  | .boolean value => some value
  | _ => none

/-- The items of a list. -/
def list? : Toml.Value → Option (List Toml.Value)
  | .list items | .tables items => some items
  | _ => none

namespace Section

variable {α : Type}

/-- A value that must be given. -/
def required? (given : Section) (key : String) (decode : Toml.Value → Option α) : Option α :=
  (given.values.lookup key.toList).bind decode

/-- A value that is `fallback` when it is not given. -/
def withDefault?
    (given : Section)
    (key : String)
    (fallback : α)
    (decode : Toml.Value → Option α) :
    Option α :=
  match given.values.lookup key.toList with
  | some value => decode value
  | none => some fallback

/-- A value that a table may leave out and a list may not. -/
def optional?
    (given : Section)
    (key : String)
    (decode : Toml.Value → Option α) :
    Option (Option α) :=
  match given.values.lookup key.toList with
  | some value => (decode value).map some
  | none => if given.isList then none else some none

end Section

/-- The keys of the sections that have one entry per category. -/
def categoryKeys : List Text :=
  Category.named.map Category.label

/-- The output directories of a manifest. -/
def directories? (value : Toml.Value) : Option (ByCategory (Option Path)) := do
  let given ← section? categoryKeys value
  let entity ← given.optional? "entity" path?
  let repository ← given.optional? "repository" path?
  let usecase ← given.optional? "usecase" path?
  let handler ← given.optional? "handler" path?
  let payload ← given.optional? "payload" path?
  some ⟨entity, repository, usecase, handler, payload⟩

/-- The skip flags of a manifest. -/
def skipped? (value : Toml.Value) : Option (ByCategory Bool) := do
  let given ← section? categoryKeys value
  let entity ← given.withDefault? "entity" false boolean?
  let repository ← given.withDefault? "repository" false boolean?
  let usecase ← given.withDefault? "usecase" false boolean?
  let handler ← given.withDefault? "handler" false boolean?
  let payload ← given.withDefault? "payload" false boolean?
  some ⟨entity, repository, usecase, handler, payload⟩

/-- Where the parts of a project are: its root, its migration and its templates. -/
def places? (value : Toml.Value) : Option (Path × Path × Path) := do
  let given ← section? ["root".toList, "migration".toList, "templates".toList] value
  let root ← given.withDefault? "root" (Path.of ".") path?
  let migration ← given.required? "migration" path?
  let templates ← given.required? "templates" path?
  some (root, migration, templates)

/-- Whether files are overwritten and whether rendering is strict. -/
def generation? (value : Toml.Value) : Option (Bool × Bool) := do
  let given ← section? ["overwrite".toList, "strict".toList] value
  let overwrites ← given.withDefault? "overwrite" true boolean?
  let strict ← given.withDefault? "strict" false boolean?
  some (overwrites, strict)

/-- A listed table. -/
def listedTable? (value : Toml.Value) : Option ListedTable := do
  let given ← section? ["name".toList, "entity".toList] value
  let name ← given.required? "name" text?
  let entity ← given.optional? "entity" text?
  some ⟨name, entity⟩

/-- The keys of a manifest. -/
def keys : List Text :=
  ["project".toList, "output".toList, "skip".toList, "generate".toList, "tables".toList]

/-- The manifest with these entries. -/
def ofEntries? (entries : Toml.Entries) : Option Manifest := do
  let given ← section? keys (.table .headed entries)
  let (root, migration, templates) ← given.required? "project" places?
  let directories ← given.withDefault? "output" (ByCategory.constant none) directories?
  let skipped ← given.withDefault? "skip" (ByCategory.constant false) skipped?
  let (overwrites, strict) ← given.withDefault? "generate" (true, false) generation?
  let tables ← given.withDefault? "tables" [] fun value =>
    (list? value).bind fun items => items.mapM listedTable?
  some ⟨root, migration, templates, directories, skipped, overwrites, strict, tables⟩

/-- The manifest that a text writes. -/
def ofText? (text : Text) : Option Manifest :=
  (Toml.ofText? text).bind ofEntries?

end Scaffold.Manifest
