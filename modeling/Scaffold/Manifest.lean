import Scaffold.Settings
import Scaffold.Table

/-!
# Manifests

The manifest of a project says where its parts are, where output goes and what is skipped, how
templates are rendered and files are written, and which tables are generated by default. Paths of a
manifest are meant relative to its own directory.
-/

namespace Scaffold

/-- A table that a manifest lists. -/
structure ListedTable where
  name : Text
  entity : Option Text
  deriving DecidableEq

/-- What a manifest says. -/
structure Manifest where
  root : Path
  migration : Path
  templates : Path
  directories : ByCategory (Option Path)
  skipped : ByCategory Bool
  overwrites : Bool
  strict : Bool
  tables : List ListedTable
  deriving DecidableEq

/-- The entity of a listed table, which is its name in Pascal case when it is not given. -/
def ListedTable.entityName (table : ListedTable) : Text :=
  table.entity.getD (Identifier.pascalCase table.name)

/-- The target of a listed table. -/
def ListedTable.target (table : ListedTable) : Target :=
  ⟨table.name, table.entityName⟩

namespace Manifest

/-- The name of the manifest of a project. -/
def fileName : Text :=
  "crudgen.toml".toList

/-- The manifest with its paths below a directory, except for absolute ones. -/
def resolvedAgainst (manifest : Manifest) (directory : Path) : Manifest :=
  { manifest with
    root := directory.join manifest.root
    migration := directory.join manifest.migration
    templates := directory.join manifest.templates }

/-- The directory that the paths of a manifest at `path` are relative to. -/
def directoryOf (path : Path) : Path :=
  match path.parent? with
  | some parent => if parent.isEmpty then Path.of "." else parent
  | none => Path.of "."

/-- The targets of the listed tables. -/
def targets (manifest : Manifest) : List Target :=
  manifest.tables.map ListedTable.target

/-- The settings that a manifest gives. -/
def settings (manifest : Manifest) : Settings where
  root := manifest.root
  migration := manifest.migration
  templates := manifest.templates
  directories :=
    ByCategory.zipWith (fun given fallback => given.getD fallback) manifest.directories
      Settings.defaultDirectories
  skipped := manifest.skipped
  overwrite := if manifest.overwrites then .always else .ifMissing
  strict := manifest.strict

end Manifest

end Scaffold
