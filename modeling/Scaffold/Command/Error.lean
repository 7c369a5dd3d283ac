import Scaffold.GenerationError
import Scaffold.Manifest.Error

/-!
# Errors of commands

Why a command fails. A failure of generation is told together with what was being done, from the
outside in.
-/

namespace Scaffold

/-- Why a command fails. -/
inductive CommandError where
  /-- The manifest is refused. -/
  | manifest (error : ManifestError)
  /-- There is no manifest and no option says where the templates are. -/
  | templatesUnknown
  /-- There is no manifest and no option says where the migration is. -/
  | migrationUnknown
  /-- Entities are given, but no tables. -/
  | entityWithoutTable
  /-- More entities than tables are given. -/
  | tooManyEntities (entities tables : Nat)
  /-- An entity of a selected table is no identifier. -/
  | invalidEntity (entity table : Text)
  /-- There is nothing to generate. -/
  | noTargets
  /-- The templates cannot be loaded. -/
  | loadingTemplates (cause : GenerationError)
  /-- Files cannot be generated. -/
  | generating (cause : GenerationError)
  /-- A table to check cannot be read. -/
  | checkingTable (table : Text) (cause : GenerationError)
  /-- The files of a table cannot be rendered. -/
  | renderingTable (table : Text) (cause : GenerationError)
  /-- The data of a table cannot be shown. -/
  | showingTable (table : Text) (cause : GenerationError)
  deriving DecidableEq

namespace CommandError

open Diagnostic (quoted)

/-- The messages of an error, from the outermost to the innermost. -/
def messages : CommandError → List Text
  | manifest error => [error.fault.message]
  | templatesUnknown => ["no crudgen.toml found; pass --templates or --config".toList]
  | migrationUnknown => ["no crudgen.toml found; pass --migration-file or --config".toList]
  | entityWithoutTable => ["--entity requires a matching --table".toList]
  | tooManyEntities entities tables =>
    [Number.digitsOf entities ++ " entity names given for ".toList ++ Number.digitsOf tables ++
      " tables".toList]
  | invalidEntity entity table =>
    [quoted entity ++ " is not a valid entity name for table ".toList ++ quoted table]
  | noTargets =>
    ["no tables to generate; pass --table or add [[tables]] to crudgen.toml".toList]
  | loadingTemplates cause => "Failed to load templates".toList :: cause.messages
  | generating cause => "Failed to generate code".toList :: cause.messages
  | checkingTable table cause => ("Invalid table ".toList ++ quoted table) :: cause.messages
  | renderingTable table cause =>
    ("Failed to render table ".toList ++ quoted table) :: cause.messages
  | showingTable table cause =>
    ("Failed to build context for table ".toList ++ quoted table) :: cause.messages

end CommandError

end Scaffold
