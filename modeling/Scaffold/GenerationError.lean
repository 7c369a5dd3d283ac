import Scaffold.Location
import Scaffold.Migration
import Scaffold.Stencil.Scope
import Scaffold.Template

/-!
# Errors of generation

Why code cannot be generated, and how each cause is told. A cause names what it is about: the
directory of the templates, the migration, a table, or a template and the file it was to give.
-/

namespace Scaffold

/-- Why code cannot be generated. -/
inductive GenerationError where
  /-- No template directory is set. -/
  | templatesNotSet
  /-- The template directory does not exist. -/
  | templatesMissing (directory : Path)
  /-- Something else stands where the template directory should be. -/
  | templatesNoDirectory (directory : Path)
  /-- The template directory has no entries. -/
  | templatesEmpty (directory : Path)
  /-- No entry of the template directory is a template. -/
  | noTemplates (directory : Path)
  /-- The migration cannot be read as text. -/
  | migrationUnreadable (migration : Path)
  /-- The migration does not define the table. -/
  | tableNotFound (table : Text) (cause : MigrationError)
  /-- A template has no body after its header. -/
  | templateWithoutBody (template : Text)
  /-- The body or a directive of a template is no stencil. -/
  | templateMalformed (template : Text)
  /-- A template cannot be read as text. -/
  | templateUnreadable (template : Text) (path : Path)
  /-- The body of a template cannot be filled with the data of a table. -/
  | bodyFailed (template table : Text) (cause : Stencil.Failure)
  /-- A directive of a template cannot be filled. -/
  | directiveFailed (template : Text) (directive : Directive) (cause : Stencil.Failure)
  /-- The output of a template has no location. -/
  | noLocation (template : Text) (cause : LocationError)
  /-- The output of a template cannot be written. -/
  | writeFailed (template : Text) (path : Path)
  deriving DecidableEq

namespace GenerationError

open Diagnostic (quoted)

/-- What an error is about. -/
inductive Kind where
  | configuration
  | migrationRead
  | schemaParse
  | templateParse
  | pathResolution
  | io
  deriving DecidableEq, Repr

/-- What an error is about. -/
def kind : GenerationError → Kind
  | templatesNotSet | templatesMissing _ | templatesNoDirectory _ | templatesEmpty _
  | noTemplates _ => .configuration
  | migrationUnreadable _ => .migrationRead
  | tableNotFound .. => .schemaParse
  | templateWithoutBody _ | templateMalformed _ | bodyFailed .. => .templateParse
  | directiveFailed .. | noLocation .. => .pathResolution
  | templateUnreadable .. | writeFailed .. => .io

/-- The message of an error. -/
def message : GenerationError → Text
  | templatesNotSet => "template directory is not set".toList
  | templatesMissing directory =>
    "template directory ".toList ++ quoted directory.text ++ " does not exist".toList
  | templatesNoDirectory directory =>
    "template path ".toList ++ quoted directory.text ++ " is not a directory".toList
  | templatesEmpty directory =>
    "template directory ".toList ++ quoted directory.text ++ " is empty".toList
  | noTemplates directory =>
    "no template files (*.tmpl, *.hbs) found in ".toList ++ quoted directory.text
  | migrationUnreadable migration =>
    "failed to read migration file ".toList ++ quoted migration.text
  | tableNotFound table _ =>
    "failed to find table ".toList ++ quoted table ++ " in the migration".toList
  | templateWithoutBody template =>
    "invalid template ".toList ++ quoted template ++
      ": template has no body after its directive header".toList
  | templateMalformed template => "invalid template ".toList ++ quoted template
  | bodyFailed template table _ =>
    "failed to render template ".toList ++ quoted template ++ " for table ".toList ++ quoted table
  | directiveFailed template directive _ =>
    "cannot resolve output location of template ".toList ++ quoted template ++
      ": failed to render ".toList ++ directive.label ++ " directive".toList
  | noLocation template (.namesNoFile fileName) =>
    "cannot resolve output location of template ".toList ++ quoted template ++ ": ".toList ++
      quoted fileName ++ " does not name a file".toList
  | templateUnreadable template path | writeFailed template path =>
    "failed to write ".toList ++ quoted path.text ++ " for template ".toList ++ quoted template

/-- The code of an error. -/
def code : GenerationError → Text
  | bodyFailed .. => "crudgen::template_render".toList
  | error =>
    match error.kind with
    | .configuration => "crudgen::configuration".toList
    | .migrationRead => "crudgen::migration_read".toList
    | .schemaParse => "crudgen::schema_parse".toList
    | .templateParse => "crudgen::template_parse".toList
    | .pathResolution => "crudgen::path_resolution".toList
    | .io => "crudgen::io".toList

/-- What the user can do about an error. -/
def help : GenerationError → Option Text
  | bodyFailed _ table _ =>
    some
      ("run \x60crudgen context --table ".toList ++ table ++
        "\x60 to list the available template fields".toList)
  | error =>
    if error.kind = .configuration then
      some "check the template directory and output settings in crudgen.toml".toList
    else
      none

/-- How an error is told. -/
def diagnostic (error : GenerationError) : Diagnostic :=
  ⟨error.message, some error.code, error.help⟩

/-- The messages of an error and of the error of the migration that caused it. -/
def messages : GenerationError → List Text
  | tableNotFound table cause => [(tableNotFound table cause).message, cause.diagnostic.message]
  | error => [error.message]

end GenerationError

end Scaffold
