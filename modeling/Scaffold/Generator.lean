import Scaffold.Disk.Write
import Scaffold.Generation.Report
import Scaffold.Template.Discovery

/-!
# Generators

A generator renders the templates of a set for the tables of a migration. The migration is read anew
for every target. `preview` renders everything and writes nothing; `generate` writes each file as
soon as it is rendered, so that a failure leaves the files before it in place; and `generateAll`
takes one target after the other and stops at the first that fails.
-/

namespace Scaffold

/-- A project's settings and templates, and the language that code is generated in. -/
structure Generator where
  settings : Settings
  templates : TemplateSet
  naming : NamingConvention
  language : TargetLanguage

namespace Generator

/-- The generator of settings and templates for Go. -/
def of (settings : Settings) (templates : TemplateSet) : Generator where
  settings := settings
  templates := templates
  naming := .go
  language := .go

/-- The generator of settings whose templates are loaded from the disk. -/
def load (disk : Disk) (settings : Settings) : Except GenerationError Generator := do
  let templates ← TemplateSet.load disk settings.templates settings.strict
  .ok (of settings templates)

/-- The table of a migration text. -/
def tableOf (migration table : Text) : Except GenerationError Table :=
  match Migration.tablesOf migration [table] with
  | .error cause => .error (.tableNotFound table cause)
  | .ok tables =>
    match tables.find? (·.name == table) with
    | some found => .ok found
    | none => .error (.tableNotFound table (.tablesNotFound [table]))

/-- The table of this name in the migration. -/
def loadTable (generator : Generator) (disk : Disk) (table : Text) : Except GenerationError Table :=
  match disk.read? generator.settings.migration with
  | none => .error (.migrationUnreadable generator.settings.migration)
  | some migration => tableOf migration table

/-- The data that templates are filled with for a target. -/
def data (generator : Generator) (disk : Disk) (target : Target) :
    Except GenerationError TableData := do
  let table ← generator.loadTable disk target.table
  .ok (TableData.of table target.entity generator.naming generator.language)

/-- Where the output of a template goes. -/
def locate
    (generator : Generator)
    (template entity : Text)
    (renderedPath renderedFileName : Option Text) :
    Except GenerationError Location :=
  match
    Location.resolve generator.settings generator.naming generator.language.fileExtension template
      entity renderedPath renderedFileName
  with
  | .ok location => .ok location
  | .error cause => .error (.noLocation template cause)

/-- A template rendered with data. -/
def render (generator : Generator) (data : TableData) (template : Template) :
    Except GenerationError GeneratedFile := do
  let content ← generator.templates.renderBody template data
  let path ← generator.templates.renderDirective template .path data
  let fileName ← generator.templates.renderDirective template .fileName data
  let location ← generator.locate template.name data.entityName path fileName
  .ok ⟨template.name, template.category, location.path, content⟩

/-- Whether a template is skipped. -/
def skips (generator : Generator) (template : Template) : Bool :=
  generator.settings.isSkipped template.category

/-- The templates that are not skipped, rendered with data. -/
def renderAll (generator : Generator) (data : TableData) :
    List Template → Except GenerationError (List GeneratedFile)
  | [] => .ok []
  | template :: templates =>
    if generator.skips template then
      generator.renderAll data templates
    else do
      let file ← generator.render data template
      let files ← generator.renderAll data templates
      .ok (file :: files)

/-- The files that a target would give. -/
def preview (generator : Generator) (disk : Disk) (target : Target) :
    Except GenerationError (List GeneratedFile) := do
  let data ← generator.data disk target
  generator.renderAll data generator.templates.templates

/-- The disk after a rendered file was written, and what became of the file. -/
def store (generator : Generator) (disk : Disk) (file : GeneratedFile) :
    Disk × Except GenerationError Outcome :=
  match disk.write generator.settings.overwrite file.path file.content with
  | (disk, .written) => (disk, .ok (.written file.path))
  | (disk, .kept) => (disk, .ok (.kept file.path))
  | (disk, .failed) => (disk, .error (.writeFailed file.template file.path))

/-- The disk after a template was rendered and written, and what became of the template. -/
def produce (generator : Generator) (data : TableData) (disk : Disk) (template : Template) :
    Disk × Except GenerationError Outcome :=
  if generator.skips template then
    (disk, .ok .skipped)
  else
    match generator.render data template with
    | .ok file => generator.store disk file
    | .error error => (disk, .error error)

/-- The disk after templates were rendered and written one after the other, and what became of
them. -/
def produceAll (generator : Generator) (data : TableData) :
    Disk → List Template → Disk × Except GenerationError (List TemplateOutcome)
  | disk, [] => (disk, .ok [])
  | disk, template :: templates =>
    match generator.produce data disk template with
    | (disk, .error error) => (disk, .error error)
    | (disk, .ok outcome) =>
      match generator.produceAll data disk templates with
      | (disk, .error error) => (disk, .error error)
      | (disk, .ok outcomes) =>
        (disk, .ok (⟨template.name, template.category, outcome⟩ :: outcomes))

/-- The disk after the files of a target were written, and the report. -/
def generate (generator : Generator) (disk : Disk) (target : Target) :
    Disk × Except GenerationError Report :=
  match generator.data disk target with
  | .error error => (disk, .error error)
  | .ok data =>
    match generator.produceAll data disk generator.templates.templates with
    | (disk, .error error) => (disk, .error error)
    | (disk, .ok outcomes) => (disk, .ok ⟨target, outcomes⟩)

/-- The disk after the files of all targets were written, and the reports. -/
def generateAll (generator : Generator) :
    Disk → List Target → Disk × Except GenerationError (List Report)
  | disk, [] => (disk, .ok [])
  | disk, target :: targets =>
    match generator.generate disk target with
    | (disk, .error error) => (disk, .error error)
    | (disk, .ok report) =>
      match generator.generateAll disk targets with
      | (disk, .error error) => (disk, .error error)
      | (disk, .ok reports) => (disk, .ok (report :: reports))

end Generator

end Scaffold
