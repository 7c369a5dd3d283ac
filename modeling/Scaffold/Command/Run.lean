import Scaffold.Command.Display
import Scaffold.Command.Project
import Scaffold.Data.Json

/-!
# Running commands

A command reads its project, does its work with a generator and prints what came of it. Everything
that can be refused is looked at before the first file is written: the manifest, the selected
tables, and the templates.
-/

namespace Scaffold

namespace Command

/-- The generator of settings, as commands load it. -/
def generatorOf (disk : Disk) (settings : Settings) : Except CommandError Generator :=
  Generator.whileDoing .loadingTemplates (Generator.load disk settings)

/-- The generator and the targets of a generation. -/
def preparedGeneration (disk : Disk) (options : GenerateOptions) :
    Except CommandError (Generator × List Target) := do
  let project ← options.project.load disk true
  let targets ← options.selection.targets project.targets
  if targets.isEmpty then
    .error .noTargets
  else
    let generator ← generatorOf disk (options.overriding project.settings)
    .ok (generator, targets)

/-- Generates files. -/
def runGenerate (disk : Disk) (options : GenerateOptions) : Disk × Except CommandError Printed :=
  match preparedGeneration disk options with
  | .error error => (disk, .error error)
  | .ok (generator, targets) =>
    let (disk, result) := generator.runGenerate disk targets options.dryRun
    (disk, result.map (Display.generation generator.settings.root))

/-- Describes the templates. -/
def runTemplates (disk : Disk) (options : ProjectOptions) : Except CommandError Printed := do
  let project ← options.load disk false
  let settings := project.settings
  let set ←
    Generator.whileDoing .loadingTemplates
      (TemplateSet.load disk settings.templates settings.strict)
  .ok (Display.templates settings.templates (set.summaries settings))

/-- Shows the data of a table. -/
def runContext (disk : Disk) (options : ProjectOptions) (table : Text) (entity : Option Text) :
    Except CommandError Printed := do
  let project ← options.load disk true
  let entity := entity.getD (Identifier.pascalCase table)
  let generator ← generatorOf disk project.settings
  let data ← Generator.whileDoing (.showingTable table) (generator.data disk ⟨table, entity⟩)
  .ok (Display.printed [data.toData.toJson])

/-- Checks that everything could be generated. -/
def runCheck (disk : Disk) (options : ProjectOptions) (selection : SelectionOptions) :
    Except CommandError Printed := do
  let project ← options.load disk true
  let targets ← selection.targets project.targets
  let generator ← generatorOf disk project.settings
  let tables ← generator.runCheck disk targets
  .ok (Display.check project.manifest generator.templates.templates.length tables)

/-- The disk after a command, and what it prints. Scripts that complete commands in a shell belong
to the shells, so nothing is printed for them. -/
def run (disk : Disk) : Command → Disk × Except CommandError Printed
  | .generate options => runGenerate disk options
  | .templates options => (disk, runTemplates disk options)
  | .context options table entity => (disk, runContext disk options table entity)
  | .check options selection => (disk, runCheck disk options selection)
  | .completions _ => (disk, .ok ⟨[], []⟩)

end Command

end Scaffold
