import Scaffold.Command.Error
import Scaffold.Generator

/-!
# Operations

What commands do with a generator: generate files, preview them, check that everything could be
generated, and describe the templates. Each gives a summary of what it found or did. Only the
generation of files changes the disk.
-/

namespace Scaffold

/-- The files that a table would give. -/
structure TablePreview where
  table : Text
  files : List GeneratedFile
  deriving DecidableEq

/-- What a generation did or would do. -/
inductive GenerateSummary where
  | written (reports : List Report)
  | preview (tables : List TablePreview)
  deriving DecidableEq

/-- What was found out about a table. -/
structure TableSummary where
  target : Target
  columns : Nat
  files : Nat
  deriving DecidableEq

/-- What a template is and where its output goes. -/
structure TemplateSummary where
  template : Template
  fallback : Path
  skipped : Bool
  deriving DecidableEq

namespace Generator

/-- An error of generation, told together with what was being done. -/
def whileDoing {α : Type} (wrap : GenerationError → CommandError) :
    Except GenerationError α → Except CommandError α
  | .ok value => .ok value
  | .error cause => .error (wrap cause)

/-- The files that targets would give. -/
def previewAll (generator : Generator) (disk : Disk) :
    List Target → Except CommandError (List TablePreview)
  | [] => .ok []
  | target :: targets => do
    let files ← whileDoing (.renderingTable target.table) (generator.preview disk target)
    let previews ← generator.previewAll disk targets
    .ok (⟨target.table, files⟩ :: previews)

/-- The disk after a generation, and what it did. A dry run leaves the disk as it is. -/
def runGenerate (generator : Generator) (disk : Disk) (targets : List Target) (dryRun : Bool) :
    Disk × Except CommandError GenerateSummary :=
  if dryRun then
    (disk, (generator.previewAll disk targets).map .preview)
  else
    let (disk, result) := generator.generateAll disk targets
    (disk, whileDoing .generating (result.map .written))

/-- What is found out about targets whose files can all be rendered. -/
def runCheck (generator : Generator) (disk : Disk) :
    List Target → Except CommandError (List TableSummary)
  | [] => .ok []
  | target :: targets => do
    let table ← whileDoing (.checkingTable target.table) (generator.loadTable disk target.table)
    let files ← whileDoing (.renderingTable target.table) (generator.preview disk target)
    let summaries ← generator.runCheck disk targets
    .ok (⟨target, table.columns.length, files.length⟩ :: summaries)

end Generator

/-- What the templates of a set are, and where their output goes by default. -/
def TemplateSet.summaries (set : TemplateSet) (settings : Settings) : List TemplateSummary :=
  set.templates.map fun template =>
    { template := template
      fallback := settings.fallbackDirectory template.category
      skipped := settings.isSkipped template.category }

end Scaffold
