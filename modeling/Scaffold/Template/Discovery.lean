import Scaffold.Disk.Walk
import Scaffold.TemplateSet

/-!
# Finding templates

The templates of a project are the regular files of its template directory with one of the
extensions of templates. They are loaded in the order of their names, so that the order in which a
directory lists its entries does not matter, and loading stops at the first that cannot be read.
-/

namespace Scaffold.TemplateSet

/-- The extensions of templates. -/
def extensions : List Text :=
  ["tmpl".toList, "hbs".toList]

/-- Whether a path leads to a template. -/
def isTemplate (disk : Disk) (path : Path) : Bool :=
  disk.isFile path && path.extension?.any extensions.contains

/-- The names of the templates in a directory, in order. -/
def templateNames (disk : Disk) (directory : Path) : List Text :=
  ((disk.namesIn directory).filter fun name => isTemplate disk (directory.child name)).mergeSort
    Text.precedes

/-- The names of the templates of a project, in order. -/
def discoverNames (disk : Disk) (directory : Path) : Except GenerationError (List Text) :=
  if directory.isEmpty then
    .error .templatesNotSet
  else if !disk.pathExists directory then
    .error (.templatesMissing directory)
  else if !disk.isDirectory directory then
    .error (.templatesNoDirectory directory)
  else if (disk.namesIn directory).isEmpty then
    .error (.templatesEmpty directory)
  else if (templateNames disk directory).isEmpty then
    .error (.noTemplates directory)
  else
    .ok (templateNames disk directory)

/-- The paths of the templates of a project, in the order of their names. -/
def discover (disk : Disk) (directory : Path) : Except GenerationError (List Path) := do
  let names ← discoverNames disk directory
  .ok (names.map directory.child)

/-- The set with one more template of a directory. -/
def loadOne
    (disk : Disk)
    (directory : Path)
    (set : TemplateSet)
    (name : Text) :
    Except GenerationError TemplateSet :=
  match disk.read? (directory.child name) with
  | none => .error (.templateUnreadable name (directory.child name))
  | some source => do
    let template ← parse name source
    set.insert template

/-- The set with more templates of a directory, one after the other. -/
def loadAll
    (disk : Disk)
    (directory : Path)
    (set : TemplateSet) :
    List Text → Except GenerationError TemplateSet
  | [] => .ok set
  | name :: names => do
    let set ← loadOne disk directory set name
    loadAll disk directory set names

/-- The set of the templates of a project. -/
def load (disk : Disk) (directory : Path) (strict : Bool) : Except GenerationError TemplateSet := do
  let names ← discoverNames disk directory
  loadAll disk directory (empty strict) names

end Scaffold.TemplateSet
