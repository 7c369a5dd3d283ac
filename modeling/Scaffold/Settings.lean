import Scaffold.ByCategory
import Scaffold.Disk.Write

/-!
# Settings

What a generator is told: where the project, its migration and its templates are, where the output
of each category goes by default, which categories are skipped, what happens to existing files, and
whether templates may mention what their data does not have.
-/

namespace Scaffold

/-- The settings of a generator. -/
structure Settings where
  root : Path
  migration : Path
  templates : Path
  /-- Where the output of a category goes when its template does not say. -/
  directories : ByCategory Path
  skipped : ByCategory Bool
  overwrite : OverwritePolicy
  /-- Whether mentioning unknown data is an error. -/
  strict : Bool
  deriving DecidableEq

namespace Settings

/-- The directories used when nothing else is set. -/
def defaultDirectories : ByCategory Path where
  entity := Path.of "core/entity"
  repository := Path.of "repository"
  usecase := Path.of "usecase"
  handler := Path.of "handler"
  payload := Path.of "payload"

/-- The settings of a project without any options. -/
def of (root migration templates : Path) : Settings where
  root := root
  migration := migration
  templates := templates
  directories := defaultDirectories
  skipped := ByCategory.constant false
  overwrite := .always
  strict := false

/-- Whether the templates of a category are skipped. -/
def isSkipped (settings : Settings) (category : Category) : Bool :=
  (settings.skipped.get? category).getD false

/-- The categories that are skipped, in the fixed order. -/
def skippedCategories (skipped : ByCategory Bool) : List Category :=
  Category.named.filter fun category => (skipped.get? category).getD false

/-- The settings with the templates of a category skipped. -/
def skipping (settings : Settings) (category : Category) : Settings :=
  { settings with skipped := settings.skipped.set category true }

/-- The settings with the default directory of a category replaced. -/
def withDirectory (settings : Settings) (category : Category) (directory : Path) : Settings :=
  { settings with directories := settings.directories.set category directory }

/-- Where the output of a category goes when its template does not say. -/
def fallbackDirectory (settings : Settings) (category : Category) : Path :=
  match settings.directories.get? category with
  | some directory => settings.root.join directory
  | none => settings.root

@[simp]
theorem isSkipped_other
    (settings : Settings) :
    settings.isSkipped .other = false :=
  rfl

@[simp]
theorem fallbackDirectory_other
    (settings : Settings) :
    settings.fallbackDirectory .other = settings.root :=
  rfl

end Settings

end Scaffold
