import Scaffold.Command
import Scaffold.Command.Error
import Scaffold.Manifest.Opening

/-!
# Projects of commands

The settings and the targets that a command works with. Options come before the manifest, and the
manifest before defaults. Without a manifest the options have to say where the templates are, and
where the migration is if the command needs it.
-/

namespace Scaffold

/-- What a command works with. -/
structure Project where
  settings : Settings
  /-- The targets of the tables that the manifest lists. -/
  targets : List Target
  /-- The path of the manifest, if there is one. -/
  manifest : Option Path
  deriving DecidableEq

namespace ProjectOptions

/-- The path of the manifest to read: the given one, or the usual one if it is there. -/
def manifestPath? (options : ProjectOptions) (disk : Disk) : Option Path :=
  match options.config with
  | some path => some path
  | none => if disk.pathExists ⟨Manifest.fileName⟩ then some ⟨Manifest.fileName⟩ else none

/-- The settings with the places that options give. -/
def overriding (options : ProjectOptions) (settings : Settings) : Settings :=
  { settings with
    root := options.target.getD settings.root
    migration := options.migration.getD settings.migration
    templates := options.templates.getD settings.templates }

/-- The project that options alone give. -/
def withoutManifest (options : ProjectOptions) (needsMigration : Bool) :
    Except CommandError Project :=
  match options.templates with
  | none => .error .templatesUnknown
  | some templates =>
    if options.migration.isNone && needsMigration then
      .error .migrationUnknown
    else
      .ok
        { settings :=
            Settings.of (options.target.getD (Path.of ".")) (options.migration.getD Path.empty)
              templates
          targets := []
          manifest := none }

/-- The project that options and the manifest give. -/
def load (options : ProjectOptions) (disk : Disk) (needsMigration : Bool) :
    Except CommandError Project :=
  match options.manifestPath? disk with
  | none => options.withoutManifest needsMigration
  | some path =>
    match Manifest.openAt disk path with
    | .error error => .error (.manifest error)
    | .ok opened =>
      .ok
        { settings := options.overriding opened.manifest.settings
          targets := opened.manifest.targets
          manifest := some path }

end ProjectOptions

namespace SelectionOptions

/-- The target of a selected table, whose entity must be an identifier. -/
def targetOf (table : Text) (entity : Option Text) : Except CommandError Target :=
  let entity := entity.getD (Identifier.pascalCase table)
  if Identifier.isIdentifier entity then
    .ok ⟨table, entity⟩
  else
    .error (.invalidEntity entity table)

/-- The targets of tables, whose entities are given in the same order as far as they are given. -/
def targetsOf : (tables entities : List Text) → Except CommandError (List Target)
  | [], _ => .ok []
  | table :: tables, entities => do
    let target ← targetOf table entities.head?
    let targets ← targetsOf tables entities.tail
    .ok (target :: targets)

/-- The selected targets, or the default ones if no table is selected. -/
def targets (options : SelectionOptions) (defaults : List Target) :
    Except CommandError (List Target) :=
  if options.tables.isEmpty then
    if options.entities.isEmpty then .ok defaults else .error .entityWithoutTable
  else if options.entities.length > options.tables.length then
    .error (.tooManyEntities options.entities.length options.tables.length)
  else
    targetsOf options.tables options.entities

end SelectionOptions

namespace GenerateOptions

/-- The settings with everything that the options of a generation add. -/
def overriding (options : GenerateOptions) (settings : Settings) : Settings :=
  { settings with
    directories :=
      ByCategory.zipWith (fun given fallback => given.getD fallback) options.directories
        settings.directories
    skipped :=
      ByCategory.zipWith (fun given fallback => given || fallback) options.skipped settings.skipped
    overwrite := if options.keepsExisting then .ifMissing else settings.overwrite
    strict := options.strict || settings.strict }

end GenerateOptions

end Scaffold
