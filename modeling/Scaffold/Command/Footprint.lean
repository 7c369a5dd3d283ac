import Scaffold.Command.Run

/-!
# Footprints

The paths whose places a command looks at, as far as a disk tells them. The manifest says where the
migration and the templates are, and these say where files would be written, so that each of the
three is only known once the one before it is on the disk. What else is on the disk makes no
difference to the command.
-/

namespace Scaffold

/-- The paths of the files that the templates give for a target, as far as they can be rendered. -/
def Generator.outputPaths (generator : Generator) (disk : Disk) (target : Target) : List Path :=
  match generator.data disk target with
  | .error _ => []
  | .ok data =>
    generator.templates.templates.filterMap fun template =>
      match generator.render data template with
      | .ok file => some file.path
      | .error _ => none

namespace Command

/-- The project that a command works on, and whether it reads the migration. -/
def project? : Command → Option (ProjectOptions × Bool)
  | .generate options => some (options.project, true)
  | .templates project => some (project, false)
  | .context project _ _ => some (project, true)
  | .check project _ => some (project, true)
  | .completions _ => none

/-- The paths that a command may write. -/
def outputPaths (disk : Disk) : Command → List Path
  | .generate options =>
    match preparedGeneration disk options with
    | .ok (generator, targets) => targets.flatMap (generator.outputPaths disk)
    | .error _ => []
  | _ => []

/-- The paths that a command looks at. -/
def footprint (disk : Disk) (command : Command) : List Path :=
  match command.project? with
  | none => []
  | some (options, needsMigration) =>
    let manifest := options.config.getD ⟨Manifest.fileName⟩
    match options.load disk needsMigration with
    | .error _ => [manifest]
    | .ok project =>
      [manifest, project.settings.migration, project.settings.templates] ++
        command.outputPaths disk

/-- How often a footprint can grow when what it names is put on the disk: with the manifest, with
the migration and the templates, and with the files to write. -/
def footprintRounds : Nat :=
  3

end Command

/-- The places that segments pass when every directory on their way is there. -/
def Disk.passedBy : Place → List Text → List Place
  | _, [] => []
  | place, segment :: segments =>
    let next :=
      if segment.isEmpty || segment = ['.'] then place
      else if segment = ['.', '.'] then above place
      else place ++ [segment]
    next :: passedBy next segments

/-- The places that a path passes when every directory on its way is there. -/
def Disk.placesOf (disk : Disk) (path : Path) : List Place :=
  if pathFits path then passedBy (startOf disk path) (segmentsOf path) else []

end Scaffold
