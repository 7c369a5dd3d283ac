import Scaffold.Disk.Walk
import Scaffold.Manifest.Validation

/-!
# Opening manifests

A manifest is read from the disk and validated. Opening it also makes its paths relative to the
directory that it stands in.
-/

namespace Scaffold.Manifest

/-- The manifest at a path, with its paths as they are written. -/
def read (disk : Disk) (path : Path) : Except ManifestError Manifest :=
  match disk.read? path with
  | none => .error ⟨path.text, .unreadable path⟩
  | some source => parse path.text source

/-- A manifest with its path and its text. -/
structure Opened where
  path : Path
  source : Text
  manifest : Manifest

/-- The manifest at a path, with its paths relative to where it stands. -/
def openAt (disk : Disk) (path : Path) : Except ManifestError Opened :=
  match disk.read? path with
  | none => .error ⟨path.text, .unreadable path⟩
  | some source =>
    match parse path.text source with
    | .error error => .error error
    | .ok manifest => .ok ⟨path, source, manifest.resolvedAgainst (directoryOf path)⟩

end Scaffold.Manifest
