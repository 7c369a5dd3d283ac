import Scaffold.Disk.Walk

/-!
# Writing files

A file is written where its path leads, after the directories on the way to it were made. A failure
leaves the directories that were made before it. An overwrite policy says what happens to a file
that stands where another is to be written: under the one that keeps existing files, nothing is
written where something exists.
-/

namespace Scaffold

/-- What happens to an existing file. -/
inductive OverwritePolicy where
  /-- It is replaced. -/
  | always
  /-- It is kept. -/
  | ifMissing
  deriving DecidableEq, Repr

namespace Disk

/-- What became of a file. -/
inductive WriteResult where
  | written
  | kept
  | failed
  deriving DecidableEq, Repr

/-- The disk with the directories that segments name, and whether all of them are there. -/
def makeWay (disk : Disk) : Place → List Text → Disk × Bool
  | place, [] => (disk, disk.isDirectoryAt place)
  | place, segment :: segments =>
    if !disk.isDirectoryAt place then
      (disk, false)
    else if segment.isEmpty || segment = ['.'] then
      makeWay disk place segments
    else if segment = ['.', '.'] then
      makeWay disk (above place) segments
    else if !nameFits segment then
      (disk, false)
    else
      match disk.at? (place ++ [segment]) with
      | some _ => makeWay disk (place ++ [segment]) segments
      | none => makeWay (disk.put (place ++ [segment]) .directory) (place ++ [segment]) segments

/-- The disk with the directories that a path names, and whether all of them are there. The empty
path names none. -/
def makeDirectories (disk : Disk) (path : Path) : Disk × Bool :=
  if path.isEmpty then
    (disk, true)
  else if pathFits path then
    makeWay disk (startOf disk path) (segmentsOf path)
  else
    (disk, false)

/-- Whether a path ends in the name of a file. -/
def endsInName (path : Path) : Bool :=
  match (segmentsOf path).getLast? with
  | some segment => !segment.isEmpty && segment != ['.'] && segment != ['.', '.']
  | none => false

/-- The disk with a content in the file that a path leads to, if its directory is there. -/
def store? (disk : Disk) (path : Path) (content : Content) : Option Disk :=
  match place? disk path with
  | some place =>
    if endsInName path && !disk.isDirectoryAt place then
      some (disk.put place (.file content))
    else
      none
  | none => none

/-- The disk with the directory above a path. -/
def withParent (disk : Disk) (path : Path) : Disk × Bool :=
  match path.parent? with
  | some parent => makeDirectories disk parent
  | none => (disk, true)

/-- Writes a text where a path leads, whatever is there. -/
def overwrite (disk : Disk) (path : Path) (text : Text) : Disk × WriteResult :=
  match withParent disk path with
  | (disk, true) =>
    match store? disk path (.text text) with
    | some disk => (disk, .written)
    | none => (disk, .failed)
  | (disk, false) => (disk, .failed)

/-- Writes a text where a path leads, as a policy says. -/
def write
    (disk : Disk)
    (policy : OverwritePolicy)
    (path : Path)
    (text : Text) :
    Disk × WriteResult :=
  match policy with
  | .always => overwrite disk path text
  | .ifMissing =>
    if pathExists disk path then (disk, .kept) else overwrite disk path text

end Disk

end Scaffold
