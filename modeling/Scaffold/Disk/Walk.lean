import Scaffold.Disk

/-!
# Walking a disk

Where a path leads. Every segment is looked up in a directory that exists; only the last one may
name nothing. Names and paths have a greatest length in bytes and hold no null character.
-/

namespace Scaffold.Disk

/-- The greatest length of a name in bytes. -/
def longestName : Nat :=
  255

/-- The length in bytes that a path must stay below. -/
def pathLimit : Nat :=
  4096

/-- Whether a name is short enough to name something. -/
def nameFits (name : Text) : Bool :=
  Text.byteLength name ≤ longestName

/-- Whether a path can be given to the system at all. -/
def pathFits (path : Path) : Bool :=
  !path.text.isEmpty && Text.byteLength path.text < pathLimit &&
    !path.text.any (·.toNat == 0)

/-- The segments between the slashes of a path. -/
def segmentsOf (path : Path) : List Text :=
  Text.pieces (· == '/') path.text

/-- The place that a path starts from. -/
def startOf (disk : Disk) (path : Path) : Place :=
  if path.isAbsolute then [] else disk.working

/-- The place above another one. The root is above itself. -/
def above (place : Place) : Place :=
  place.dropLast

/-- The place that segments lead to. -/
def follow? (disk : Disk) : Place → List Text → Option Place
  | place, [] => some place
  | place, segment :: segments =>
    if !disk.isDirectoryAt place then
      none
    else if segment.isEmpty || segment = ['.'] then
      follow? disk place segments
    else if segment = ['.', '.'] then
      follow? disk (above place) segments
    else if nameFits segment then
      follow? disk (place ++ [segment]) segments
    else
      none

/-- The place that a path leads to. There may be nothing. -/
def place? (disk : Disk) (path : Path) : Option Place :=
  if pathFits path then follow? disk (startOf disk path) (segmentsOf path) else none

/-- What stands where a path leads. -/
def node? (disk : Disk) (path : Path) : Option Node :=
  (place? disk path).bind disk.at?

/-- Whether a path leads to something. -/
def pathExists (disk : Disk) (path : Path) : Bool :=
  (node? disk path).isSome

/-- Whether a path leads to a directory. -/
def isDirectory (disk : Disk) (path : Path) : Bool :=
  node? disk path = some .directory

/-- Whether a path leads to a file. -/
def isFile (disk : Disk) (path : Path) : Bool :=
  match node? disk path with
  | some (.file _) => true
  | _ => false

/-- The text of the file that a path leads to. -/
def read? (disk : Disk) (path : Path) : Option Text :=
  match node? disk path with
  | some (.file (.text text)) => some text
  | _ => none

/-- The name of a place, when it lies directly in a directory. -/
def nameIn? (directory place : Place) : Option Text :=
  match place.reverse with
  | name :: before => if before.reverse = directory then some name else none
  | [] => none

/-- The names of what lies directly in the directory that a path leads to. -/
def namesIn (disk : Disk) (path : Path) : List Text :=
  match place? disk path with
  | some directory => disk.nodes.filterMap fun (place, _) => nameIn? directory place
  | none => []

end Scaffold.Disk
