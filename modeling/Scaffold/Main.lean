import Scaffold.Command.Footprint
import Scaffold.Command.Usage

/-!
# The command line program

Reads the arguments, puts the places that the command looks at on a disk, runs the command there,
and writes what it changed. Symbolic links are taken for what they lead to.
-/

namespace Scaffold.Console

/-- The place of a path from the root, without the steps that stand for nothing. -/
def placeOf (path : String) : Place :=
  (Text.pieces (· == '/') path.toList).filter fun name => !name.isEmpty

/-- The path from the root to a place. -/
def pathOf (place : Place) : String :=
  String.ofList ('/' :: Text.joined ['/'] place)

/-- The content that bytes stand for. -/
def contentOf (bytes : ByteArray) : Content :=
  match String.fromUTF8? bytes with
  | some text => .text text.toList
  | none => .bytes bytes.toList

/-- The bytes of a content. -/
def bytesOf : Content → ByteArray
  | .text text => (String.ofList text).toUTF8
  | .bytes bytes => ⟨bytes.toArray⟩

/-- What stands at a place, if anything does. A file that cannot be read has no text. -/
def nodeAt? (place : Place) : IO (Option Node) := do
  let path := (← IO.currentDir) / pathOf place
  if ← path.isDir then
    return some .directory
  else if ← path.pathExists then
    try
      return some (.file (contentOf (← IO.FS.readBinFile path)))
    catch _ =>
      return some (.file (.bytes []))
  else
    return none

/-- The names of what lies in a directory, if there is one at the place. -/
def namesAt (place : Place) : IO (List Text) := do
  let path := (← IO.currentDir) / pathOf place
  if ← path.isDir then
    return (← path.readDir).toList.map fun entry => entry.fileName.toList
  else
    return []

/-- The disk with what stands at a place. -/
def addPlace (disk : Disk) (place : Place) : IO Disk := do
  if (disk.at? place).isSome then
    return disk
  else
    match ← nodeAt? place with
    | some node => return disk.put place node
    | none => return disk

/-- The disk with what stands where a path passes, and with what a directory at its end holds. -/
def addPath (disk : Disk) (path : Path) : IO Disk := do
  let places := disk.placesOf path
  let disk ← places.foldlM addPlace disk
  match places.getLast? with
  | some place => ((← namesAt place).map fun name => place ++ [name]).foldlM addPlace disk
  | none => return disk

/-- The disk with what a command looks at. -/
def addFootprint (command : Command) : (rounds : Nat) → Disk → IO Disk
  | 0, disk => return disk
  | rounds + 1, disk => do
    addFootprint command rounds (← (command.footprint disk).foldlM addPath disk)

/-- The disk with the working directory and the directories above it. -/
def startingDisk : IO Disk := do
  let working := placeOf (← IO.currentDir).toString
  let above := (List.range working.length).map fun length => working.take (length + 1)
  return ⟨above.map fun place => (place, .directory), working⟩

/-- Writes what differs on a disk from what was there before. -/
def save (before after : Disk) : IO Unit :=
  after.nodes.forM fun (place, node) => do
    if before.at? place ≠ some node then
      match node with
      | .directory => IO.FS.createDirAll (pathOf place)
      | .file content => IO.FS.writeBinFile (pathOf place) (bytesOf content)

/-- The lines that tell why a command failed. -/
def failureLines (error : CommandError) : List Text :=
  match error.messages with
  | [] => []
  | outermost :: causes =>
    ("Error: ".toList ++ outermost) :: causes.map fun cause => "  caused by: ".toList ++ cause

/-- Runs a command on the files of the system, and gives the status to end with. -/
def run (command : Command) : IO UInt32 := do
  let before ← addFootprint command Command.footprintRounds (← startingDisk)
  let (after, result) := command.run before
  save before after
  match result with
  | .ok printed =>
    IO.print (String.ofList printed.output)
    IO.eprint (String.ofList printed.warnings)
    return 0
  | .error error =>
    IO.eprint (String.ofList (Text.written (failureLines error)))
    return 1

end Scaffold.Console

/-- Carries out a command line. -/
def main (arguments : List String) : IO UInt32 := do
  match Scaffold.Arguments.parse (arguments.map String.toList) with
  | .ok invocation => Scaffold.Console.run invocation.command
  | .error error =>
    let told := String.ofList (Scaffold.Text.written error.lines)
    if error.isRequest then
      IO.print told
      return 0
    else
      IO.eprint told
      return 2
