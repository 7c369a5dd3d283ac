import Scaffold.Path

/-!
# Disks

A disk has directories and regular files at places, where a place is the list of names that lead to
it from the root. The root is always a directory. Paths are followed as an operating system does:
segment by segment, each one looked up in a directory that exists, so that `..` means the directory
above the one that has been reached. Relative paths start at the working directory.

Two disks are the same for every observer when they have the same nodes (`Disk.Same`).
-/

namespace Scaffold

/-- What a file holds. -/
inductive Content where
  /-- Text in UTF-8. -/
  | text (text : Text)
  /-- Bytes that are no text in UTF-8. -/
  | bytes (bytes : List UInt8)
  deriving DecidableEq

/-- What stands at a place. -/
inductive Node where
  | file (content : Content)
  | directory
  deriving DecidableEq

/-- The names that lead from the root to a node. -/
abbrev Place :=
  List Text

/-- Directories and files, and the directory that relative paths start from. -/
structure Disk where
  nodes : List (Place × Node)
  working : Place
  deriving DecidableEq

namespace Disk

/-- The node at a place. -/
def at? (disk : Disk) (place : Place) : Option Node :=
  match place with
  | [] => some .directory
  | _ => disk.nodes.lookup place

/-- Whether there is a directory at a place. -/
def isDirectoryAt (disk : Disk) (place : Place) : Bool :=
  disk.at? place = some .directory

/-- The nodes with the one at a place replaced, or added at the end. -/
def placing (place : Place) (node : Node) : List (Place × Node) → List (Place × Node)
  | [] => [(place, node)]
  | (other, old) :: others =>
    if other = place then (place, node) :: others else (other, old) :: placing place node others

/-- The disk with a node at a place. -/
def put (disk : Disk) (place : Place) (node : Node) : Disk :=
  { disk with nodes := placing place node disk.nodes }

/-- Whether two disks have the same nodes and the same working directory. -/
def Same (left right : Disk) : Prop :=
  left.working = right.working ∧ ∀ place, left.at? place = right.at? place

theorem lookup_placing
    (place other : Place)
    (node : Node)
    (nodes : List (Place × Node)) :
    (placing place node nodes).lookup other =
      if other = place then some node else nodes.lookup other := by
  induction nodes with
  | nil =>
    by_cases same : other = place
    · simp [placing, same]
    · have differ : (other == place) = false := by simpa using same
      simp [placing, List.lookup_cons, same, differ]
  | cons head others hypothesis =>
    obtain ⟨first, old⟩ := head
    by_cases here : first = place
    · subst here
      by_cases same : other = first
      · simp [placing, same]
      · have differ : (other == first) = false := by simpa using same
        simp [placing, List.lookup_cons, same, differ]
    · by_cases found : other = first
      · subst found
        simp [placing, here]
      · have differ : (other == first) = false := by simpa using found
        simp [placing, here, List.lookup_cons, differ, hypothesis]

/-- A node that is put somewhere is found there, and nothing else changes. -/
theorem at?_put
    (disk : Disk)
    (place other : Place)
    (node : Node)
    (below : place ≠ []) :
    (disk.put place node).at? other =
      if other = place then some node else disk.at? other := by
  cases other with
  | nil => simp [at?, Ne.symm below]
  | cons name names => simp [at?, put, lookup_placing]

@[simp]
theorem working_put
    (disk : Disk)
    (place : Place)
    (node : Node) :
    (disk.put place node).working = disk.working :=
  rfl

end Disk

end Scaffold
