import Scaffold.Proofs.DiskChanges

/-!
# Disks that are the same

Two disks with the same node at every place and the same working directory answer every question
about a path alike, whatever the order is in which they keep their nodes. Writing a file does the
same to both of them and says the same about it, so they cannot be told apart afterwards either.
-/

namespace Scaffold.Disk

namespace Same

theorem refl
    (disk : Disk) :
    disk.Same disk :=
  ⟨rfl, fun _ => rfl⟩

variable {listed disk other : Disk}

theorem trans
    (first : listed.Same disk)
    (second : disk.Same other) :
    listed.Same other :=
  ⟨first.1.trans second.1, fun place => (first.2 place).trans (second.2 place)⟩

theorem symm
    (same : listed.Same disk) :
    disk.Same listed :=
  ⟨same.1.symm, fun place => (same.2 place).symm⟩

variable (same : listed.Same disk)

include same

/-! ## Questions about paths -/

theorem isDirectoryAt
    (place : Place) :
    listed.isDirectoryAt place = disk.isDirectoryAt place := by
  rw [Disk.isDirectoryAt, Disk.isDirectoryAt, same.2]

theorem startOf
    (path : Path) :
    listed.startOf path = disk.startOf path := by
  rw [Disk.startOf, Disk.startOf, same.1]

theorem follow?
    (place : Place)
    (segments : List Text) :
    listed.follow? place segments = disk.follow? place segments := by
  induction segments generalizing place with
  | nil => rfl
  | cons segment segments hypothesis =>
    rw [follow?_cons, follow?_cons, same.isDirectoryAt]
    simp only [hypothesis]

theorem place?
    (path : Path) :
    listed.place? path = disk.place? path := by
  rw [Disk.place?, Disk.place?, same.startOf]
  simp only [same.follow?]

theorem node?
    (path : Path) :
    listed.node? path = disk.node? path := by
  rw [Disk.node?, Disk.node?, same.place?]
  exact Option.bind_congr fun place _ => same.2 place

theorem read?
    (path : Path) :
    listed.read? path = disk.read? path := by
  rw [Disk.read?, Disk.read?, same.node?]

theorem pathExists
    (path : Path) :
    listed.pathExists path = disk.pathExists path := by
  rw [Disk.pathExists, Disk.pathExists, same.node?]

theorem spot?
    (path : Path) :
    listed.spot? path = disk.spot? path := by
  rw [Disk.spot?, Disk.spot?, same.place?]
  simp only [same.isDirectoryAt]

/-! ## Writing -/

theorem put
    {place : Place}
    (below : place ≠ [])
    (node : Node) :
    (listed.put place node).Same (disk.put place node) := by
  refine ⟨same.1, ?_⟩
  intro other
  rw [at?_put listed place other node below, at?_put disk place other node below, same.2]

theorem makeWay
    (place : Place)
    (segments : List Text) :
    (listed.makeWay place segments).1.Same (disk.makeWay place segments).1 ∧
      (listed.makeWay place segments).2 = (disk.makeWay place segments).2 := by
  induction segments generalizing listed disk place with
  | nil =>
    rw [Disk.makeWay, Disk.makeWay]
    exact ⟨same, same.isDirectoryAt place⟩
  | cons segment segments hypothesis =>
    rw [Disk.makeWay, Disk.makeWay, same.isDirectoryAt, same.2]
    split
    · exact ⟨same, rfl⟩
    · split
      · exact hypothesis same place
      · split
        · exact hypothesis same (above place)
        · split
          · exact ⟨same, rfl⟩
          · split
            · exact hypothesis same (place ++ [segment])
            · exact
                hypothesis (same.put (List.concat_ne_nil segment place) .directory)
                  (place ++ [segment])

theorem withParent
    (path : Path) :
    (listed.withParent path).1.Same (disk.withParent path).1 ∧
      (listed.withParent path).2 = (disk.withParent path).2 := by
  rw [Disk.withParent, Disk.withParent]
  split
  next parent _ =>
    rw [makeDirectories, makeDirectories, same.startOf]
    split
    · exact ⟨same, rfl⟩
    · split
      · exact same.makeWay _ _
      · exact ⟨same, rfl⟩
  · exact ⟨same, rfl⟩

theorem overwrite
    (path : Path)
    (text : Text) :
    (listed.overwrite path text).1.Same (disk.overwrite path text).1 ∧
      (listed.overwrite path text).2 = (disk.overwrite path text).2 := by
  have parents := same.withParent path
  rw [Disk.overwrite, Disk.overwrite]
  rcases listedParent : listed.withParent path with ⟨listedMade, ready⟩
  rcases parent : disk.withParent path with ⟨made, alsoReady⟩
  rw [listedParent, parent] at parents
  rcases parents with ⟨sameMade, rfl⟩
  cases ready with
  | false => exact ⟨sameMade, rfl⟩
  | true =>
    dsimp only at sameMade ⊢
    rw [store?_eq_map_spot?, store?_eq_map_spot?, sameMade.spot?]
    cases spot : made.spot? path with
    | none => exact ⟨sameMade, rfl⟩
    | some place => exact ⟨sameMade.put (spot?_ne_root spot) _, rfl⟩

/-- A write has the same effect on both disks. -/
theorem write
    (policy : OverwritePolicy)
    (path : Path)
    (text : Text) :
    (listed.write policy path text).1.Same (disk.write policy path text).1 ∧
      (listed.write policy path text).2 = (disk.write policy path text).2 := by
  cases policy with
  | always => exact same.overwrite path text
  | ifMissing =>
    rw [Disk.write, Disk.write, same.pathExists]
    split
    · exact ⟨same, rfl⟩
    · exact same.overwrite path text

end Same

end Scaffold.Disk
