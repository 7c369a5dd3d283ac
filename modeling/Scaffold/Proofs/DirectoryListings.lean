import Mathlib.Data.List.Induction
import Mathlib.Data.List.Nodup
import Scaffold.Proofs.DiskStores
import Scaffold.Proofs.PathComponents
import Scaffold.Proofs.SameDisks

/-!
# What directories list

A directory lists the names of what lies directly in it, each of them once when the disk has every
place once. Two disks with the same nodes in another order have the same node at every place, so
they answer every question about a path alike, and their directories list the same names. A name
without a slash that is added to the path of a directory leads to that name in the directory, and it
ends the path, so that the extension of the path is that of the name.
-/

namespace Scaffold.Path

open Disk (segmentsOf)

/-! ## The name at the end of a path -/

theorem trimmedBody_concat
    (segments : List Text)
    (segment : Text) :
    trimmedBody (segments ++ [segment]) =
      if isSilent segment then trimmedBody segments else segments ++ [segment] := by
  rw [trimmedBody, List.reverse_concat, List.dropWhile_cons]
  split
  · rfl
  · rw [List.reverse_cons, List.reverse_reverse]

/-- The last component of a body stands for its last segment that is not silent. -/
theorem getLast?_filterMap_componentOf?
    (segments : List Text) :
    (segments.filterMap componentOf?).getLast? =
      (trimmedBody segments).getLast?.bind componentOf? := by
  induction segments using List.reverseRecOn with
  | nil => rfl
  | append_singleton segments segment hypothesis =>
    rw [List.filterMap_append, trimmedBody_concat]
    by_cases silent : isSilent segment = true
    · rw [List.filterMap_cons_none (componentOf?_of_silent silent), if_pos silent,
        List.filterMap_nil, List.append_nil]
      exact hypothesis
    · rcases exists_componentOf?_of_telling (Bool.eq_false_iff.mpr silent) with ⟨component, stands⟩
      rw [if_neg silent, List.getLast?_concat, Option.bind_some, List.filterMap_cons_some stands,
        stands]
      exact List.getLast?_concat

theorem filterMap_bodySegments
    (path : Path) :
    path.bodySegments.filterMap componentOf? = path.steps := by
  have same : path.components = path.headComponents ++ path.steps :=
    components_eq_append_steps path
  exact List.append_cancel_left same

/-- A text that can name something in a directory. -/
structure IsEntryName (name : Text) : Prop where
  flat : '/' ∉ name
  telling : isSilent name = false
  ahead : name ≠ ['.', '.']

namespace IsEntryName

variable {name : Text} (entry : IsEntryName name)

include entry

theorem componentOf? :
    componentOf? name = some (.name name) :=
  componentOf?_of_telling entry.telling entry.ahead

theorem segmentsOf :
    Disk.segmentsOf ⟨name⟩ = [name] := by
  apply Text.pieces_of_plain
  intro character isMember
  rw [beq_eq_false_iff_ne]
  rintro rfl
  exact entry.flat isMember

theorem isRelative :
    IsRelative name := by
  rw [IsRelative, isAbsolute, ← Bool.not_eq_true, List.isPrefixOf_iff_prefix]
  intro rooted
  exact entry.flat (rooted.subset List.mem_cons_self)

/-- A name that is added to a path is the name that the path ends in. -/
theorem fileName?_child
    (base : Path) :
    (base.child name).fileName? = some name := by
  have ends : (base.child name).steps.getLast? = some (.name name) := by
    rw [child, steps_join entry.isRelative, steps, steps, entry.segmentsOf,
      List.filterMap_cons_some entry.componentOf?]
    exact List.getLast?_concat
  rw [← filterMap_bodySegments, getLast?_filterMap_componentOf?, Option.bind_eq_some_iff] at ends
  rcases ends with ⟨segment, last, stands⟩
  rw [fileName?, last]
  rw [Path.componentOf?] at stands
  split at stands
  · cases stands
  · split at stands
    · cases stands
    next ahead =>
      cases stands
      exact if_neg ahead

theorem extension?_child
    (base : Path) :
    (base.child name).extension? = (splitAtDot name).2 := by
  rw [extension?, entry.fileName?_child, Option.bind_some]

/-- A name that is added to the path of a directory leads to that name in the directory. -/
theorem place?_child
    {disk : Disk}
    {base : Path}
    {home place : Place}
    (leads : disk.place? base = some home)
    (onward : disk.place? (base.child name) = some place) :
    place = home ++ [name] := by
  have added : ∀ part ∈ [name], IsRelative part := by
    intro part isMember
    rw [List.mem_singleton.mp isMember]
    exact entry.isRelative
  have walked : disk.follow? home [name] = some place := by
    have parted : segmentsOfAll [name] = [name] := by
      rw [segmentsOfAll_cons, entry.segmentsOf]
      rfl
    rw [← parted]
    exact Disk.follow?_of_place?_below added leads onward
  rcases (Disk.follow?_cons_eq_some_iff disk home place name []).mp walked with
    ⟨-, next, steps, arrives⟩
  cases arrives
  have telling := entry.telling
  rw [isSilent, Bool.or_eq_false_iff] at telling
  exact Disk.step?_of_name telling.1 (by simpa using telling.2) entry.ahead steps

end IsEntryName

end Scaffold.Path

namespace Scaffold.Disk

/-! ## The same nodes in another order -/

/-- A list of pairs with different keys finds the value that a key is paired with. -/
theorem lookup_eq_some_iff_mem
    {pairs : List (Place × Node)}
    (once : (pairs.map Prod.fst).Nodup)
    (place : Place)
    (node : Node) :
    pairs.lookup place = some node ↔ (place, node) ∈ pairs := by
  induction pairs with
  | nil => simp
  | cons pair pairs hypothesis =>
    rcases pair with ⟨other, old⟩
    rw [List.map_cons, List.nodup_cons] at once
    rw [List.lookup_cons, List.mem_cons]
    by_cases same : place = other
    · subst same
      have absent : (place, node) ∉ pairs := by
        intro isMember
        exact once.1 (List.mem_map.mpr ⟨_, isMember, rfl⟩)
      simp [absent, eq_comm]
    · have differ : (place == other) = false := by simpa using same
      simp [differ, same, hypothesis once.2]

/-- Every place stands once in the list of the nodes. -/
def HasEachPlaceOnce (disk : Disk) : Prop :=
  (disk.nodes.map Prod.fst).Nodup

variable {disk listed : Disk}

theorem HasEachPlaceOnce.of_perm
    (once : disk.HasEachPlaceOnce)
    (order : listed.nodes.Perm disk.nodes) :
    listed.HasEachPlaceOnce :=
  (order.map Prod.fst).nodup_iff.mpr once

/-- The order of the nodes of a disk does not matter for what stands at a place. -/
theorem same_of_perm
    (once : disk.HasEachPlaceOnce)
    (order : listed.nodes.Perm disk.nodes)
    (working : listed.working = disk.working) :
    listed.Same disk := by
  refine ⟨working, ?_⟩
  intro place
  cases place with
  | nil => rfl
  | cons name names =>
    apply Option.ext
    intro node
    have below : name :: names ≠ [] := List.cons_ne_nil name names
    rw [at?_eq_lookup _ below, at?_eq_lookup _ below, lookup_eq_some_iff_mem once,
      lookup_eq_some_iff_mem (once.of_perm order)]
    exact order.mem_iff

/-! ## The names in a directory -/

theorem isFile_iff
    (disk : Disk)
    (path : Path) :
    disk.isFile path = true ↔
      ∃ place content, disk.place? path = some place ∧ disk.at? place = some (.file content) := by
  rw [isFile, node?]
  cases disk.place? path with
  | none => simp
  | some place =>
    rw [Option.bind_some]
    rcases stands : disk.at? place with _ | content | _
    · simp [stands]
    · simp [stands]
    · simp [stands]

theorem nameIn?_eq_some_iff
    (home place : Place)
    (name : Text) :
    nameIn? home place = some name ↔ place = home ++ [name] := by
  rw [nameIn?]
  constructor
  · intro lies
    split at lies
    next last before order =>
      split at lies
      next here =>
        cases lies
        rw [← List.reverse_reverse place, order, List.reverse_cons, here]
      · cases lies
    · cases lies
  · rintro rfl
    rw [List.reverse_concat]
    exact if_pos (List.reverse_reverse home)

/-- A directory lists a name when something stands at that name in it. -/
theorem mem_namesIn_iff
    {path : Path}
    {home : Place}
    (leads : disk.place? path = some home)
    (name : Text) :
    name ∈ disk.namesIn path ↔ (disk.at? (home ++ [name])).isSome = true := by
  rw [namesIn, leads, at?_eq_lookup disk (List.concat_ne_nil name home), List.lookup_isSome_iff,
    List.mem_filterMap]
  simp only [nameIn?_eq_some_iff]
  constructor
  · rintro ⟨pair, isMember, lies⟩
    exact ⟨pair, isMember, beq_iff_eq.mpr lies.symm⟩
  · rintro ⟨pair, isMember, lies⟩
    exact ⟨pair, isMember, (beq_iff_eq.mp lies).symm⟩

theorem nodup_namesIn
    (once : disk.HasEachPlaceOnce)
    (path : Path) :
    (disk.namesIn path).Nodup := by
  rw [namesIn]
  split
  next home _ =>
    show (disk.nodes.filterMap (nameIn? home ∘ Prod.fst)).Nodup
    rw [← List.filterMap_map]
    apply once.filterMap
    intro place other name lies alsoLies
    rw [Option.mem_def, nameIn?_eq_some_iff] at lies alsoLies
    rw [lies, alsoLies]
  · exact List.nodup_nil

end Scaffold.Disk
