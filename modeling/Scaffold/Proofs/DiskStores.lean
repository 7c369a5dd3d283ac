import Scaffold.Disk

/-!
# Texts put at places

Texts are put at places one after the other, and a place may come up more than once. Where something
stands at a place already, only its last text matters (`stored_put`): earlier ones are replaced, and
texts at other places can be put before or after. So a disk on which every place holds the last of
its texts does not change at all when they are put there once more (`stored_eq_self`).
-/

namespace Scaffold.Disk

/-! ## Putting nodes where something stands -/

theorem placing_self
    {place : Place}
    {node : Node}
    {nodes : List (Place × Node)}
    (stands : nodes.lookup place = some node) :
    placing place node nodes = nodes := by
  induction nodes with
  | nil => cases stands
  | cons head others hypothesis =>
    obtain ⟨first, old⟩ := head
    rw [placing]
    by_cases here : first = place
    · subst here
      rw [List.lookup_cons_self] at stands
      rw [if_pos rfl, Option.some.inj stands]
    · have differ : (place == first) = false := by simpa using Ne.symm here
      rw [List.lookup_cons, differ] at stands
      rw [if_neg here, hypothesis stands]

theorem placing_placing
    (place : Place)
    (old node : Node)
    (nodes : List (Place × Node)) :
    placing place node (placing place old nodes) = placing place node nodes := by
  induction nodes with
  | nil => simp [placing]
  | cons head others hypothesis =>
    by_cases here : head.1 = place
    · simp [placing, here]
    · simp [placing, here, hypothesis]

/-- The order of two nodes matters only when both are added at the end. -/
theorem placing_comm
    {place other : Place}
    (apart : place ≠ other)
    {nodes : List (Place × Node)}
    (stands : (nodes.lookup place).isSome = true)
    (node otherNode : Node) :
    placing other otherNode (placing place node nodes) =
      placing place node (placing other otherNode nodes) := by
  induction nodes with
  | nil => cases stands
  | cons head others hypothesis =>
    obtain ⟨first, old⟩ := head
    by_cases here : first = place
    · subst here
      simp [placing, apart]
    · have differ : (place == first) = false := by simpa using Ne.symm here
      rw [List.lookup_cons, differ] at stands
      by_cases there : first = other
      · subst there
        simp [placing, here]
      · simp [placing, here, there, hypothesis stands]

theorem at?_eq_lookup
    (disk : Disk)
    {place : Place}
    (below : place ≠ []) :
    disk.at? place = disk.nodes.lookup place := by
  cases place with
  | nil => exact absurd rfl below
  | cons name names => rfl

/-- Where something stands, something stands after a node was put anywhere. -/
theorem isSome_at?_put
    {disk : Disk}
    {place : Place}
    (stands : (disk.at? place).isSome = true)
    (other : Place)
    (node : Node) :
    ((disk.put other node).at? place).isSome = true := by
  cases place with
  | nil => rfl
  | cons name names =>
    rw [at?_eq_lookup _ (List.cons_ne_nil name names)] at stands ⊢
    rw [put, lookup_placing]
    split
    · rfl
    · exact stands

/-- Putting a node where it stands changes nothing. -/
theorem put_self
    {disk : Disk}
    {place : Place}
    {node : Node}
    (below : place ≠ [])
    (stands : disk.at? place = some node) :
    disk.put place node = disk := by
  rw [at?_eq_lookup disk below] at stands
  rw [put, placing_self stands]

/-- The later node at a place replaces the earlier one. -/
theorem put_put
    (disk : Disk)
    (place : Place)
    (old node : Node) :
    (disk.put place old).put place node = disk.put place node := by
  simp only [put, placing_placing]

theorem put_comm
    {disk : Disk}
    {place other : Place}
    (apart : place ≠ other)
    (below : place ≠ [])
    (stands : (disk.at? place).isSome = true)
    (node otherNode : Node) :
    (disk.put place node).put other otherNode = (disk.put other otherNode).put place node := by
  rw [at?_eq_lookup disk below] at stands
  simp only [put, placing_comm apart stands]

/-! ## Texts put at places -/

/-- The disk after texts were put at places, one after the other. -/
def stored : Disk → List (Place × Text) → Disk
  | disk, [] => disk
  | disk, (place, text) :: stores => stored (disk.put place (.file (.text text))) stores

/-- The last text that is put at a place. -/
def lastStored (place : Place) : List (Place × Text) → Option Text
  | [] => none
  | (other, text) :: stores =>
    (lastStored place stores).or (if other = place then some text else none)

theorem lastStored_cons_of_ne
    {place other : Place}
    (apart : other ≠ place)
    (text : Text)
    (stores : List (Place × Text)) :
    lastStored place ((other, text) :: stores) = lastStored place stores := by
  rw [lastStored, if_neg apart, Option.or_none]

theorem lastStored_cons_of_some
    {place : Place}
    {later : Text}
    {stores : List (Place × Text)}
    (last : lastStored place stores = some later)
    (store : Place × Text) :
    lastStored place (store :: stores) = some later := by
  rw [lastStored, last, Option.some_or]

theorem lastStored_cons_self
    (place : Place)
    (text : Text)
    (stores : List (Place × Text)) :
    lastStored place ((place, text) :: stores) = some ((lastStored place stores).getD text) := by
  rw [lastStored, if_pos rfl]
  cases lastStored place stores with
  | none => rfl
  | some later => rfl

/-- A text makes no difference when a later one is put at its place. -/
theorem stored_put
    {disk : Disk}
    {place : Place}
    {later : Text}
    {stores : List (Place × Text)}
    (below : place ≠ [])
    (stands : (disk.at? place).isSome = true)
    (last : lastStored place stores = some later)
    (text : Text) :
    stored (disk.put place (.file (.text text))) stores = stored disk stores := by
  induction stores generalizing disk with
  | nil => cases last
  | cons store stores hypothesis =>
    obtain ⟨other, otherText⟩ := store
    rw [stored, stored]
    by_cases same : other = place
    · subst same
      rw [put_put]
    · rw [lastStored_cons_of_ne same] at last
      rw [put_comm (Ne.symm same) below stands]
      exact hypothesis (isSome_at?_put stands other _) last

/-- Putting texts at places changes nothing when every place holds the last of its texts. -/
theorem stored_eq_self
    {disk : Disk}
    {stores : List (Place × Text)}
    (below : ∀ store ∈ stores, store.1 ≠ [])
    (holds :
      ∀ place text,
        lastStored place stores = some text → disk.at? place = some (.file (.text text))) :
    stored disk stores = disk := by
  induction stores with
  | nil => rfl
  | cons store stores hypothesis =>
    obtain ⟨place, text⟩ := store
    rcases List.forall_mem_cons.mp below with ⟨here, others⟩
    have stands := holds place _ (lastStored_cons_self place text stores)
    rw [stored]
    have holdsLater :
        ∀ other later,
          lastStored other stores = some later →
            disk.at? other = some (.file (.text later)) :=
      fun other later last => holds other later (lastStored_cons_of_some last (place, text))
    cases last : lastStored place stores with
    | none =>
      -- The text is the last one for its place, so it stands there already.
      rw [last, Option.getD_none] at stands
      rw [put_self here stands]
      exact hypothesis others holdsLater
    | some later =>
      rw [stored_put here (by rw [stands]; rfl) last]
      exact hypothesis others holdsLater

end Scaffold.Disk
