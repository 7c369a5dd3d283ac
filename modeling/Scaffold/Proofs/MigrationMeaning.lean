import Mathlib.Data.List.Nodup
import Scaffold.Proofs.MigrationBlocks

/-!
# What reading a migration means

The declarative reading of a migration: which names its lines select, in which order, and which
block gives each table its columns. Reading computes exactly that, and fails with the list of
requested names exactly when no line selects one of them.
-/

namespace Scaffold.Migration

/--
The significant lines of a migration declare a list of tables. The tables have the names that some
line selects, in the order of the first line that selects each, and every table has the columns of
the block behind the last line that selects its name.
-/
structure Declares (requested lines : List Text) (tables : List Table) : Prop where
  selected :
    ∀ name,
      (∃ table ∈ tables, table.name = name) ↔ ∃ line ∈ lines, Selects requested line name
  inOrder :
    tables.Pairwise fun earlier later =>
      ∃ before line after,
        lines = before ++ line :: after ∧
          Selects requested line earlier.name ∧
          ∀ other ∈ before ++ [line], ¬ Selects requested other later.name
  columns :
    ∀ table ∈ tables,
      ∃ before line after block,
        lines = before ++ line :: after ∧
          Selects requested line table.name ∧
          (∀ other ∈ after, ¬ Selects requested other table.name) ∧
          Block after block ∧
          Columns block table.columns

/-! ## Replayed tables are declared -/

theorem openings_map_fst
    (requested lines : List Text) :
    (openings requested lines).map Prod.fst = lines.filterMap (selection? requested) := by
  induction lines with
  | nil => rfl
  | cons line rest induction =>
    rw [openings, List.filterMap_cons]
    cases selection? requested line with
    | none => exact induction
    | some name => simp [induction]

/-- An opening comes from a line that selects its name, with the lines behind that line. -/
theorem line_of_openings_eq_append
    {requested lines : List Text}
    {before after : List (Text × List Text)}
    {name : Text}
    {behind : List Text}
    (equal : openings requested lines = before ++ (name, behind) :: after) :
    ∃ earlier line,
      lines = earlier ++ line :: behind ∧
        selection? requested line = some name ∧
        openings requested behind = after := by
  induction lines generalizing before with
  | nil => simp [openings] at equal
  | cons line rest induction =>
    rw [openings] at equal
    split at equal
    next selected chosen =>
      cases before with
      | nil =>
        simp only [List.nil_append, List.cons.injEq, Prod.mk.injEq] at equal
        rcases equal with ⟨⟨rfl, rfl⟩, remaining⟩
        exact ⟨[], line, rfl, chosen, remaining⟩
      | cons first before =>
        simp only [List.cons_append, List.cons.injEq] at equal
        rcases induction equal.2 with ⟨earlier, found, rfl, selects, later⟩
        exact ⟨line :: earlier, found, rfl, selects, later⟩
    next =>
      rcases induction equal with ⟨earlier, found, rfl, selects, later⟩
      exact ⟨line :: earlier, found, rfl, selects, later⟩

theorem mem_names_replay_iff
    (requested lines : List Text)
    (name : Text) :
    (∃ table ∈ (openings requested lines).foldl replay [], table.name = name) ↔
      ∃ line ∈ lines, Selects requested line name := by
  rw [← List.mem_map, names_replay, List.mem_eraseDups, openings_map_fst, List.mem_filterMap]
  simp only [selection?_eq_some_iff]

/-- The tables of a replay are those that the lines declare. -/
theorem declares_replay
    (requested lines : List Text) :
    Declares requested lines ((openings requested lines).foldl replay []) where
  selected := mem_names_replay_iff requested lines
  inOrder := by
    have ordered := eraseDups_pairwise (lines.filterMap (selection? requested))
    rw [← openings_map_fst, ← names_replay, List.pairwise_map, openings_map_fst] at ordered
    apply ordered.imp
    rintro earlier later ⟨differ, namesBefore, namesAfter, equal, absent⟩
    rcases List.filterMap_eq_append_iff.mp equal with ⟨first, rest, rfl, firstNames, restNames⟩
    rcases List.filterMap_eq_cons_iff.mp restNames with ⟨silent, line, after, rfl, none, selects, -⟩
    refine ⟨first ++ silent, line, after, by simp, (selection?_eq_some_iff _ _ _).mp selects, ?_⟩
    intro other inside again
    rw [← selection?_eq_some_iff] at again
    rcases List.mem_append.mp inside with inside | last
    · rcases List.mem_append.mp inside with inFirst | inSilent
      · exact absent (firstNames ▸ List.mem_filterMap.mpr ⟨other, inFirst, again⟩)
      · rw [none other inSilent] at again
        cases again
    · rw [List.mem_singleton.mp last, selects] at again
      exact differ (Option.some.inj again)
  columns := by
    intro table member
    rcases last_opening_of_mem_replay member with ⟨before, behind, after, equal, last, columns⟩
    rcases line_of_openings_eq_append equal with ⟨earlier, line, rfl, selects, later⟩
    refine
      ⟨earlier, line, behind, blockOf behind, rfl, (selection?_eq_some_iff _ _ _).mp selects, ?_,
        (block_iff _ _).mpr rfl, (columns_iff _ _).mpr columns⟩
    intro other inside again
    rw [← selection?_eq_some_iff] at again
    have reopened : table.name ∈ after.map Prod.fst := by
      rw [← later, openings_map_fst]
      exact List.mem_filterMap.mpr ⟨other, inside, again⟩
    rcases List.mem_map.mp reopened with ⟨opening, inAfter, same⟩
    exact last opening inAfter same

/-! ## The declared tables are unique -/

/-- The lines behind the last line of a kind do not depend on how that line was found. -/
theorem behind_last_unique
    {selects : Text → Prop}
    {before before' after after' : List Text}
    {line line' : Text}
    (equal : before ++ line :: after = before' ++ line' :: after')
    (found : selects line)
    (last : ∀ other ∈ after, ¬ selects other)
    (found' : selects line')
    (last' : ∀ other ∈ after', ¬ selects other) :
    after = after' := by
  induction before generalizing before' with
  | nil =>
    cases before' with
    | nil => simp_all
    | cons first before' =>
      simp only [List.nil_append, List.cons_append, List.cons.injEq] at equal
      exact absurd found' (last line' (by simp [equal.2]))
  | cons first before induction =>
    cases before' with
    | nil =>
      simp only [List.nil_append, List.cons_append, List.cons.injEq] at equal
      exact absurd found (last' line (by simp [← equal.2]))
    | cons _ before' =>
      simp only [List.cons_append, List.cons.injEq] at equal
      exact induction equal.2

/-- The order of declared names is asymmetric, because each name has one first line. -/
theorem first_line_asymm
    {requested lines : List Text}
    {left right : Text}
    (first :
      ∃ before line after,
        lines = before ++ line :: after ∧
          Selects requested line left ∧
          ∀ other ∈ before ++ [line], ¬ Selects requested other right)
    (second :
      ∃ before line after,
        lines = before ++ line :: after ∧
          Selects requested line right ∧
          ∀ other ∈ before ++ [line], ¬ Selects requested other left) :
    False := by
  rcases first with ⟨before, line, after, equal, selectsLeft, noRight⟩
  rcases second with ⟨before', line', after', equal', selectsRight, noLeft⟩
  have start : before ++ [line] <+: lines := ⟨after, by simp [equal]⟩
  have start' : before' ++ [line'] <+: lines := ⟨after', by simp [equal']⟩
  rcases List.prefix_or_prefix_of_prefix start start' with shorter | shorter
  · exact noLeft line (shorter.mem (by simp)) selectsLeft
  · exact noRight line' (shorter.mem (by simp)) selectsRight

theorem Declares.eq_of_name_eq
    {requested lines : List Text}
    {tables tables' : List Table}
    (declared : Declares requested lines tables)
    (declared' : Declares requested lines tables')
    {table table' : Table}
    (member : table ∈ tables)
    (member' : table' ∈ tables')
    (same : table.name = table'.name) :
    table = table' := by
  rcases declared.columns table member with
    ⟨before, line, after, block, equal, selects, last, blocks, columns⟩
  rcases declared'.columns table' member' with
    ⟨before', line', after', block', equal', selects', last', blocks', columns'⟩
  rw [← same] at selects' last'
  have behind : after = after' :=
    behind_last_unique (equal.symm.trans equal') selects last selects' last'
  subst behind
  rw [block_iff] at blocks blocks'
  subst blocks blocks'
  rw [columns_iff] at columns columns'
  rcases table with ⟨name, _⟩
  rcases table' with ⟨name', _⟩
  simp_all

theorem Declares.names_nodup
    {requested lines : List Text}
    {tables : List Table}
    (declared : Declares requested lines tables) :
    (tables.map Table.name).Nodup := by
  rw [List.Nodup, List.pairwise_map]
  apply declared.inOrder.imp
  intro earlier later first same
  exact first_line_asymm first (same ▸ first)

/-- The lines declare one list of tables only. -/
theorem Declares.unique
    {requested lines : List Text}
    {tables tables' : List Table}
    (declared : Declares requested lines tables)
    (declared' : Declares requested lines tables') :
    tables = tables' := by
  have subset {left right : List Table} (first : Declares requested lines left)
      (second : Declares requested lines right) : ∀ table ∈ left, table ∈ right := by
    intro table member
    rcases
        (second.selected table.name).mpr ((first.selected table.name).mp ⟨table, member, rfl⟩) with
      ⟨table', member', same⟩
    rwa [first.eq_of_name_eq second member member' same.symm]
  have permuted : tables.Perm tables' :=
    (List.perm_ext_iff_of_nodup (.of_map _ declared.names_nodup)
      (.of_map _ declared'.names_nodup)).mpr
      fun table => ⟨subset declared declared' table, subset declared' declared table⟩
  exact permuted.eq_of_pairwise
    (fun _ _ _ _ first second => (first_line_asymm first second).elim)
    declared.inOrder declared'.inOrder

/-! ## Reading -/

/--
Reading a migration gives exactly the tables that its significant lines declare. It fails exactly
when no line selects a requested name, and then names all requested tables.
-/
theorem tablesOf_eq_ok_iff_declares
    (migration : Text)
    (requested : List Text) :
    (∀ tables,
      tablesOf migration requested = .ok tables ↔
        tables ≠ [] ∧ Declares requested (significantLines migration) tables) ∧
    ∀ error,
      tablesOf migration requested = .error error ↔
        error = .tablesNotFound requested ∧
          ∀ line ∈ significantLines migration, ∀ name, ¬ Selects requested line name := by
  have declared :
      Declares requested (significantLines migration) (scan requested migration).tables :=
    scan_tables requested migration ▸ declares_replay requested (significantLines migration)
  constructor
  · intro tables
    have unique : Declares requested (significantLines migration) tables ↔
        (scan requested migration).tables = tables :=
      ⟨fun other => declared.unique other, fun same => same ▸ declared⟩
    rw [unique, tablesOf]
    cases read : (scan requested migration).tables with
    | nil => simp [eq_comm]
    | cons table others =>
      constructor
      · intro equal
        rcases Except.ok.inj equal with rfl
        simp
      · rintro ⟨-, rfl⟩
        rfl
  · intro error
    have none : (scan requested migration).tables = [] ↔
        ∀ line ∈ significantLines migration, ∀ name, ¬ Selects requested line name := by
      constructor
      · intro empty line member name selects
        rcases (declared.selected name).mpr ⟨line, member, selects⟩ with ⟨table, inside, -⟩
        simp [empty] at inside
      · intro silent
        rw [List.eq_nil_iff_forall_not_mem]
        intro table inside
        rcases (declared.selected table.name).mp ⟨table, inside, rfl⟩ with ⟨line, member, selects⟩
        exact silent line member table.name selects
    rw [← none, tablesOf]
    cases read : (scan requested migration).tables with
    | nil => simp [eq_comm]
    | cons table others => simp

end Scaffold.Migration
