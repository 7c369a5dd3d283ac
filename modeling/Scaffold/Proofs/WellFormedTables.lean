import Scaffold.Proofs.ClauseAlignment
import Scaffold.Proofs.JoinedMigrations

/-!
# Well-formed tables

Whatever stands in a migration, its tables come out well formed. Their names are requested names,
not empty and all different, so that looking a name up finds the one table that has it, and their
columns are well formed: a name without white space, with the quotes and commas at its ends taken
away, and a type that stops before its arguments and the punctuation behind it.

A line leaves a table as it is, starts one for the name that it selects, or adds the column that it
declares (`mem_tables_afterLine`). So every line keeps well-formed tables well formed
(`Progress.IsWellFormed.afterLine`), and a reading that was asked for one table gives this table
alone (`tablesOf_single`): whoever asks for it finds it among the tables that were read.
-/

namespace Scaffold

namespace Migration

/-! ## What a line does to the tables -/

theorem selected?_sound
    {requested : List Text}
    {remainder name : Text}
    (selects : selected? requested remainder = some name) :
    name ∈ requested ∧ name ≠ [] := by
  rcases (selected?_eq_some_iff requested remainder name).mp selects with
    ⟨telling, -, before, after, rfl, -⟩
  exact ⟨by simp, telling⟩

/-- A table after a line is one that was there before, a fresh one for the name that the line
selects, or one that was there before with the column of the line. -/
theorem mem_tables_afterLine
    {requested : List Text}
    {progress : Progress}
    (sound : progress.Sound)
    {line : Text}
    {table : Table}
    (isMember : table ∈ (afterLine requested progress line).tables) :
    table ∈ progress.tables ∨
      (∃ name, selection? requested line = some name ∧ table = ⟨name, []⟩) ∨
        ∃ earlier ∈ progress.tables, ∃ column,
          column? line = some column ∧
            table = { earlier with columns := earlier.columns ++ [column] } := by
  rw [afterLine] at isMember
  cases defined : definition? line with
  | some remainder =>
    rw [defined] at isMember
    dsimp only at isMember
    cases selects : selected? requested remainder with
    | none =>
      rw [selects] at isMember
      exact Or.inl isMember
    | some name =>
      rw [selects] at isMember
      rcases mem_started sound.distinct isMember with fresh | ⟨kept, -⟩
      · exact Or.inr (Or.inl ⟨name, by rw [selection?, defined, Option.bind_some, selects], fresh⟩)
      · exact Or.inl kept
  | none =>
    rw [defined] at isMember
    dsimp only at isMember
    cases current : progress.current with
    | none =>
      rw [current] at isMember
      exact Or.inl isMember
    | some name =>
      rw [current] at isMember
      dsimp only [afterBodyLine] at isMember
      split at isMember
      · exact Or.inl isMember
      · cases declares : column? line with
        | none =>
          rw [declares] at isMember
          exact Or.inl isMember
        | some column =>
          rw [declares] at isMember
          rcases List.mem_map.mp isMember with ⟨earlier, inside, rfl⟩
          split
          · exact Or.inr (Or.inr ⟨earlier, inside, column, rfl, rfl⟩)
          · exact Or.inl inside

/-! ## Well-formed tables are kept -/

/-- Tables under different requested names, with well-formed columns. -/
structure AreWellFormed (requested : List Text) (tables : List Table) : Prop where
  requested : ∀ table ∈ tables, table.name ∈ requested ∧ table.name ≠ []
  once : (tables.map Table.name).Nodup
  named : ∀ table ∈ tables, named? tables table.name = some table
  columns : ∀ table ∈ tables, ∀ column ∈ table.columns, column.IsWellFormed

/-- A sound state whose tables have requested names and well-formed columns. -/
structure Progress.IsWellFormed (requested : List Text) (progress : Progress) : Prop
    extends progress.Sound where
  requested : ∀ table ∈ progress.tables, table.name ∈ requested ∧ table.name ≠ []
  columns : ∀ table ∈ progress.tables, ∀ column ∈ table.columns, column.IsWellFormed

theorem Progress.isWellFormed_start
    (requested : List Text) :
    Progress.start.IsWellFormed requested where
  toSound := Progress.sound_of_nodup List.nodup_nil
  requested := List.forall_mem_nil _
  columns := List.forall_mem_nil _

/-- Every line leaves a well-formed state. -/
theorem Progress.IsWellFormed.afterLine
    {requested : List Text}
    {progress : Progress}
    (wellFormed : progress.IsWellFormed requested)
    (line : Text) :
    (afterLine requested progress line).IsWellFormed requested where
  toSound := wellFormed.toSound.afterLine requested line
  requested := by
    intro table isMember
    rcases mem_tables_afterLine wellFormed.toSound isMember with
      kept | ⟨name, selects, rfl⟩ | ⟨earlier, inside, column, -, rfl⟩
    · exact wellFormed.requested table kept
    · rcases Option.bind_eq_some_iff.mp selects with ⟨remainder, -, chosen⟩
      exact selected?_sound chosen
    · exact wellFormed.requested earlier inside
  columns := by
    intro table isMember
    rcases mem_tables_afterLine wellFormed.toSound isMember with
      kept | ⟨name, -, rfl⟩ | ⟨earlier, inside, column, declares, rfl⟩
    · exact wellFormed.columns table kept
    · exact List.forall_mem_nil _
    · rw [List.forall_mem_append, List.forall_mem_singleton]
      exact ⟨wellFormed.columns earlier inside, isWellFormed_of_column? declares⟩

theorem Progress.IsWellFormed.foldl
    {requested : List Text}
    {progress : Progress}
    (wellFormed : progress.IsWellFormed requested)
    (lines : List Text) :
    (lines.foldl (Migration.afterLine requested) progress).IsWellFormed requested := by
  induction lines generalizing progress with
  | nil => exact wellFormed
  | cons line lines hypothesis => exact hypothesis (wellFormed.afterLine line)

theorem isWellFormed_readLines
    (requested lines : List Text) :
    (readLines requested lines).IsWellFormed requested :=
  (Progress.isWellFormed_start requested).foldl lines

/-- Under different names, every table is found by its name. -/
theorem named?_of_mem
    {tables : List Table}
    (once : (tables.map Table.name).Nodup)
    {table : Table}
    (isMember : table ∈ tables) :
    named? tables table.name = some table := by
  cases found : named? tables table.name with
  | none =>
    rw [named?, List.find?_eq_none] at found
    exact absurd (beq_self_eq_true table.name) (found table isMember)
  | some other =>
    have same : other.name = table.name := by simpa using List.find?_some found
    rw [List.inj_on_of_nodup_map once (List.mem_of_find?_eq_some found) isMember same]

theorem areWellFormed_readLines
    (requested lines : List Text) :
    AreWellFormed requested (readLines requested lines).tables where
  requested := (isWellFormed_readLines requested lines).requested
  once := (isWellFormed_readLines requested lines).distinct
  named := fun _ => named?_of_mem (isWellFormed_readLines requested lines).distinct
  columns := (isWellFormed_readLines requested lines).columns

/-! ## Reading -/

theorem areWellFormed_of_tablesOf
    {migration : Text}
    {requested : List Text}
    {tables : List Table}
    (read : tablesOf migration requested = .ok tables) :
    AreWellFormed requested tables := by
  rw [← ((tablesOf_eq_ok_iff migration requested tables).mp read).2]
  exact areWellFormed_readLines requested (significantLines migration)

/-- A reading that is asked for one table gives this one alone. -/
theorem tablesOf_single
    {migration name : Text}
    {tables : List Table}
    (read : tablesOf migration [name] = .ok tables) :
    ∃ table, tables = [table] ∧ table.name = name := by
  have some := ((tablesOf_eq_ok_iff migration [name] tables).mp read).1
  have wellFormed := areWellFormed_of_tablesOf read
  have only (table : Table) (isMember : table ∈ tables) : table.name = name :=
    List.mem_singleton.mp (wellFormed.requested table isMember).1
  rcases tables with - | ⟨table, - | ⟨other, others⟩⟩
  · exact absurd rfl some
  · exact ⟨table, rfl, only table List.mem_cons_self⟩
  · -- two tables would have the same name
    have once := wellFormed.once
    rw [List.map_cons, List.map_cons, List.nodup_cons] at once
    have same : table.name = other.name :=
      (only table (by simp)).trans (only other (by simp)).symm
    exact absurd (same ▸ List.mem_cons_self) once.1

end Migration

/-! ## Loading a table -/

namespace Generator

open Migration

/--
The tables that are read from a migration are well formed. So a generator that asks for one table of
a migration that it can read always finds it among the tables that were read: it gets a table of
this name, or the error of the reading.
-/
theorem reading_gives_well_formed_tables
    (migration : Text) :
    (∀ requested tables,
      tablesOf migration requested = .ok tables → AreWellFormed requested tables) ∧
      ∀ (generator : Generator) (disk : Disk) (name : Text),
        disk.read? generator.settings.migration = some migration →
          (∀ tables,
            tablesOf migration [name] = .ok tables →
              ∃ table,
                tables.find? (·.name == name) = some table ∧
                  table.name = name ∧
                  generator.loadTable disk name = .ok table) ∧
            ∀ error,
              tablesOf migration [name] = .error error →
                error = .tablesNotFound [name] ∧
                  generator.loadTable disk name = .error (.tableNotFound name error) := by
  constructor
  · intro requested tables read
    exact areWellFormed_of_tablesOf read
  · intro generator disk name readable
    have loads : generator.loadTable disk name = tableOf migration name := by
      rw [loadTable, readable]
    rw [loads]
    constructor
    · intro tables read
      rcases tablesOf_single read with ⟨table, rfl, itsName⟩
      have found : [table].find? (·.name == name) = some table := by
        rw [List.find?_cons_of_pos]
        simpa using itsName
      refine ⟨table, found, itsName, ?_⟩
      rw [tableOf, read]
      dsimp only
      rw [found]
    · intro error fails
      refine ⟨error_of_tablesOf fails, ?_⟩
      rw [tableOf, fails]

/-- A migration with words that are made of quotes, commas and parentheses only. -/
def marksMigration : Text :=
  "CREATE TABLE marks (\n\"`'\" ,;)\n'a'b', (int\n);\nCREATE TABLE users (id int\n".toList

/-- A disk with this migration. -/
def marksDisk : Disk where
  nodes := [(["schema.sql".toList], .file (.text marksMigration))]
  working := []

/-- The table of this migration, with a column that keeps nothing of its two words. -/
def marksTable : Table where
  name := "marks".toList
  columns := [⟨[], [], true⟩, ⟨"a'b".toList, [], true⟩]

theorem marks_are_well_formed :
    tablesOf marksMigration ["".toList, "marks".toList, "users".toList] =
        .ok [marksTable, ⟨"users".toList, []⟩] ∧
      AreWellFormed ["".toList, "marks".toList, "users".toList]
        [marksTable, ⟨"users".toList, []⟩] ∧
      withoutTemplates.loadTable marksDisk "marks".toList = .ok marksTable ∧
      withoutTemplates.loadTable marksDisk "posts".toList =
        .error (.tableNotFound "posts".toList (.tablesNotFound ["posts".toList])) := by
  have both :
      tablesOf marksMigration ["".toList, "marks".toList, "users".toList] =
        .ok [marksTable, ⟨"users".toList, []⟩] := by
    decide +kernel
  have one : tablesOf marksMigration ["marks".toList] = .ok [marksTable] := by
    decide +kernel
  have none :
      tablesOf marksMigration ["posts".toList] = .error (.tablesNotFound ["posts".toList]) := by
    decide +kernel
  have readable : marksDisk.read? withoutTemplates.settings.migration = some marksMigration := by
    decide +kernel
  rcases reading_gives_well_formed_tables marksMigration with ⟨wellFormed, loading⟩
  rcases (loading withoutTemplates marksDisk "marks".toList readable).1 _ one with
    ⟨table, found, -, loaded⟩
  obtain rfl : table = marksTable := by simpa using List.mem_of_find?_eq_some found
  exact
    ⟨both, wellFormed _ _ both, loaded,
      ((loading withoutTemplates marksDisk "posts".toList readable).2 _ none).2⟩

end Generator

end Scaffold
