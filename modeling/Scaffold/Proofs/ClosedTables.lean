import Scaffold.Proofs.MigrationMeaning

/-!
# Closed tables

A line that starts with a closing parenthesis, or ends in one and a semicolon, closes the open
table: no line after it adds a column to any table until the next definition line. There is one
exception. A definition line opens the table that it selects however it ends, so that a definition
that is written on one line leaves its table open, and the lines that follow add their columns.

While reading, the tables have distinct names and the open one is among them (`Progress.Sound`).
Every line keeps this, so a line adds a column exactly when a table is open and the line is one of
its column lines (`gains_afterLine_iff`), and lines add none exactly when no table is open or its
block has no column (`add_nothing_iff`).
-/

namespace Scaffold.Migration

/-! ## Sound states -/

/-- The tables have distinct names, and the open one is among them. -/
structure Progress.Sound (progress : Progress) : Prop where
  distinct : (progress.tables.map Table.name).Nodup
  opened : ∀ name, progress.current = some name → name ∈ progress.tables.map Table.name

theorem extended_eq_extendedBy
    (name : Text)
    (column : Column)
    (tables : List Table) :
    extended name column tables = extendedBy name [column] tables := by
  rw [← extendedBy_nil name (extended name column tables), extendedBy_extended]

/-- Starting a table keeps the names distinct. -/
theorem nodup_started
    {tables : List Table}
    (distinct : (tables.map Table.name).Nodup)
    (name : Text) :
    ((started name tables).map Table.name).Nodup := by
  rw [names_started]
  split
  · exact distinct
  next fresh => exact List.concat_eq_append ▸ distinct.concat fresh

theorem mem_names_started
    (name : Text)
    (tables : List Table) :
    name ∈ (started name tables).map Table.name := by
  rw [names_started]
  split
  next known => exact known
  · exact List.mem_append_right _ (List.mem_singleton_self name)

theorem names_afterBodyLine
    (name : Text)
    (tables : List Table)
    (line : Text) :
    (afterBodyLine name tables line).tables.map Table.name = tables.map Table.name := by
  rw [afterBodyLine]
  split
  · rfl
  · cases column? line with
    | none => rfl
    | some column =>
      dsimp only
      rw [extended_eq_extendedBy, names_extendedBy]

/-- A table stays open through the lines that do not close it. -/
theorem current_afterBodyLine_eq_some_iff
    (name other : Text)
    (tables : List Table)
    (line : Text) :
    (afterBodyLine name tables line).current = some other ↔
      name = other ∧ startsWithClosing line = false ∧ endsWithClosing line = false := by
  rw [afterBodyLine]
  by_cases closes : startsWithClosing line = true
  · simp [closes]
  · by_cases ends : endsWithClosing line = true
    · simp [closes, ends]
    · simp [closes, ends]

/-- With no open table, distinct names are enough. -/
theorem Progress.sound_of_nodup
    {tables : List Table}
    (distinct : (tables.map Table.name).Nodup) :
    Progress.Sound ⟨tables, none⟩ := by
  refine ⟨distinct, ?_⟩
  intro name current
  cases current

/-- Every line leaves a sound state. -/
theorem Progress.Sound.afterLine
    {progress : Progress}
    (sound : progress.Sound)
    (requested : List Text)
    (line : Text) :
    (afterLine requested progress line).Sound := by
  rw [Migration.afterLine]
  split
  · split
    next name _ =>
      refine ⟨nodup_started sound.distinct name, ?_⟩
      intro other current
      cases current
      exact mem_names_started name progress.tables
    · exact Progress.sound_of_nodup sound.distinct
  · split
    next name current =>
      constructor
      · rw [names_afterBodyLine]
        exact sound.distinct
      · intro other stays
        rw [names_afterBodyLine]
        rw [current_afterBodyLine_eq_some_iff] at stays
        exact stays.1 ▸ sound.opened name current
    · exact sound

/-- The state after lines were read, which `scan` gives for the significant lines of a migration. -/
def readLines (requested : List Text) (lines : List Text) : Progress :=
  lines.foldl (afterLine requested) Progress.start

theorem scan_eq_readLines
    (requested : List Text)
    (migration : Text) :
    scan requested migration = readLines requested (significantLines migration) :=
  rfl

theorem tables_readLines
    (requested lines : List Text) :
    (readLines requested lines).tables = (openings requested lines).foldl replay [] :=
  foldl_afterLine_tables requested lines Progress.start

theorem readLines_append
    (requested before after : List Text) :
    readLines requested (before ++ after) =
      after.foldl (afterLine requested) (readLines requested before) :=
  List.foldl_append

theorem readLines_concat
    (requested before : List Text)
    (line : Text) :
    readLines requested (before ++ [line]) =
      afterLine requested (readLines requested before) line :=
  readLines_append requested before [line]

theorem sound_readLines
    (requested lines : List Text) :
    (readLines requested lines).Sound := by
  rw [readLines]
  have start : Progress.start.Sound := Progress.sound_of_nodup List.nodup_nil
  generalize Progress.start = progress at start
  induction lines generalizing progress with
  | nil => exact start
  | cons line lines hypothesis => exact hypothesis _ (start.afterLine requested line)

/-! ## Lines that add columns -/

/-- Between two lists of tables, some table gains a column. -/
def Gains (tables later : List Table) : Prop :=
  ∃ table ∈ tables, ∃ column, { table with columns := table.columns ++ [column] } ∈ later

/-- Tables with distinct names gain nothing by staying as they are. -/
theorem not_gains_self
    {tables : List Table}
    (distinct : (tables.map Table.name).Nodup) :
    ¬ Gains tables tables := by
  rintro ⟨table, isMember, column, longer⟩
  have same := List.inj_on_of_nodup_map distinct longer isMember rfl
  simpa using congrArg (·.columns.length) same

/-- A table gains the column that it is extended by. -/
theorem gains_extended
    {name : Text}
    {tables : List Table}
    (known : name ∈ tables.map Table.name)
    (column : Column) :
    Gains tables (extended name column tables) := by
  rcases List.mem_map.mp known with ⟨table, isMember, rfl⟩
  refine ⟨table, isMember, column, List.mem_map.mpr ⟨table, isMember, if_pos rfl⟩⟩

/-- A line that defines nothing adds a column exactly when a table is open and the line declares the
column without closing the table before. -/
theorem gains_afterLine_iff
    {progress : Progress}
    (sound : progress.Sound)
    (requested : List Text)
    {line : Text}
    (inside : definition? line = none) :
    Gains progress.tables (afterLine requested progress line).tables ↔
      progress.current.isSome = true ∧
        startsWithClosing line = false ∧
        (column? line).isSome = true := by
  have stays := not_gains_self sound.distinct
  rw [afterLine, inside]
  cases current : progress.current with
  | none => simp [stays]
  | some name =>
    dsimp only
    rw [afterBodyLine]
    by_cases closes : startsWithClosing line = true
    · simp [closes, stays]
    · cases declares : column? line with
      | none => simp [closes, stays]
      | some column =>
        simp [closes, gains_extended (sound.opened name current) column]

/-- A table is open after a line that defines nothing when one was open before and the line does not
close it. -/
theorem isSome_current_afterLine_iff
    (requested : List Text)
    (progress : Progress)
    {line : Text}
    (inside : definition? line = none) :
    (afterLine requested progress line).current.isSome = true ↔
      progress.current.isSome = true ∧
        startsWithClosing line = false ∧
        endsWithClosing line = false := by
  rw [afterLine, inside]
  cases current : progress.current with
  | none => simp [current]
  | some opened =>
    simp only [Option.isSome_iff_exists, current_afterBodyLine_eq_some_iff]
    simp

/-- The columns of the block that starts with a line which defines nothing. -/
theorem columnsOf_blockOf_cons_eq_nil_iff
    {line : Text}
    (inside : definition? line = none)
    (rest : List Text) :
    columnsOf (blockOf (line :: rest)) = [] ↔
      startsWithClosing line = true ∨
        column? line = none ∧
          (endsWithClosing line = true ∨ columnsOf (blockOf rest) = []) := by
  rw [blockOf, inside]
  by_cases closes : startsWithClosing line = true
  · simp [closes, columnsOf]
  · by_cases ends : endsWithClosing line = true
    · cases declares : column? line <;> simp [closes, ends, columnsOf, declares]
    · cases declares : column? line <;> simp [closes, ends, columnsOf, declares]

/-- A property of the ways to cut a list at one of its members holds of the cut at the head and of
the cuts behind it. -/
theorem forall_cut_cons_iff
    {α : Type}
    (property : List α → α → Prop)
    (head : α)
    (tail : List α) :
    (∀ before here after, head :: tail = before ++ here :: after → property before here) ↔
      property [] head ∧
        ∀ before here after,
          tail = before ++ here :: after → property (head :: before) here := by
  constructor
  · intro cuts
    refine ⟨cuts [] head tail rfl, ?_⟩
    rintro before here after rfl
    exact cuts (head :: before) here after rfl
  · rintro ⟨atHead, behind⟩ before here after equal
    cases before with
    | nil =>
      cases equal
      exact atHead
    | cons first before =>
      rw [List.cons_append, List.cons.injEq] at equal
      rcases equal with ⟨rfl, later⟩
      exact behind before here after later

/--
Up to the next definition line, lines add no column exactly when no table is open or its block
declares none. The induction is on the lines, for every sound state.
-/
theorem add_nothing_iff
    {progress : Progress}
    (sound : progress.Sound)
    (requested lines : List Text) :
    (∀ inner line outer,
        lines = inner ++ line :: outer →
          (∀ other ∈ inner ++ [line], definition? other = none) →
            ¬ Gains (inner.foldl (afterLine requested) progress).tables
                ((inner ++ [line]).foldl (afterLine requested) progress).tables) ↔
      (progress.current.isSome = true → columnsOf (blockOf lines) = []) := by
  induction lines generalizing progress with
  | nil => simp [blockOf, columnsOf]
  | cons line rest hypothesis =>
    rw [forall_cut_cons_iff]
    cases defined : definition? line with
    | some remainder => simp [defined, blockOf, columnsOf]
    | none =>
      have gains := gains_afterLine_iff sound requested defined
      have current := isSome_current_afterLine_iff requested progress defined
      have columns := columnsOf_blockOf_cons_eq_nil_iff defined rest
      have later := hypothesis (sound.afterLine requested line)
      simp only [List.nil_append, List.cons_append, List.forall_mem_cons, defined, true_and,
        List.foldl_cons, List.foldl_nil, later, gains, current, columns]
      -- What remains is which of open, closing, ending and declaring hold.
      by_cases opened : progress.current.isSome = true
      · cases startsWithClosing line with
        | true => simp
        | false =>
          cases column? line with
          | none => cases endsWithClosing line <;> simp [opened]
          | some column => simp [opened]
      · simp [opened]

/-! ## After a closing line -/

/-- A line closes the open table: it starts with a closing parenthesis, or ends in one and a
semicolon. -/
def Closes (line : Text) : Prop :=
  [')'] <+: line ∨ [')', ';'] <:+ line

/-- The line that follows others in a migration adds a column to a table. -/
def AddsColumn (requested : List Text) (migration : Text) (before : List Text) (line : Text) :
    Prop :=
  before ++ [line] <+: significantLines migration ∧
    Gains (readLines requested before).tables (readLines requested (before ++ [line])).tables

/-- After a closing line a table is open exactly when the line selects one. -/
theorem isSome_current_of_closes
    (requested : List Text)
    (progress : Progress)
    {line : Text}
    (closes : Closes line) :
    (afterLine requested progress line).current.isSome = true ↔
      ∃ name, Selects requested line name := by
  simp only [← selection?_eq_some_iff, ← Option.isSome_iff_exists]
  cases defined : definition? line with
  | none =>
    have shut : ¬ (startsWithClosing line = false ∧ endsWithClosing line = false) := by
      rintro ⟨untouched, goesOn⟩
      rcases closes with starts | ends
      · exact Bool.false_ne_true (untouched.symm.trans (List.isPrefixOf_iff_prefix.mpr starts))
      · exact Bool.false_ne_true (goesOn.symm.trans (List.isSuffixOf_iff_suffix.mpr ends))
    rw [isSome_current_afterLine_iff requested progress defined, selection?, defined]
    simp [shut]
  | some remainder =>
    rw [afterLine, selection?, defined, Option.bind_some]
    dsimp only
    cases selected? requested remainder with
    | none => rfl
    | some name => rfl

/--
After a closing line of a migration, no line adds a column to a table until the next definition line,
unless the closing line is itself a definition line that selects a table, and the block behind it
declares a column.
-/
theorem no_column_after_closing_iff
    {migration : Text}
    (requested : List Text)
    {before after : List Text}
    {closing : Text}
    (order : significantLines migration = before ++ closing :: after)
    (closes : Closes closing) :
    (∀ inner line,
        (∀ other ∈ inner ++ [line], ¬ IsDefinition other) →
          ¬ AddsColumn requested migration (before ++ closing :: inner) line) ↔
      ∀ name block,
        Selects requested closing name → Block after block → Columns block [] := by
  have sound : (readLines requested (before ++ [closing])).Sound :=
    sound_readLines requested (before ++ [closing])
  have nothing := add_nothing_iff sound requested after
  have opened := isSome_current_of_closes requested (readLines requested before) closes
  rw [← readLines_concat] at opened
  have adds (inner : List Text) (line : Text) :
      AddsColumn requested migration (before ++ closing :: inner) line ↔
        (∃ outer, after = inner ++ line :: outer) ∧
          Gains (inner.foldl (afterLine requested) (readLines requested (before ++ [closing]))).tables
            ((inner ++ [line]).foldl (afterLine requested)
              (readLines requested (before ++ [closing]))).tables := by
    simp only [AddsColumn, order, ← readLines_append, List.append_assoc, List.cons_append,
      List.prefix_append_right_inj, List.cons_prefix_cons, true_and]
    refine and_congr_left' ⟨?_, ?_⟩
    · rintro ⟨outer, rfl⟩
      exact ⟨outer, List.append_assoc _ _ _⟩
    · rintro ⟨outer, rfl⟩
      exact ⟨outer, List.append_assoc _ _ _⟩
  calc
    (∀ inner line,
        (∀ other ∈ inner ++ [line], ¬ IsDefinition other) →
          ¬ AddsColumn requested migration (before ++ closing :: inner) line) ↔
        ((readLines requested (before ++ [closing])).current.isSome = true →
          columnsOf (blockOf after) = []) := by
      rw [← nothing]
      simp only [adds, ← definition?_eq_none_iff]
      constructor
      · intro none inner line outer cut inside gains
        exact none inner line inside ⟨⟨outer, cut⟩, gains⟩
      · rintro none inner line inside ⟨⟨outer, cut⟩, gains⟩
        exact none inner line outer cut inside gains
    _ ↔ ∀ name block,
          Selects requested closing name → Block after block → Columns block [] := by
      simp only [opened, block_iff, columns_iff, forall_exists_index]
      constructor
      · rintro empty name block selects rfl
        exact (empty name selects).symm
      · intro empty name selects
        exact (empty name _ selects rfl).symm

/-- A migration of these lines and a statement behind them. -/
def followedByStatement (lines : String) : Text :=
  (lines ++ "INSERT INTO logs VALUES (1);\n").toList

/-- A definition that is written on one line takes the statement on the next line for a column. -/
theorem definition_on_one_line_stays_open :
    Closes "CREATE TABLE users (id int);".toList ∧
      ¬ IsDefinition "INSERT INTO logs VALUES (1);".toList ∧
      AddsColumn ["users".toList]
        (followedByStatement "CREATE TABLE users (id int);\n")
        ["CREATE TABLE users (id int);".toList]
        "INSERT INTO logs VALUES (1);".toList ∧
      tablesOf (followedByStatement "CREATE TABLE users (id int);\n") ["users".toList] =
        .ok [⟨"users".toList, [⟨"INSERT".toList, "INTO".toList, true⟩]⟩] := by
  refine ⟨Or.inr (by decide +kernel), ?_, ⟨by decide +kernel, ?_⟩, by decide +kernel⟩
  · rw [← definition?_eq_none_iff]
    decide +kernel
  · refine ⟨⟨"users".toList, []⟩, by decide +kernel, ⟨"INSERT".toList, "INTO".toList, true⟩, ?_⟩
    decide +kernel

/-- Behind a definition whose parenthesis is closed on a line of its own, a statement adds no
column. -/
theorem statement_behind_closing_line :
    significantLines (followedByStatement "CREATE TABLE users (\n    id int\n);\n") =
        ["CREATE TABLE users (".toList, "id int".toList] ++
          ");".toList :: ["INSERT INTO logs VALUES (1);".toList] ∧
      Closes ");".toList ∧
      ¬ AddsColumn ["users".toList]
          (followedByStatement "CREATE TABLE users (\n    id int\n);\n")
          ["CREATE TABLE users (".toList, "id int".toList, ");".toList]
          "INSERT INTO logs VALUES (1);".toList := by
  have order :
      significantLines (followedByStatement "CREATE TABLE users (\n    id int\n);\n") =
        ["CREATE TABLE users (".toList, "id int".toList] ++
          ");".toList :: ["INSERT INTO logs VALUES (1);".toList] := by
    decide +kernel
  have closes : Closes ");".toList := Or.inl (by decide +kernel)
  have unselected (name : Text) : ¬ Selects ["users".toList] ");".toList name := by
    rw [← selection?_eq_some_iff]
    have none : selection? ["users".toList] ");".toList = none := by decide +kernel
    exact fun selected => nomatch none.symm.trans selected
  have nothing :=
    (no_column_after_closing_iff ["users".toList] order closes).mpr
      fun name _ selects => absurd selects (unselected name)
  refine ⟨order, closes, nothing [] "INSERT INTO logs VALUES (1);".toList ?_⟩
  simp only [← definition?_eq_none_iff]
  decide +kernel

end Scaffold.Migration
