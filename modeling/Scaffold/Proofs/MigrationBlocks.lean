import Mathlib.Data.List.Forall2
import Mathlib.Data.List.Induction
import Scaffold.Migration
import Scaffold.Proofs.CaseMapping

/-!
# The tables that a migration declares

A migration is read in one pass over its significant lines, with the tables read so far and the open
one as state. This module says what the result means without that state. A definition line selects
the first requested name in its remainder; the lines after it up to the next definition or closing
line are its block; and a table has the columns of the block behind the last line that selects its
name, while its place among the tables is that of the first such line.

The pass is a replay of the selected blocks, each of which settles the columns of one table
(`foldl_afterLine_tables`). So the names of the tables are the selected names in the order of their
first line, and the columns of a table are those of the last block that was opened for its name.
Whatever its line looks like, a column is well formed (`isWellFormed_of_column?`).
-/

namespace Scaffold

/-- A column as it is read from a line, whatever the words of the line are. -/
structure Column.IsWellFormed (column : Column) : Prop where
  nameSolid : ∀ character ∈ column.name, Text.isBlank character = false
  nameStarts : ∀ first ∈ column.name.head?, first ∉ ['"', '\x60', '\'', ',']
  nameEnds : ∀ last ∈ column.name.getLast?, last ∉ ['"', '\x60', '\'', ',']
  typeSolid : ∀ character ∈ column.rawType, Text.isBlank character = false
  typeBare : '(' ∉ column.rawType
  typeEnds : ∀ last ∈ column.rawType.getLast?, last ∉ [',', ';', ')', '"']

namespace Migration

/-! ## Definition lines and the names they select -/

/--
A line defines a table when its first twelve bytes are the definition words in any letter case. The
remainder follows them.
-/
def Defines (line remainder : Text) : Prop :=
  ∃ start,
    line = start ++ remainder ∧
      Text.byteLength start = 12 ∧
      start.map Char.toUpper = definitionWords

/-- A line defines some table. -/
def IsDefinition (line : Text) : Prop :=
  ∃ remainder, Defines line remainder

/-- A definition line selects the first requested name in its remainder. The empty name does not
count. -/
def Selects (requested : List Text) (line name : Text) : Prop :=
  ∃ remainder,
    Defines line remainder ∧
      name ≠ [] ∧ name <:+: remainder ∧
      ∃ before after,
        requested = before ++ name :: after ∧
          ∀ other ∈ before, other = [] ∨ ¬ other <:+: remainder

theorem definition?_eq_some_iff
    (line remainder : Text) :
    definition? line = some remainder ↔ Defines line remainder := by
  have upper : definitionWords.map Char.toUpper = definitionWords := by decide
  have twelve : definitionWords.length = 12 := by decide
  simp only [definition?, Option.ite_none_right_eq_some, Option.some.injEq,
    Text.foldedEqual_iff_map_toUpper, upper, twelve]
  constructor
  · rintro ⟨equal, rfl⟩
    refine ⟨line.take 12, (List.take_append_drop 12 line).symm, ?_, equal⟩
    rw [← Text.byteLength_map_toUpper, equal]
    decide
  · rintro ⟨start, rfl, -, equal⟩
    have long : start.length = 12 := by
      rw [← List.length_map Char.toUpper, equal, twelve]
    rw [List.take_left' long, List.drop_left' long]
    exact ⟨equal, rfl⟩

theorem selected?_eq_some_iff
    (requested : List Text)
    (remainder name : Text) :
    selected? requested remainder = some name ↔
      name ≠ [] ∧ name <:+: remainder ∧
        ∃ before after,
          requested = before ++ name :: after ∧
            ∀ other ∈ before, other = [] ∨ ¬ other <:+: remainder := by
  rw [selected?, List.find?_eq_some_iff_append]
  simp only [Bool.and_eq_true, Bool.not_eq_true', Text.contains_iff, Bool.not_and,
    Bool.or_eq_true, Bool.not_not, List.isEmpty_iff, ← Bool.not_eq_true, and_assoc, ne_eq]

/-- The name that a line selects. -/
def selection? (requested : List Text) (line : Text) : Option Text :=
  (definition? line).bind (selected? requested)

theorem selection?_eq_some_iff
    (requested : List Text)
    (line name : Text) :
    selection? requested line = some name ↔ Selects requested line name := by
  simp only [selection?, Option.bind_eq_some_iff, definition?_eq_some_iff, selected?_eq_some_iff,
    Selects]

theorem definition?_eq_none_iff
    (line : Text) :
    definition? line = none ↔ ¬ IsDefinition line := by
  simp only [IsDefinition, ← definition?_eq_some_iff, ← Option.isSome_iff_exists,
    Option.not_isSome_iff_eq_none]

/-! ## Blocks -/

/--
The block that starts a list of lines. It ends before the next definition line or the first line
that starts with a closing parenthesis, or with the first other line that ends in a closing
parenthesis and a semicolon, or with the last line.
-/
inductive Block : List Text → List Text → Prop where
  | exhausted : Block [] []
  | redefined
      (defines : IsDefinition line) :
      Block (line :: rest) []
  | closed
      (inside : ¬ IsDefinition line)
      (closes : [')'] <+: line) :
      Block (line :: rest) []
  | terminated
      (inside : ¬ IsDefinition line)
      (untouched : ¬ [')'] <+: line)
      (ends : [')', ';'] <:+ line) :
      Block (line :: rest) [line]
  | continued
      (inside : ¬ IsDefinition line)
      (untouched : ¬ [')'] <+: line)
      (goesOn : ¬ [')', ';'] <:+ line)
      (later : Block rest block) :
      Block (line :: rest) (line :: block)

/-- The block that starts a list of lines, as a list. -/
def blockOf : List Text → List Text
  | [] => []
  | line :: rest =>
    if (definition? line).isSome || startsWithClosing line then
      []
    else if endsWithClosing line then
      [line]
    else
      line :: blockOf rest

theorem block_iff
    (lines block : List Text) :
    Block lines block ↔ block = blockOf lines := by
  induction lines generalizing block with
  | nil =>
    constructor
    · intro derived
      cases derived
      rfl
    · rintro rfl
      exact .exhausted
  | cons line rest induction =>
    have defined : (definition? line).isSome = true ↔ IsDefinition line := by
      rw [← Option.ne_none_iff_isSome, Ne, definition?_eq_none_iff, Classical.not_not]
    have stops :
        ((definition? line).isSome || startsWithClosing line) = true ↔
          IsDefinition line ∨ [')'] <+: line := by
      rw [Bool.or_eq_true, defined]
      exact or_congr_right List.isPrefixOf_iff_prefix
    have terminates : endsWithClosing line = true ↔ [')', ';'] <:+ line :=
      List.isSuffixOf_iff_suffix
    rw [blockOf]
    constructor
    · intro derived
      cases derived with
      | redefined defines => rw [if_pos (stops.mpr (Or.inl defines))]
      | closed inside closes => rw [if_pos (stops.mpr (Or.inr closes))]
      | terminated inside untouched ends =>
        rw [if_neg (mt stops.mp (not_or.mpr ⟨inside, untouched⟩)), if_pos (terminates.mpr ends)]
      | continued inside untouched goesOn later =>
        rw [if_neg (mt stops.mp (not_or.mpr ⟨inside, untouched⟩)),
          if_neg (mt terminates.mp goesOn), (induction _).mp later]
    · rintro rfl
      split
      next stop =>
        by_cases defines : IsDefinition line
        · exact .redefined defines
        · exact .closed defines ((stops.mp stop).resolve_left defines)
      next goes =>
        rcases not_or.mp (mt stops.mpr goes) with ⟨inside, untouched⟩
        split
        next ends => exact .terminated inside untouched (terminates.mp ends)
        next goesOn =>
          exact .continued inside untouched (mt terminates.mpr goesOn) ((induction _).mpr rfl)

/-! ## Columns -/

/-- The columns of a block. -/
def columnsOf (block : List Text) : List Column :=
  block.filterMap column?

theorem column?_isSome_iff
    (line : Text) :
    (column? line).isSome = true ↔ 2 ≤ (Text.words line).length := by
  rw [column?]
  split
  next found => simp [found]
  next few =>
    match words : Text.words line with
    | [] => simp
    | [word] => simp
    | first :: second :: more => exact absurd words (few first second more)

/-- Columns are those of a block when they match its lines of at least two words one by one. -/
def Columns (block : List Text) (columns : List Column) : Prop :=
  List.Forall₂ (fun line column => column? line = some column)
    (block.filter fun line => 2 ≤ (Text.words line).length) columns

theorem columns_iff
    (block : List Text)
    (columns : List Column) :
    Columns block columns ↔ columns = columnsOf block := by
  induction block generalizing columns with
  | nil => simp [Columns, columnsOf]
  | cons line rest induction =>
    rw [Columns, columnsOf, List.filter_cons, List.filterMap_cons]
    cases read : column? line with
    | none =>
      have few : ¬ 2 ≤ (Text.words line).length := by
        rw [← column?_isSome_iff, read]
        simp
      simpa [few, Columns, columnsOf] using induction columns
    | some column =>
      have enough : 2 ≤ (Text.words line).length := by
        rw [← column?_isSome_iff, read]
        rfl
      simp only [enough, decide_true, if_true, List.forall₂_cons_left_iff, read, Option.some.injEq]
      constructor
      · rintro ⟨first, others, rfl, later, rfl⟩
        rw [(induction others).mp later, columnsOf]
      · rintro rfl
        exact ⟨column, columnsOf rest, rfl, (induction _).mpr rfl, rfl⟩

/-! ## Well-formed columns -/

theorem surroundsName_iff
    (character : Char) :
    surroundsName character = true ↔ character ∈ ['"', '\x60', '\'', ','] := by
  simp [surroundsName, or_assoc]

theorem followsType_iff
    (character : Char) :
    followsType character = true ↔ character ∈ [',', ';', ')', '"'] := by
  simp [followsType, or_assoc]

/-- The column that a line declares is well formed. -/
theorem isWellFormed_of_column?
    {line : Text}
    {column : Column}
    (declares : column? line = some column) :
    column.IsWellFormed := by
  rw [column?] at declares
  split at declares
  next name type more words =>
    rcases Option.some.inj declares with rfl
    have nameIsWord : name ∈ Text.words line := by simp [words]
    have typeIsWord : type ∈ Text.words line := by simp [words]
    have ofType (character : Char) (inside : character ∈ typeOfWord type) :
        character ∈ type ∧ character ≠ '(' := by
      have taken := (Text.trimEndWhere_isPrefix followsType _).mem inside
      exact ⟨(List.takeWhile_prefix _).mem taken, by simpa using List.mem_takeWhile_imp taken⟩
    constructor
    · intro character inside
      exact Text.isBlank_of_mem_words nameIsWord character (Text.mem_of_mem_trimWhere inside)
    · intro first starts
      rw [← surroundsName_iff, Text.drops_head?_trimWhere starts]
      exact Bool.false_ne_true
    · intro last ends
      rw [← surroundsName_iff, Text.drops_getLast?_trimWhere ends]
      exact Bool.false_ne_true
    · intro character inside
      exact Text.isBlank_of_mem_words typeIsWord character (ofType character inside).1
    · intro inside
      exact (ofType '(' inside).2 rfl
    · intro last ends
      rw [← followsType_iff, Text.drops_getLast?_trimEndWhere ends]
      exact Bool.false_ne_true
  next => cases declares

/-! ## The pass as a replay of blocks -/

/-- The tables with more columns in the table of this name. -/
def extendedBy (name : Text) (columns : List Column) (tables : List Table) : List Table :=
  tables.map fun table =>
    if table.name = name then { table with columns := table.columns ++ columns } else table

@[simp]
theorem extendedBy_nil
    (name : Text)
    (tables : List Table) :
    extendedBy name [] tables = tables := by
  simp [extendedBy]

theorem extendedBy_extended
    (name : Text)
    (column : Column)
    (columns : List Column)
    (tables : List Table) :
    extendedBy name columns (extended name column tables) =
      extendedBy name (column :: columns) tables := by
  simp only [extendedBy, extended, List.map_map]
  apply List.map_congr_left
  intro table _
  by_cases same : table.name = name
  · simp [same]
  · simp [same]

/-- The tables with exactly these columns in the table of this name, in its place or at the end. -/
def settled (name : Text) (columns : List Column) (tables : List Table) : List Table :=
  extendedBy name columns (started name tables)

/-- The names that the lines select one after the other, each with the lines behind it. -/
def openings (requested : List Text) : List Text → List (Text × List Text)
  | [] => []
  | line :: rest =>
    match selection? requested line with
    | some name => (name, rest) :: openings requested rest
    | none => openings requested rest

/-- The tables after the block behind an opening was read. -/
def replay (tables : List Table) (opening : Text × List Text) : List Table :=
  settled opening.1 (columnsOf (blockOf opening.2)) tables

/-- The tables after the rest of the open block was read. -/
def finished (progress : Progress) (lines : List Text) : List Table :=
  match progress.current with
  | some name => extendedBy name (columnsOf (blockOf lines)) progress.tables
  | none => progress.tables

/-- Reading the first line of the open block leaves the rest of the block to be read. -/
theorem finished_afterBodyLine
    (name : Text)
    (tables : List Table)
    {line : Text}
    (inside : definition? line = none)
    (rest : List Text) :
    finished (afterBodyLine name tables line) rest =
      extendedBy name (columnsOf (blockOf (line :: rest))) tables := by
  rw [afterBodyLine]
  by_cases closes : startsWithClosing line = true
  · simp [closes, finished, blockOf, columnsOf]
  · by_cases ends : endsWithClosing line = true
    · cases read : column? line with
      | none => simp [closes, ends, inside, read, finished, blockOf, columnsOf]
      | some column =>
        simp [closes, ends, inside, read, finished, blockOf, columnsOf, ← extendedBy_extended]
    · cases read : column? line with
      | none => simp [closes, ends, inside, read, finished, blockOf, columnsOf]
      | some column =>
        simp [closes, ends, inside, read, finished, blockOf, columnsOf, extendedBy_extended]

/--
The tables after a pass are those with the open block finished and all later openings replayed. The
induction is on the lines, for every state that the pass may be in.
-/
theorem foldl_afterLine_tables
    (requested : List Text)
    (lines : List Text)
    (progress : Progress) :
    (lines.foldl (afterLine requested) progress).tables =
      (openings requested lines).foldl replay (finished progress lines) := by
  induction lines generalizing progress with
  | nil =>
    cases current : progress.current <;> simp [openings, finished, current, blockOf, columnsOf]
  | cons line rest induction =>
    rw [List.foldl_cons, induction, openings, afterLine]
    cases defined : definition? line with
    | none =>
      rw [selection?, defined]
      cases current : progress.current with
      | none => simp [finished, current]
      | some name =>
        simp only [Option.bind_none]
        rw [finished_afterBodyLine name progress.tables defined]
        simp only [finished, current]
    | some remainder =>
      have untouched : finished progress (line :: rest) = progress.tables := by
        cases current : progress.current <;>
          simp [finished, current, blockOf, defined, columnsOf]
      rw [selection?, defined, Option.bind_some, untouched]
      cases selects : selected? requested remainder with
      | none => simp [finished, selects]
      | some name => simp [finished, replay, settled, selects]

/-- The tables read from a migration are its openings replayed. -/
theorem scan_tables
    (requested : List Text)
    (migration : Text) :
    (scan requested migration).tables =
      (openings requested (significantLines migration)).foldl replay [] :=
  foldl_afterLine_tables requested (significantLines migration) Progress.start

/-! ## Names and columns after a replay -/

theorem names_started
    (name : Text)
    (tables : List Table) :
    (started name tables).map Table.name =
      if name ∈ tables.map Table.name then
        tables.map Table.name
      else
        tables.map Table.name ++ [name] := by
  induction tables with
  | nil => simp [started]
  | cons table others induction =>
    by_cases same : table.name = name
    · simp [started, same]
    · simp only [started, same, if_false, List.map_cons, induction, List.mem_cons,
        Ne.symm same, false_or]
      split <;> rfl

@[simp]
theorem names_extendedBy
    (name : Text)
    (columns : List Column)
    (tables : List Table) :
    (extendedBy name columns tables).map Table.name = tables.map Table.name := by
  rw [extendedBy, List.map_map]
  apply List.map_congr_left
  intro table _
  simp only [Function.comp_apply]
  split <;> rfl

/-- When the names are distinct, a started table is empty and the others stay as they were. -/
theorem mem_started
    {name : Text}
    {tables : List Table}
    (distinct : (tables.map Table.name).Nodup)
    {table : Table}
    (member : table ∈ started name tables) :
    table = ⟨name, []⟩ ∨ table ∈ tables ∧ table.name ≠ name := by
  induction tables with
  | nil => exact Or.inl (by simpa [started] using member)
  | cons first others induction =>
    rw [List.map_cons, List.nodup_cons] at distinct
    rw [started] at member
    split at member
    next same =>
      rcases List.mem_cons.mp member with fresh | later
      · exact Or.inl fresh
      · refine Or.inr ⟨List.mem_cons_of_mem _ later, ?_⟩
        rintro rfl
        exact distinct.1 (same ▸ List.mem_map_of_mem later)
    next differs =>
      rcases List.mem_cons.mp member with rfl | later
      · exact Or.inr ⟨List.mem_cons_self, differs⟩
      · exact (induction distinct.2 later).imp_right (And.imp_left (List.mem_cons_of_mem _))

theorem mem_settled
    {name : Text}
    {columns : List Column}
    {tables : List Table}
    (distinct : (tables.map Table.name).Nodup)
    {table : Table}
    (member : table ∈ settled name columns tables) :
    table = ⟨name, columns⟩ ∨ table ∈ tables ∧ table.name ≠ name := by
  rcases List.mem_map.mp member with ⟨before, inside, rfl⟩
  rcases mem_started distinct inside with rfl | ⟨kept, differs⟩
  · exact Or.inl (by simp)
  · exact Or.inr (by simpa [differs] using kept)

/-- The first occurrences in a list come in the order in which they stand there. -/
theorem eraseDups_pairwise
    (names : List Text) :
    names.eraseDups.Pairwise fun earlier later =>
      earlier ≠ later ∧ ∃ before after, names = before ++ earlier :: after ∧ later ∉ before := by
  induction names using List.reverseRecOn with
  | nil => simp
  | append_singleton names name induction =>
    have extended := induction.imp fun {earlier later} =>
      And.imp_right fun ⟨before, after, equal, absent⟩ =>
        (⟨before, after ++ [name], by simp [equal], absent⟩ :
          ∃ before after, names ++ [name] = before ++ earlier :: after ∧ later ∉ before)
    rw [List.eraseDups_append]
    by_cases known : name ∈ names
    · simpa [List.removeAll, known] using extended
    · have fresh : ([name].removeAll names).eraseDups = [name] := by
        simp [List.removeAll, known, List.eraseDups_cons]
      rw [fresh, List.pairwise_append]
      refine ⟨extended, List.pairwise_singleton _ _, ?_⟩
      intro earlier inside later last
      rcases List.mem_singleton.mp last with rfl
      have member : earlier ∈ names := List.mem_eraseDups.mp inside
      rcases List.append_of_mem member with ⟨before, after, equal⟩
      refine ⟨fun same => known (same ▸ member), before, after ++ [later], by simp [equal], ?_⟩
      intro found
      exact known (by simp [equal, found])

theorem names_replay
    (selected : List (Text × List Text)) :
    (selected.foldl replay []).map Table.name = (selected.map Prod.fst).eraseDups := by
  induction selected using List.reverseRecOn with
  | nil => rfl
  | append_singleton selected opening induction =>
    rw [List.foldl_concat, replay, settled, names_extendedBy, names_started, induction,
      List.map_append, List.eraseDups_append]
    by_cases known : opening.1 ∈ selected.map Prod.fst
    · simp [known, List.removeAll]
    · simp [known, List.removeAll, List.eraseDups_cons]

theorem names_replay_nodup
    (selected : List (Text × List Text)) :
    ((selected.foldl replay []).map Table.name).Nodup := by
  rw [names_replay]
  exact (eraseDups_pairwise _).imp And.left

/-- A table has the columns of the block behind the last opening of its name. -/
theorem last_opening_of_mem_replay
    {selected : List (Text × List Text)}
    {table : Table}
    (member : table ∈ selected.foldl replay []) :
    ∃ before behind after,
      selected = before ++ (table.name, behind) :: after ∧
        (∀ opening ∈ after, opening.1 ≠ table.name) ∧
        table.columns = columnsOf (blockOf behind) := by
  induction selected using List.reverseRecOn with
  | nil => simp at member
  | append_singleton selected opening induction =>
    rw [List.foldl_concat] at member
    rcases mem_settled (names_replay_nodup selected) member with rfl | ⟨kept, differs⟩
    · exact ⟨selected, opening.2, [], by simp, by simp, rfl⟩
    · rcases induction kept with ⟨before, behind, after, equal, last, columns⟩
      refine ⟨before, behind, after ++ [opening], by simp [equal], ?_, columns⟩
      intro other inside
      rcases List.mem_append.mp inside with earlier | final
      · exact last other earlier
      · rw [List.mem_singleton.mp final]
        exact Ne.symm differs

/-! ## Where columns come from -/

/-- Every column of a table that was read is declared by some line. -/
theorem line_of_mem_columns
    {requested : List Text}
    {migration : Text}
    {table : Table}
    (read : table ∈ (scan requested migration).tables)
    {column : Column}
    (member : column ∈ table.columns) :
    ∃ line, column? line = some column := by
  rw [scan_tables] at read
  rcases last_opening_of_mem_replay read with ⟨_, behind, _, _, _, columns⟩
  rw [columns] at member
  rcases List.mem_filterMap.mp member with ⟨line, _, declares⟩
  exact ⟨line, declares⟩

/-! ## What reading gives -/

/-- Reading gives the tables of the pass, if there are any. -/
theorem tablesOf_eq_ok_iff
    (migration : Text)
    (requested : List Text)
    (tables : List Table) :
    tablesOf migration requested = .ok tables ↔
      tables ≠ [] ∧ (scan requested migration).tables = tables := by
  rw [tablesOf]
  cases read : (scan requested migration).tables with
  | nil => simp [eq_comm]
  | cons table others =>
    rw [Except.ok.injEq, iff_and_self]
    rintro rfl
    exact List.cons_ne_nil table others

/-- Reading fails in one way only. -/
theorem error_of_tablesOf
    {migration : Text}
    {requested : List Text}
    {error : MigrationError}
    (fails : tablesOf migration requested = .error error) :
    error = .tablesNotFound requested := by
  rw [tablesOf] at fails
  split at fails
  · exact (Except.error.inj fails).symm
  · cases fails

end Migration

end Scaffold
