import Scaffold.Proofs.ClosedTables
import Scaffold.Proofs.TextLines

/-!
# Migrations one after the other

A migration that follows another on a new line overrides it table by table, provided that no table
is left open at the seam: the first migration ends outside every requested table, or the second
starts with a definition line. The significant lines of both are then read as they are alone. The
tables of the first come first in their order, those that only the second defines come behind them,
and a table that the second defines is the one it gives (`Overrides`).

Line endings make no difference to this, because every significant line is a trimmed piece of the
text between line feeds (`significantLines_eq_pieces`).
-/

namespace Scaffold.Migration

/-! ## Significant lines -/

theorem filter_map_linesOfPieces
    (pieces : List Text) :
    ((Text.linesOfPieces pieces).map Text.trim).filter isSignificant =
      (pieces.map Text.trim).filter isSignificant := by
  fun_induction Text.linesOfPieces pieces with
  | case1 => rfl
  | case2 last silent =>
    rw [List.isEmpty_iff.mp silent]
    rfl
  | case3 last telling => rfl
  | case4 line next others hypothesis =>
    rw [List.map_cons, List.map_cons, List.filter_cons, List.filter_cons, hypothesis,
      Text.trim_withoutReturn]

/-- The significant lines of a migration are those of its pieces between line feeds. -/
theorem significantLines_eq_pieces
    (migration : Text) :
    significantLines migration =
      ((Text.pieces (· == '\n') migration).map Text.trim).filter isSignificant :=
  filter_map_linesOfPieces _

/-- A migration that follows another on a new line adds its significant lines. -/
theorem significantLines_append
    (first second : Text) :
    significantLines (first ++ '\n' :: second) =
      significantLines first ++ significantLines second := by
  simp only [significantLines_eq_pieces]
  rw [Text.pieces_append_cons rfl, List.map_append, List.filter_append]

/-! ## Where a scan ends -/

/-- The significant lines end outside every requested table: no line is a definition line, or the
last one selects no table, or a later line closes the table that it selects. -/
def EndsOutside (requested lines : List Text) : Prop :=
  (∀ line ∈ lines, ¬ IsDefinition line) ∨
    ∃ before line after,
      lines = before ++ line :: after ∧
        IsDefinition line ∧
        (∀ other ∈ after, ¬ IsDefinition other) ∧
        ((∀ name, ¬ Selects requested line name) ∨ ∃ other ∈ after, Closes other)

/-- The first significant line is a definition line. -/
def StartsWithDefinition (lines : List Text) : Prop :=
  ∃ line rest, lines = line :: rest ∧ IsDefinition line

theorem not_closes_iff
    (line : Text) :
    ¬ Closes line ↔ startsWithClosing line = false ∧ endsWithClosing line = false := by
  rw [Closes, not_or, ← Bool.not_eq_true, ← Bool.not_eq_true]
  exact and_congr (not_congr List.isPrefixOf_iff_prefix.symm)
    (not_congr List.isSuffixOf_iff_suffix.symm)

/-- Through lines that define nothing a table stays open as long as none of them closes it. -/
theorem isSome_current_foldl_iff
    (requested : List Text)
    (progress : Progress)
    {lines : List Text}
    (inside : ∀ line ∈ lines, ¬ IsDefinition line) :
    (lines.foldl (afterLine requested) progress).current.isSome = true ↔
      progress.current.isSome = true ∧ ∀ line ∈ lines, ¬ Closes line := by
  induction lines generalizing progress with
  | nil => simp
  | cons line lines hypothesis =>
    rw [List.forall_mem_cons] at inside
    have defines := (definition?_eq_none_iff line).mpr inside.1
    rw [List.foldl_cons, hypothesis _ inside.2, isSome_current_afterLine_iff _ _ defines,
      List.forall_mem_cons, not_closes_iff, and_assoc]

/-- After a definition line a table is open exactly when the line selects one. -/
theorem isSome_current_of_definition
    (requested : List Text)
    (progress : Progress)
    {line : Text}
    (defines : IsDefinition line) :
    (afterLine requested progress line).current.isSome = true ↔
      ∃ name, Selects requested line name := by
  simp only [← selection?_eq_some_iff, ← Option.isSome_iff_exists]
  rcases defines with ⟨remainder, starts⟩
  have defined := (definition?_eq_some_iff line remainder).mpr starts
  rw [afterLine, selection?, defined, Option.bind_some]
  dsimp only
  cases selected? requested remainder with
  | none => rfl
  | some name => rfl

/-- Lines without a definition line, or with a last one. -/
theorem undefined_or_last
    (lines : List Text) :
    (∀ line ∈ lines, ¬ IsDefinition line) ∨
      ∃ before line after,
        lines = before ++ line :: after ∧
          IsDefinition line ∧
          ∀ other ∈ after, ¬ IsDefinition other := by
  induction lines with
  | nil => exact Or.inl (by simp)
  | cons line lines hypothesis =>
    rcases hypothesis with undefined | ⟨before, found, after, rfl, defines, last⟩
    · by_cases defines : IsDefinition line
      · exact Or.inr ⟨[], line, lines, rfl, defines, undefined⟩
      · exact Or.inl (List.forall_mem_cons.mpr ⟨defines, undefined⟩)
    · exact Or.inr ⟨line :: before, found, after, rfl, defines, last⟩

/-- The lines end outside every requested table exactly when no table is open after them. -/
theorem endsOutside_iff
    (requested lines : List Text) :
    EndsOutside requested lines ↔ (readLines requested lines).current = none := by
  have open_iff {before after : List Text} {line : Text} (defines : IsDefinition line)
      (last : ∀ other ∈ after, ¬ IsDefinition other) :
      (readLines requested (before ++ line :: after)).current.isSome = true ↔
        (∃ name, Selects requested line name) ∧ ∀ other ∈ after, ¬ Closes other := by
    rw [readLines_append, List.foldl_cons, isSome_current_foldl_iff requested _ last,
      isSome_current_of_definition requested _ defines]
  have shut (progress : Progress) :
      progress.current = none ↔ ¬ progress.current.isSome = true := by
    simp
  rw [shut]
  constructor
  · rintro (undefined | ⟨before, line, after, rfl, defines, last, outside⟩)
    · rw [readLines, isSome_current_foldl_iff requested _ undefined]
      rintro ⟨current, -⟩
      cases current
    · rw [open_iff defines last]
      rintro ⟨⟨name, selects⟩, unclosed⟩
      rcases outside with unselected | ⟨other, isMember, closes⟩
      · exact unselected name selects
      · exact unclosed other isMember closes
  · intro ended
    rcases undefined_or_last lines with undefined | ⟨before, line, after, rfl, defines, last⟩
    · exact Or.inl undefined
    · rw [open_iff defines last] at ended
      refine Or.inr ⟨before, line, after, rfl, defines, last, ?_⟩
      by_cases unselected : ∀ name, ¬ Selects requested line name
      · exact Or.inl unselected
      · right
        by_contra unclosed
        apply ended
        exact ⟨by simpa using unselected, by simpa using unclosed⟩

/-! ## Tables that override others -/

/-- The table of this name. -/
def named? (tables : List Table) (name : Text) : Option Table :=
  tables.find? (·.name == name)

/-- The tables of a whole are those of its earlier part, where the later part does not define them,
and those of the later part. The names of the earlier part come first. -/
structure Overrides (earlier later whole : List Table) : Prop where
  names :
    whole.map Table.name =
      earlier.map Table.name ++
        (later.map Table.name).filter fun name => name ∉ earlier.map Table.name
  tables : ∀ name, named? whole name = (named? later name).or (named? earlier name)

theorem named?_cons
    (table : Table)
    (others : List Table)
    (name : Text) :
    named? (table :: others) name =
      if table.name = name then some table else named? others name := by
  rw [named?, List.find?_cons]
  by_cases same : table.name = name
  · simp [same]
  · have differ : (table.name == name) = false := by simpa using same
    rw [differ, if_neg same, named?]

theorem named?_started
    (name other : Text)
    (tables : List Table) :
    named? (started name tables) other =
      if other = name then some ⟨name, []⟩ else named? tables other := by
  induction tables with
  | nil =>
    rw [started, named?_cons]
    simp only [eq_comm]
  | cons table others hypothesis =>
    rw [started, named?_cons table]
    by_cases here : table.name = name
    · rw [if_pos here, named?_cons, here]
      by_cases same : other = name
      · simp [same]
      · simp [same, Ne.symm same]
    · rw [if_neg here, named?_cons, hypothesis]
      by_cases found : table.name = other
      · simp [found, found ▸ here]
      · simp [found]

theorem named?_extendedBy
    (name other : Text)
    (columns : List Column)
    (tables : List Table) :
    named? (extendedBy name columns tables) other =
      (named? tables other).map fun table =>
        if table.name = name then { table with columns := table.columns ++ columns } else table := by
  rw [named?, extendedBy, List.find?_map, named?]
  congr 2
  funext table
  rw [Function.comp_apply]
  split
  · rfl
  · rfl

/-- Settling a table gives it its columns and leaves the others alone. -/
theorem named?_settled
    (name other : Text)
    (columns : List Column)
    (tables : List Table) :
    named? (settled name columns tables) other =
      if other = name then some ⟨name, columns⟩ else named? tables other := by
  rw [settled, named?_extendedBy, named?_started]
  by_cases same : other = name
  · simp [same]
  · rw [if_neg same, if_neg same]
    cases found : named? tables other with
    | none => rfl
    | some table =>
      have itsName : table.name = other := by
        simpa using List.find?_some found
      rw [Option.map_some, if_neg (itsName ▸ same)]

/-- A name that is added to the later names comes last among all names, unless it is known. -/
theorem added_to_later
    (earlier later : List Text)
    (name : Text) :
    (if name ∈ earlier ++ later.filter (· ∉ earlier) then
        earlier ++ later.filter (· ∉ earlier)
      else
        earlier ++ later.filter (· ∉ earlier) ++ [name]) =
      earlier ++ (if name ∈ later then later else later ++ [name]).filter (· ∉ earlier) := by
  by_cases inEarlier : name ∈ earlier
  · by_cases inLater : name ∈ later
    · simp [inEarlier, inLater]
    · simp [inEarlier, inLater]
  · by_cases inLater : name ∈ later
    · simp [inEarlier, inLater]
    · simp [inEarlier, inLater]

/-- Settling a table in the later part and in the whole keeps the one overriding the other. -/
theorem Overrides.settled
    {earlier later whole : List Table}
    (overrides : Overrides earlier later whole)
    (name : Text)
    (columns : List Column) :
    Overrides earlier (settled name columns later) (settled name columns whole) where
  names := by
    rw [Migration.settled, Migration.settled, names_extendedBy, names_extendedBy, names_started,
      names_started, overrides.names]
    exact added_to_later _ _ name
  tables := by
    intro other
    rw [named?_settled, named?_settled, overrides.tables]
    split
    · rfl
    · rfl

/-- Openings that are replayed behind tables override these. -/
theorem overrides_replay
    (earlier : List Table)
    (openings : List (Text × List Text)) :
    Overrides earlier (openings.foldl replay []) (openings.foldl replay earlier) := by
  induction openings using List.reverseRecOn with
  | nil => exact ⟨by simp, fun _ => rfl⟩
  | append_singleton openings opening hypothesis =>
    rw [List.foldl_concat, List.foldl_concat]
    exact hypothesis.settled opening.1 (columnsOf (blockOf opening.2))

/-- Lines that are read after others override their tables, when no table is open in between or the
later lines start with a definition. -/
theorem overrides_readLines
    {requested before after : List Text}
    (seam : EndsOutside requested before ∨ StartsWithDefinition after) :
    Overrides (readLines requested before).tables (readLines requested after).tables
      (readLines requested (before ++ after)).tables := by
  have untouched :
      finished (readLines requested before) after = (readLines requested before).tables := by
    rcases seam with outside | ⟨line, rest, rfl, remainder, defines⟩
    · rw [finished, (endsOutside_iff requested before).mp outside]
    · rw [← definition?_eq_some_iff] at defines
      cases current : (readLines requested before).current with
      | none => simp [finished, current]
      | some name => simp [finished, current, blockOf, defines, columnsOf]
  rw [readLines_append, foldl_afterLine_tables, untouched, tables_readLines requested after]
  exact overrides_replay _ _

/-! ## Reading joined migrations -/

/-- The tables that were read, none if reading failed. -/
def found : Except MigrationError (List Table) → List Table
  | .ok tables => tables
  | .error _ => []

theorem found_tablesOf
    (migration : Text)
    (requested : List Text) :
    found (tablesOf migration requested) =
      (readLines requested (significantLines migration)).tables := by
  rw [tablesOf, ← scan_eq_readLines]
  cases read : (scan requested migration).tables with
  | nil => rfl
  | cons table others => rfl

/-- Reading fails when it finds no table. -/
theorem tablesOf_eq_error_iff
    (migration : Text)
    (requested : List Text) :
    tablesOf migration requested = .error (.tablesNotFound requested) ↔
      found (tablesOf migration requested) = [] := by
  rw [tablesOf]
  cases read : (scan requested migration).tables with
  | nil => simp [found]
  | cons table others => simp [found]

/-- A name that no line selects has no table. -/
theorem named?_of_unselected
    {requested : List Text}
    {migration name : Text}
    (unselected : ∀ line ∈ significantLines migration, ¬ Selects requested line name) :
    named? (found (tablesOf migration requested)) name = none := by
  rw [found_tablesOf, named?, List.find?_eq_none]
  intro table isMember same
  rw [tables_readLines] at isMember
  rcases
      (mem_names_replay_iff requested (significantLines migration) name).mp
        ⟨table, isMember, by simpa using same⟩ with
    ⟨line, inLines, selects⟩
  exact unselected line inLines selects

theorem overrides_tablesOf
    {requested : List Text}
    {first second : Text}
    (seam :
      EndsOutside requested (significantLines first) ∨
        StartsWithDefinition (significantLines second)) :
    Overrides (found (tablesOf first requested)) (found (tablesOf second requested))
      (found (tablesOf (first ++ '\n' :: second) requested)) := by
  rw [found_tablesOf, found_tablesOf, found_tablesOf, significantLines_append]
  exact overrides_readLines seam

theorem Overrides.eq_nil_iff
    {earlier later whole : List Table}
    (overrides : Overrides earlier later whole) :
    whole = [] ↔ earlier = [] ∧ later = [] := by
  rw [← List.map_eq_nil_iff, overrides.names, List.append_eq_nil_iff, List.map_eq_nil_iff]
  constructor
  · rintro ⟨rfl, none⟩
    exact ⟨rfl, by simpa using none⟩
  · rintro ⟨rfl, rfl⟩
    exact ⟨rfl, rfl⟩

/--
A migration that follows another on a new line overrides it, when no table is left open in between
or the second starts with a definition, and no table is found exactly when none is found in either.
So text before a block that starts with a definition, or behind one that leaves no table open, does
not change a table that the text does not define.
-/
theorem joined_migrations_override
    (requested : List Text) :
    (∀ first second,
      EndsOutside requested (significantLines first) ∨
          StartsWithDefinition (significantLines second) →
        Overrides (found (tablesOf first requested)) (found (tablesOf second requested))
            (found (tablesOf (first ++ '\n' :: second) requested)) ∧
          (tablesOf (first ++ '\n' :: second) requested = .error (.tablesNotFound requested) ↔
            tablesOf first requested = .error (.tablesNotFound requested) ∧
              tablesOf second requested = .error (.tablesNotFound requested))) ∧
      ∀ block other name,
        (∀ line ∈ significantLines other, ¬ Selects requested line name) →
          (StartsWithDefinition (significantLines block) →
            named? (found (tablesOf (other ++ '\n' :: block) requested)) name =
              named? (found (tablesOf block requested)) name) ∧
            (EndsOutside requested (significantLines block) →
              named? (found (tablesOf (block ++ '\n' :: other) requested)) name =
                named? (found (tablesOf block requested)) name) := by
  constructor
  · intro first second seam
    have overrides := overrides_tablesOf seam
    refine ⟨overrides, ?_⟩
    simp only [tablesOf_eq_error_iff]
    exact overrides.eq_nil_iff
  · intro block other name unselected
    have absent := named?_of_unselected unselected
    constructor
    · intro starts
      rw [(overrides_tablesOf (Or.inr starts)).tables, absent, Option.or_none]
    · intro outside
      rw [(overrides_tablesOf (Or.inl outside)).tables, absent, Option.none_or]

/-- A migration that defines one table and ends in a carriage return. -/
def usersMigration : Text :=
  "CREATE TABLE users (\r\n  id int\r\n);\r".toList

/-- A migration that defines another table, and the first one again. -/
def logsAndUsersMigration : Text :=
  "-- later\nCREATE TABLE logs (\n  at timestamp\n);\nCREATE TABLE users (\n  id bigint,".toList

/-- A migration that defines neither table. -/
def indexMigration : Text :=
  "CREATE INDEX on_users;\nCREATE TABLE posts (\n  id int,".toList

theorem users_are_overridden :
    Overrides (found (tablesOf usersMigration ["users".toList, "logs".toList]))
        (found (tablesOf logsAndUsersMigration ["users".toList, "logs".toList]))
        (found
          (tablesOf (usersMigration ++ '\n' :: logsAndUsersMigration)
            ["users".toList, "logs".toList])) ∧
      tablesOf (usersMigration ++ '\n' :: logsAndUsersMigration)
          ["users".toList, "logs".toList] =
        .ok
          [⟨"users".toList, [⟨"id".toList, "bigint".toList, true⟩]⟩,
            ⟨"logs".toList, [⟨"at".toList, "timestamp".toList, true⟩]⟩] ∧
      named?
          (found
            (tablesOf (usersMigration ++ '\n' :: indexMigration)
              ["users".toList, "logs".toList]))
          "users".toList =
        some ⟨"users".toList, [⟨"id".toList, "int".toList, true⟩]⟩ := by
  have outside :
      EndsOutside ["users".toList, "logs".toList] (significantLines usersMigration) := by
    rw [endsOutside_iff]
    decide +kernel
  have unselected :
      ∀ line ∈ significantLines indexMigration,
        ¬ Selects ["users".toList, "logs".toList] line "users".toList := by
    simp only [← selection?_eq_some_iff]
    decide +kernel
  rcases joined_migrations_override ["users".toList, "logs".toList] with ⟨joined, around⟩
  refine
    ⟨(joined usersMigration logsAndUsersMigration (Or.inl outside)).1, by decide +kernel, ?_⟩
  rw [(around usersMigration indexMigration "users".toList unselected).2 outside]
  decide +kernel

end Scaffold.Migration
