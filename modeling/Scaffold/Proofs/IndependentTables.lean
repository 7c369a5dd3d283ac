import Scaffold.Proofs.WellFormedTables

/-!
# Tables that are read independently

A migration can be read for several tables at once. What is read for one of them does not depend on
the others, as long as no definition line could be taken for two of them; nor does it depend on the
order in which they are asked for.

The table of a name is settled by the last line that selects the name, together with the block
behind this line, and a block does not depend on what was asked for (`named?_replay`). So two
readings agree about a name as soon as the same lines select it (`named?_readLines_congr`), though
one of them has another table open where the other has none.
-/

namespace Scaffold.Migration

/-! ## The last opening of a name -/

/-- Of the openings of a name, the last one settles the table. -/
theorem named?_replay
    (name : Text)
    (opened : List (Text × List Text)) :
    named? (opened.foldl replay []) name =
      (opened.filter (·.1 = name)).getLast?.map fun opening =>
        ⟨name, columnsOf (blockOf opening.2)⟩ := by
  induction opened using List.reverseRecOn with
  | nil => rfl
  | append_singleton opened opening hypothesis =>
    rw [List.foldl_concat, replay, named?_settled, List.filter_append, hypothesis]
    -- an opening of another name is filtered out, and settles another table
    by_cases same : opening.1 = name
    · simp [same]
    · simp [same, Ne.symm same]

/-- The openings of a name are told by the lines that select it. -/
theorem openings_filter_congr
    {requested other : List Text}
    {name : Text}
    {lines : List Text}
    (alike :
      ∀ line ∈ lines,
        selection? requested line = some name ↔ selection? other line = some name) :
    (openings requested lines).filter (·.1 = name) =
      (openings other lines).filter (·.1 = name) := by
  have ofLine (requested : List Text) (line : Text) (rest : List Text) :
      (openings requested (line :: rest)).filter (·.1 = name) =
        if selection? requested line = some name then
          (name, rest) :: (openings requested rest).filter (·.1 = name)
        else
          (openings requested rest).filter (·.1 = name) := by
    rw [openings]
    cases selection? requested line with
    | none => simp
    | some chosen =>
      by_cases same : chosen = name
      · simp [same]
      · simp [same]
  induction lines with
  | nil => rfl
  | cons line rest hypothesis =>
    rw [List.forall_mem_cons] at alike
    rw [ofLine, ofLine, hypothesis alike.2]
    exact if_congr alike.1 rfl rfl

/-- Two readings agree about a name when the same lines select it. -/
theorem named?_readLines_congr
    {requested other : List Text}
    {name : Text}
    {lines : List Text}
    (alike :
      ∀ line ∈ lines,
        selection? requested line = some name ↔ selection? other line = some name) :
    named? (readLines requested lines).tables name =
      named? (readLines other lines).tables name := by
  rw [tables_readLines, tables_readLines, named?_replay, named?_replay,
    openings_filter_congr alike]

/-- Two readings are the same when all lines select alike. -/
theorem tables_readLines_congr
    {requested other : List Text}
    {lines : List Text}
    (alike : ∀ line ∈ lines, selection? requested line = selection? other line) :
    (readLines requested lines).tables = (readLines other lines).tables := by
  have same : openings requested lines = openings other lines := by
    induction lines with
    | nil => rfl
    | cons line rest hypothesis =>
      rw [List.forall_mem_cons] at alike
      rw [openings, openings, alike.1, hypothesis alike.2]
  rw [tables_readLines, tables_readLines, same]

/-! ## Which lines select a name -/

/-- No definition line could be taken for two of the requested names. -/
def Apart (requested lines : List Text) : Prop :=
  ∀ line ∈ lines, ∀ remainder, Defines line remainder →
    ∀ left ∈ requested, ∀ right ∈ requested,
      left ≠ [] → right ≠ [] → left <:+: remainder → right <:+: remainder → left = right

theorem Apart.subset
    {requested other lines : List Text}
    (apart : Apart requested lines)
    (fewer : other ⊆ requested) :
    Apart other lines := by
  intro line isLine remainder defines left inLeft right inRight
  exact apart line isLine remainder defines left (fewer inLeft) right (fewer inRight)

/-- Without rivals, a name is selected by the definition lines that contain it. -/
theorem selection?_eq_some_iff_of_apart
    {requested lines : List Text}
    (apart : Apart requested lines)
    {line : Text}
    (isLine : line ∈ lines)
    (name : Text) :
    selection? requested line = some name ↔
      name ∈ requested ∧ name ≠ [] ∧ ∃ remainder, Defines line remainder ∧ name <:+: remainder := by
  constructor
  · intro selects
    rcases (selection?_eq_some_iff requested line name).mp selects with
      ⟨remainder, defines, telling, found, before, after, rfl, -⟩
    exact ⟨by simp, telling, remainder, defines, found⟩
  · rintro ⟨isRequested, telling, remainder, defines, found⟩
    rw [selection?, (definition?_eq_some_iff line remainder).mpr defines, Option.bind_some]
    cases selects : selected? requested remainder with
    | none =>
      rw [selected?, List.find?_eq_none] at selects
      have rejected := selects name isRequested
      rw [Bool.and_eq_true, Text.contains_iff, Bool.not_eq_true', List.isEmpty_eq_false_iff]
        at rejected
      exact absurd ⟨telling, found⟩ rejected
    | some chosen =>
      -- another name would stand in the same definition line
      have isChosen := selected?_sound selects
      have inChosen := ((selected?_eq_some_iff requested remainder chosen).mp selects).2.1
      rw [apart line isLine remainder defines chosen isChosen.1 name isRequested isChosen.2 telling
        inChosen found]

/-- The order of the requested names makes no difference without rivals. -/
theorem selection?_eq_of_perm
    {requested other lines : List Text}
    (permuted : requested.Perm other)
    (apart : Apart requested lines)
    {line : Text}
    (isLine : line ∈ lines) :
    selection? requested line = selection? other line := by
  apply Option.ext
  intro name
  rw [selection?_eq_some_iff_of_apart apart isLine,
    selection?_eq_some_iff_of_apart (apart.subset permuted.symm.subset) isLine, permuted.mem_iff]

/-- A name that no earlier name takes a line from is selected by the lines that select it alone. -/
theorem selection?_eq_some_iff_of_first
    {before after : List Text}
    {line name : Text}
    (first :
      ∀ remainder, Defines line remainder → name <:+: remainder →
        ∀ other ∈ before, other = [] ∨ ¬ other <:+: remainder) :
    selection? (before ++ name :: after) line = some name ↔ selection? [name] line = some name := by
  rw [selection?_eq_some_iff, selection?_eq_some_iff]
  constructor
  · rintro ⟨remainder, defines, telling, found, -⟩
    exact ⟨remainder, defines, telling, found, [], [], rfl, List.forall_mem_nil _⟩
  · rintro ⟨remainder, defines, telling, found, -⟩
    exact
      ⟨remainder, defines, telling, found, before, after, rfl, first remainder defines found⟩

/-! ## Reading for one table and for several -/

/-- A reading for several tables gives the table of a name exactly when the reading for this name
alone gives it, and gives none exactly when the other one fails. -/
def ReadAsAlone (requested : List Text) (migration name : Text) : Prop :=
  (∀ table,
    named? (found (tablesOf migration requested)) name = some table ↔
      tablesOf migration [name] = .ok [table]) ∧
    (named? (found (tablesOf migration requested)) name = none ↔
      tablesOf migration [name] = .error (.tablesNotFound [name]))

theorem readAsAlone_single
    (migration name : Text) :
    ReadAsAlone [name] migration name := by
  rw [ReadAsAlone]
  cases read : tablesOf migration [name] with
  | error error =>
    rw [error_of_tablesOf read]
    simp [found, named?]
  | ok tables =>
    rcases tablesOf_single read with ⟨table, rfl, itsName⟩
    simp [found, named?_cons, itsName]

theorem readAsAlone_of_alike
    {requested : List Text}
    {migration name : Text}
    (alike :
      ∀ line ∈ significantLines migration,
        selection? requested line = some name ↔ selection? [name] line = some name) :
    ReadAsAlone requested migration name := by
  have alone := readAsAlone_single migration name
  rw [ReadAsAlone, found_tablesOf, ← named?_readLines_congr alike, ← found_tablesOf] at alone
  exact alone

/--
A reading for several tables does not depend on their order, and every table is the one that is
read for its name alone, as long as no definition line could be taken for two of the names. Even
otherwise a table is the one that is read for its name alone, as long as no earlier name stands in a
definition line with this name.
-/
theorem tables_are_read_independently
    (migration : Text) :
    (∀ requested other,
      requested.Perm other →
        Apart requested (significantLines migration) →
          (∀ tables,
            tablesOf migration requested = .ok tables ↔ tablesOf migration other = .ok tables) ∧
            ∀ name ∈ requested, ReadAsAlone requested migration name) ∧
      ∀ before name after,
        (∀ line ∈ significantLines migration, ∀ remainder,
          Defines line remainder → name <:+: remainder →
            ∀ other ∈ before, other = [] ∨ ¬ other <:+: remainder) →
          ReadAsAlone (before ++ name :: after) migration name := by
  constructor
  · intro requested other permuted apart
    constructor
    · intro tables
      have same :=
        tables_readLines_congr fun line isLine => selection?_eq_of_perm permuted apart isLine
      rw [tablesOf_eq_ok_iff, tablesOf_eq_ok_iff, scan_eq_readLines, scan_eq_readLines, same]
    · intro name isRequested
      apply readAsAlone_of_alike
      intro line isLine
      have apartAlone := apart.subset (List.cons_subset.mpr ⟨isRequested, List.nil_subset _⟩)
      rw [selection?_eq_some_iff_of_apart apart isLine,
        selection?_eq_some_iff_of_apart apartAlone isLine]
      simp [isRequested]
  · intro before name after first
    apply readAsAlone_of_alike
    intro line isLine
    exact selection?_eq_some_iff_of_first (first line isLine)

/-- A migration that never closes its first table, and defines it again at the end. -/
def blogMigration : Text :=
  ("create table posts (\n  id int\nCREATE TABLE users (\n  id bigint\n);\n" ++
    "CREATE TABLE posts (\n  title text,").toList

theorem blog_tables_are_independent :
    ["users".toList, "posts".toList].Perm ["posts".toList, "users".toList] ∧
      Apart ["users".toList, "posts".toList] (significantLines blogMigration) ∧
      tablesOf blogMigration ["users".toList, "posts".toList] =
        .ok
          [⟨"posts".toList, [⟨"title".toList, "text".toList, true⟩]⟩,
            ⟨"users".toList, [⟨"id".toList, "bigint".toList, true⟩]⟩] ∧
      tablesOf blogMigration ["posts".toList] =
        .ok [⟨"posts".toList, [⟨"title".toList, "text".toList, true⟩]⟩] ∧
      ReadAsAlone ["logs".toList, "users".toList, "user".toList] blogMigration "users".toList := by
  have permuted : ["users".toList, "posts".toList].Perm ["posts".toList, "users".toList] :=
    List.Perm.swap _ _ _
  have apart : Apart ["users".toList, "posts".toList] (significantLines blogMigration) := by
    simp only [Apart, ← definition?_eq_some_iff, ← Option.mem_def]
    decide +kernel
  have first :
      ∀ line ∈ significantLines blogMigration, ∀ remainder,
        Defines line remainder → "users".toList <:+: remainder →
          ∀ other ∈ ["logs".toList], other = [] ∨ ¬ other <:+: remainder := by
    simp only [← definition?_eq_some_iff, ← Option.mem_def]
    decide +kernel
  have swapped :
      tablesOf blogMigration ["posts".toList, "users".toList] =
        .ok
          [⟨"posts".toList, [⟨"title".toList, "text".toList, true⟩]⟩,
            ⟨"users".toList, [⟨"id".toList, "bigint".toList, true⟩]⟩] := by
    decide +kernel
  rcases tables_are_read_independently blogMigration with ⟨anyOrder, anyCompany⟩
  rcases anyOrder _ _ permuted apart with ⟨ordered, alone⟩
  have both := (ordered _).mpr swapped
  refine ⟨permuted, apart, both, ?_, anyCompany ["logs".toList] _ ["user".toList] first⟩
  rw [← (alone "posts".toList (by decide)).1, both]
  decide +kernel

end Scaffold.Migration
