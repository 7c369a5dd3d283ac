import Scaffold.Manifest.Validation
import Scaffold.Proofs.TextLines
import Scaffold.Proofs.TextOccurrences

/-!
# The first fault of a manifest

A manifest is valid when the paths of its project are given and its tables can be listed together
(`Manifest.IsValid`). Otherwise it has a first violation: the paths come before the tables, and the
first table that violates something is the one that cannot be listed behind those before it
(`Manifest.FirstViolation`). Validation accepts exactly the valid manifests and reports the first
violation of any other. A name that is listed twice is reported with its places when searches from
left to right find two of them, whichever quotes they are in.
-/

namespace Scaffold

open Identifier (isIdentifier)

/-! ## Valid manifests -/

/-- Tables can be listed together: every name has a character that is not white space, no name
occurs twice, and every entity that is given is an identifier. -/
structure AreListable (tables : List ListedTable) : Prop where
  named : ∀ table ∈ tables, ∃ character ∈ table.name, Text.isBlank character = false
  distinct : (tables.map ListedTable.name).Nodup
  identified :
    ∀ table ∈ tables, ∀ entity, table.entity = some entity → isIdentifier entity = true

/-- A manifest gives the paths of its project, and tables that can be listed together. -/
structure Manifest.IsValid (manifest : Manifest) : Prop where
  migration : manifest.migration.text ≠ []
  templates : manifest.templates.text ≠ []
  tables : AreListable manifest.tables

/-- What is wrong with a manifest. -/
inductive Violation where
  /-- The project gives the empty path for a key. -/
  | noPath (key : Text)
  /-- The name of a table is blank. -/
  | blankName (name : Text)
  /-- A table has the name of an earlier one. -/
  | repeatedName (name : Text)
  /-- The entity that is given for a table is no identifier. -/
  | noIdentifier (entity table : Text)

/-- What is wrong with a table that is listed behind others. Its name is looked at before its
entity. -/
inductive ListedTable.Violates (earlier : List ListedTable) (table : ListedTable) :
    Violation → Prop where
  | blankName
      (blank : ∀ character ∈ table.name, Text.isBlank character = true) :
      Violates earlier table (.blankName table.name)
  | repeatedName
      (telling : ∃ character ∈ table.name, Text.isBlank character = false)
      (repeated : table.name ∈ earlier.map ListedTable.name) :
      Violates earlier table (.repeatedName table.name)
  | noIdentifier
      {entity : Text}
      (telling : ∃ character ∈ table.name, Text.isBlank character = false)
      (fresh : table.name ∉ earlier.map ListedTable.name)
      (given : table.entity = some entity)
      (fails : isIdentifier entity = false) :
      Violates earlier table (.noIdentifier entity table.name)

/-- The first violation of a manifest: in its migration, in its templates, or in the first table
that cannot be listed behind the ones before it. -/
inductive Manifest.FirstViolation (manifest : Manifest) : Violation → Prop where
  | migration
      (missing : manifest.migration.text = []) :
      FirstViolation manifest (.noPath "migration".toList)
  | templates
      (migration : manifest.migration.text ≠ [])
      (missing : manifest.templates.text = []) :
      FirstViolation manifest (.noPath "templates".toList)
  | table
      {before after : List ListedTable}
      {table : ListedTable}
      {violation : Violation}
      (migration : manifest.migration.text ≠ [])
      (templates : manifest.templates.text ≠ [])
      (order : manifest.tables = before ++ table :: after)
      (listable : AreListable before)
      (violates : table.Violates before violation) :
      FirstViolation manifest violation

/-- The code that a violation is told under. A repeated name that is labelled has its own. -/
def Violation.code (violation : Violation) (labels : List Label) : Text :=
  match violation, labels with
  | .noIdentifier .., _ => "crudgen::manifest::invalid_entity".toList
  | .repeatedName _, _ :: _ => "crudgen::manifest::duplicate_table".toList
  | _, _ => "crudgen::manifest::validation".toList

namespace Manifest

/-- How a violation is reported, given the text of the manifest. A repeated name is reported with
its first two places when searches for its assignments in either kind of quotes find that many. -/
inductive Reports (source : Text) : Violation → ManifestFault → Prop where
  | noPath (key : Text) :
      Reports source (.noPath key) (.emptyPath key (keySpan? source key))
  | blankName (name : Text) :
      Reports source (.blankName name) (.blankName (valueSpan? source "name".toList name))
  | repeatedName
      {name : Text}
      {doubles singles : List Nat}
      {first second : Span}
      {others : List Span}
      (inDouble : Text.Finds (assignment "name".toList name '"') 0 source doubles)
      (inSingle : Text.Finds (assignment "name".toList name '\'') 0 source singles)
      (enough : 2 ≤ doubles.length + singles.length)
      (spans : valueSpans source "name".toList name = first :: second :: others) :
      Reports source (.repeatedName name) (.duplicate name first second)
  | unlocatedName
      {name : Text}
      {doubles singles : List Nat}
      (inDouble : Text.Finds (assignment "name".toList name '"') 0 source doubles)
      (inSingle : Text.Finds (assignment "name".toList name '\'') 0 source singles)
      (few : doubles.length + singles.length < 2) :
      Reports source (.repeatedName name) (.unlocatedDuplicate name)
  | noIdentifier (entity table : Text) :
      Reports source (.noIdentifier entity table)
        (.invalidEntity entity table (valueSpan? source "entity".toList entity))

end Manifest

/-! ## Tables one after the other -/

namespace AreListable

theorem nil :
    AreListable [] where
  named := fun _ isMember => nomatch isMember
  distinct := .nil
  identified := fun _ isMember => nomatch isMember

theorem of_append
    {tables others : List ListedTable}
    (listable : AreListable (tables ++ others)) :
    AreListable tables where
  named := fun table isMember => listable.named table (List.mem_append_left others isMember)
  distinct := by
    have distinct := listable.distinct
    rw [List.map_append, List.nodup_append] at distinct
    exact distinct.1
  identified := fun table isMember =>
    listable.identified table (List.mem_append_left others isMember)

/-- One more table can be listed when there is nothing wrong with it. -/
theorem concat_iff
    (tables : List ListedTable)
    (table : ListedTable) :
    AreListable (tables ++ [table]) ↔
      AreListable tables ∧
        (∃ character ∈ table.name, Text.isBlank character = false) ∧
        table.name ∉ tables.map ListedTable.name ∧
        ∀ entity, table.entity = some entity → isIdentifier entity = true := by
  constructor
  · intro listable
    have last : table ∈ tables ++ [table] := List.mem_append_right tables List.mem_cons_self
    have distinct := listable.distinct
    rw [List.map_append, List.nodup_append] at distinct
    exact
      ⟨listable.of_append, listable.named table last,
        fun repeated => distinct.2.2 table.name repeated table.name List.mem_cons_self rfl,
        listable.identified table last⟩
  · rintro ⟨listable, telling, fresh, identified⟩
    refine ⟨?_, ?_, ?_⟩
    · exact List.forall_mem_append.mpr ⟨listable.named, List.forall_mem_singleton.mpr telling⟩
    · rw [List.map_append, List.nodup_append]
      refine ⟨listable.distinct, List.pairwise_singleton _ _, ?_⟩
      rintro name earlier other here rfl
      rw [List.mem_singleton.mp here] at earlier
      exact fresh earlier
    · exact
        List.forall_mem_append.mpr ⟨listable.identified, List.forall_mem_singleton.mpr identified⟩

end AreListable

namespace Manifest

variable {source : Text}

theorem isEmpty_trim_iff
    (name : Text) :
    (Text.trim name).isEmpty = true ↔ ∀ character ∈ name, Text.isBlank character = true := by
  rw [List.isEmpty_iff]
  exact Text.trimWhere_eq_nil_iff

theorem not_isEmpty_trim_iff
    (name : Text) :
    ¬ (Text.trim name).isEmpty = true ↔
      ∃ character ∈ name, Text.isBlank character = false := by
  rw [isEmpty_trim_iff]
  simp

/-- A table has no fault when it can be listed behind tables of these names. -/
theorem tableFault?_eq_none_iff
    (source : Text)
    (seen : List Text)
    (table : ListedTable) :
    tableFault? source seen table = none ↔
      (∃ character ∈ table.name, Text.isBlank character = false) ∧
        table.name ∉ seen ∧
        ∀ entity, table.entity = some entity → isIdentifier entity = true := by
  rw [tableFault?, entityFault?, ← not_isEmpty_trim_iff]
  split
  next blank => simp [blank]
  next telling =>
    rw [and_iff_right telling]
    split
    next listed => simp [List.contains_iff_mem.mp listed]
    next fresh =>
      rw [and_iff_right (mt List.contains_iff_mem.mpr fresh)]
      cases table.entity with
      | none => simp
      | some entity => simp

theorem assignment_ne_nil
    (key value : Text)
    (quote : Char) :
    assignment key value quote ≠ [] := by
  simp [assignment]

/-- The spans of a value are as many as the occurrences of its assignments. -/
theorem length_valueSpans
    {key value : Text}
    {doubles singles : List Nat}
    (inDouble : Text.Finds (assignment key value '"') 0 source doubles)
    (inSingle : Text.Finds (assignment key value '\'') 0 source singles) :
    (valueSpans source key value).length = doubles.length + singles.length := by
  rw [valueSpans, List.length_mergeSort, List.length_append, quotedSpans, quotedSpans,
    List.length_map, List.length_map,
    (Text.finds_iff (assignment_ne_nil key value '"') source doubles).mp inDouble,
    (Text.finds_iff (assignment_ne_nil key value '\'') source singles).mp inSingle]

/-- A repeated name is reported as searches for its assignments find it. -/
theorem reports_repeatedName_iff
    (source name : Text)
    (fault : ManifestFault) :
    Reports source (.repeatedName name) fault ↔ duplicateFault source name = fault := by
  constructor
  · intro reports
    rw [duplicateFault]
    cases reports with
    | repeatedName inDouble inSingle enough spans => rw [spans]
    | unlocatedName inDouble inSingle few =>
      have short := length_valueSpans inDouble inSingle
      split
      next first second others spans =>
        rw [spans] at short
        simp only [List.length_cons] at short
        omega
      · rfl
  · rintro rfl
    rcases Text.exists_finds (assignment_ne_nil "name".toList name '"') 0 source with
      ⟨doubles, inDouble⟩
    rcases Text.exists_finds (assignment_ne_nil "name".toList name '\'') 0 source with
      ⟨singles, inSingle⟩
    have long := length_valueSpans inDouble inSingle
    rw [duplicateFault]
    split
    next first second others spans =>
      rw [spans] at long
      simp only [List.length_cons] at long
      exact .repeatedName inDouble inSingle (by omega) spans
    next few =>
      refine .unlocatedName inDouble inSingle ?_
      rw [← long]
      cases spans : valueSpans source "name".toList name with
      | nil => simp
      | cons first others =>
        cases others with
        | nil => simp
        | cons second others => exact absurd spans (few first second others)

/-- The fault of a table is what is wrong with it behind the earlier ones. -/
theorem tableFault?_eq_some_iff
    (source : Text)
    (earlier : List ListedTable)
    (table : ListedTable)
    (fault : ManifestFault) :
    tableFault? source (earlier.map ListedTable.name) table = some fault ↔
      ∃ violation, table.Violates earlier violation ∧ Reports source violation fault := by
  constructor
  · intro faulty
    rw [tableFault?, entityFault?] at faulty
    split at faulty
    next blank =>
      cases faulty
      exact ⟨_, .blankName ((isEmpty_trim_iff table.name).mp blank), .blankName table.name⟩
    next notBlank =>
      have telling := (not_isEmpty_trim_iff table.name).mp notBlank
      split at faulty
      next listed =>
        exact
          ⟨_, .repeatedName telling (List.contains_iff_mem.mp listed),
            (reports_repeatedName_iff source table.name fault).mpr (Option.some.inj faulty)⟩
      next unlisted =>
        split at faulty
        · cases faulty
        next entity given =>
          split at faulty
          · cases faulty
          next fails =>
            cases faulty
            exact
              ⟨_, .noIdentifier telling (mt List.contains_iff_mem.mpr unlisted) given
                  (Bool.eq_false_iff.mpr fails),
                .noIdentifier entity table.name⟩
  · rintro ⟨violation, violates, reports⟩
    rw [tableFault?, entityFault?]
    cases violates with
    | blankName blank =>
      cases reports
      rw [if_pos ((isEmpty_trim_iff table.name).mpr blank)]
    | repeatedName telling repeated =>
      rw [if_neg ((not_isEmpty_trim_iff table.name).mpr telling),
        if_pos (List.contains_iff_mem.mpr repeated),
        (reports_repeatedName_iff source table.name fault).mp reports]
    | noIdentifier telling fresh given fails =>
      cases reports
      rw [if_neg ((not_isEmpty_trim_iff table.name).mpr telling),
        if_neg (mt List.contains_iff_mem.mp fresh), given]
      simp [fails]

/-! ## All tables -/

/-- Tables that can be listed together have no fault, so the fault is among those behind them. -/
theorem tablesFault?_append
    {earlier between : List ListedTable}
    (listable : AreListable (earlier ++ between))
    (others : List ListedTable) :
    tablesFault? source (earlier.map ListedTable.name) (between ++ others) =
      tablesFault? source ((earlier ++ between).map ListedTable.name) others := by
  induction between generalizing earlier with
  | nil => rw [List.append_nil, List.nil_append]
  | cons table between hypothesis =>
    rw [List.append_cons] at listable ⊢
    have faultless :=
      (tableFault?_eq_none_iff source _ table).mpr
        ((AreListable.concat_iff earlier table).mp listable.of_append).2
    rw [List.cons_append, tablesFault?, faultless, ← hypothesis listable, List.map_append]
    rfl

/-- Tables have no fault when they can be listed behind the earlier ones. -/
theorem tablesFault?_eq_none_iff
    {earlier : List ListedTable}
    (listable : AreListable earlier)
    (tables : List ListedTable) :
    tablesFault? source (earlier.map ListedTable.name) tables = none ↔
      AreListable (earlier ++ tables) := by
  constructor
  · intro faultless
    induction tables generalizing earlier with
    | nil => rwa [List.append_nil]
    | cons table tables hypothesis =>
      rw [tablesFault?] at faultless
      split at faultless
      · cases faultless
      next first =>
        have next : AreListable (earlier ++ [table]) :=
          (AreListable.concat_iff earlier table).mpr
            ⟨listable, (tableFault?_eq_none_iff source _ table).mp first⟩
        rw [List.append_cons]
        exact hypothesis next (by rwa [List.map_append])
  · intro all
    have skipped : tablesFault? source (earlier.map ListedTable.name) (tables ++ []) = _ :=
      tablesFault?_append all []
    rwa [List.append_nil] at skipped

/-- The fault of tables is that of the first table which cannot be listed behind those before it. -/
theorem tablesFault?_eq_some_iff
    {earlier : List ListedTable}
    (listable : AreListable earlier)
    (tables : List ListedTable)
    (fault : ManifestFault) :
    tablesFault? source (earlier.map ListedTable.name) tables = some fault ↔
      ∃ between table after violation,
        tables = between ++ table :: after ∧
          AreListable (earlier ++ between) ∧
          table.Violates (earlier ++ between) violation ∧
          Reports source violation fault := by
  constructor
  · intro faulty
    induction tables generalizing earlier with
    | nil => cases faulty
    | cons table tables hypothesis =>
      rw [tablesFault?] at faulty
      split at faulty
      next found first =>
        cases faulty
        rcases (tableFault?_eq_some_iff source earlier table fault).mp first with
          ⟨violation, violates, reports⟩
        refine ⟨[], table, tables, violation, rfl, ?_, ?_, reports⟩
        · rwa [List.append_nil]
        · rwa [List.append_nil]
      next first =>
        have next : AreListable (earlier ++ [table]) :=
          (AreListable.concat_iff earlier table).mpr
            ⟨listable, (tableFault?_eq_none_iff source _ table).mp first⟩
        rcases hypothesis next (by rwa [List.map_append]) with
          ⟨between, other, after, violation, rfl, listed, violates, reports⟩
        rw [← List.append_cons] at listed violates
        exact ⟨table :: between, other, after, violation, rfl, listed, violates, reports⟩
  · rintro ⟨between, table, after, violation, rfl, listed, violates, reports⟩
    have first := (tableFault?_eq_some_iff source _ table fault).mpr ⟨violation, violates, reports⟩
    rw [tablesFault?_append listed, tablesFault?, first]

/-! ## Manifests -/

theorem pathFault?_eq_none_iff
    (source key : Text)
    (path : Path) :
    pathFault? source key path = none ↔ path.text ≠ [] := by
  rw [pathFault?, Path.isEmpty]
  simp

theorem pathFault?_eq_some_iff
    (source key : Text)
    (path : Path)
    (fault : ManifestFault) :
    pathFault? source key path = some fault ↔
      path.text = [] ∧ Reports source (.noPath key) fault := by
  rw [pathFault?, Path.isEmpty]
  constructor
  · intro faulty
    split at faulty
    next missing =>
      cases faulty
      exact ⟨List.isEmpty_iff.mp missing, .noPath key⟩
    · cases faulty
  · rintro ⟨missing, reports⟩
    cases reports
    rw [if_pos (List.isEmpty_iff.mpr missing)]

/-- A manifest has no fault exactly when it is valid. -/
theorem fault?_eq_none_iff
    (source : Text)
    (manifest : Manifest) :
    fault? source manifest = none ↔ manifest.IsValid := by
  rw [fault?]
  split
  next fault faulty =>
    have missing := ((pathFault?_eq_some_iff _ _ _ fault).mp faulty).1
    exact iff_of_false (Option.some_ne_none fault) fun valid => valid.migration missing
  next migration =>
    rw [pathFault?_eq_none_iff] at migration
    split
    next fault faulty =>
      have missing := ((pathFault?_eq_some_iff _ _ _ fault).mp faulty).1
      exact iff_of_false (Option.some_ne_none fault) fun valid => valid.templates missing
    next templates =>
      rw [pathFault?_eq_none_iff] at templates
      refine (tablesFault?_eq_none_iff AreListable.nil manifest.tables).trans ?_
      exact ⟨fun listable => ⟨migration, templates, listable⟩, fun valid => valid.tables⟩

/-- The fault of a manifest is its first violation. -/
theorem fault?_eq_some_iff
    (source : Text)
    (manifest : Manifest)
    (fault : ManifestFault) :
    fault? source manifest = some fault ↔
      ∃ violation, manifest.FirstViolation violation ∧ Reports source violation fault := by
  constructor
  · intro faulty
    rw [fault?] at faulty
    split at faulty
    next found first =>
      cases faulty
      rcases (pathFault?_eq_some_iff _ _ _ fault).mp first with ⟨missing, reports⟩
      exact ⟨_, .migration missing, reports⟩
    next first =>
      have migration := (pathFault?_eq_none_iff _ _ _).mp first
      split at faulty
      next found second =>
        cases faulty
        rcases (pathFault?_eq_some_iff _ _ _ fault).mp second with ⟨missing, reports⟩
        exact ⟨_, .templates migration missing, reports⟩
      next second =>
        have templates := (pathFault?_eq_none_iff _ _ _).mp second
        rcases (tablesFault?_eq_some_iff AreListable.nil manifest.tables fault).mp faulty with
          ⟨before, table, after, violation, order, listable, violates, reports⟩
        exact ⟨violation, .table migration templates order listable violates, reports⟩
  · rintro ⟨violation, first, reports⟩
    rw [fault?]
    cases first with
    | migration missing => rw [(pathFault?_eq_some_iff _ _ _ fault).mpr ⟨missing, reports⟩]
    | templates migration missing =>
      rw [(pathFault?_eq_none_iff _ _ _).mpr migration,
        (pathFault?_eq_some_iff _ _ _ fault).mpr ⟨missing, reports⟩]
    | table migration templates order listable violates =>
      rw [(pathFault?_eq_none_iff _ _ _).mpr migration,
        (pathFault?_eq_none_iff _ _ _).mpr templates]
      exact (tablesFault?_eq_some_iff AreListable.nil manifest.tables fault).mpr
        ⟨_, _, _, violation, order, listable, violates, reports⟩

theorem Reports.code
    {violation : Violation}
    {fault : ManifestFault}
    (reports : Reports source violation fault) :
    fault.code = violation.code fault.labels := by
  cases reports with
  | noPath key => rfl
  | blankName name => rfl
  | repeatedName inDouble inSingle enough spans => rfl
  | unlocatedName inDouble inSingle few => rfl
  | noIdentifier entity table => rfl

/--
Validation accepts exactly the valid manifests, and refuses any other for its first violation, which
is reported with the labels that the text of the manifest gives for it.
-/
theorem validate_reports_first_violation
    (fileName source : Text)
    (manifest : Manifest) :
    (validate fileName source manifest = .ok () ↔ manifest.IsValid) ∧
      ∀ error,
        validate fileName source manifest = .error error ↔
          error.fileName = fileName ∧
            ∃ violation,
              manifest.FirstViolation violation ∧
                Reports source violation error.fault ∧
                error.fault.code = violation.code error.fault.labels := by
  rw [validate]
  constructor
  · rw [← fault?_eq_none_iff source manifest]
    cases fault? source manifest with
    | none => simp
    | some fault => simp
  · rintro ⟨name, fault⟩
    have told :
        (∃ violation,
            manifest.FirstViolation violation ∧
              Reports source violation fault ∧
              fault.code = violation.code fault.labels) ↔
          fault? source manifest = some fault := by
      rw [fault?_eq_some_iff]
      constructor
      · rintro ⟨violation, first, reports, -⟩
        exact ⟨violation, first, reports⟩
      · rintro ⟨violation, first, reports⟩
        exact ⟨violation, first, reports, reports.code⟩
    rw [told]
    cases fault? source manifest with
    | none => simp
    | some found => simp [eq_comm]

end Manifest

end Scaffold
