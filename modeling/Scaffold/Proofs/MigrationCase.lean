import Scaffold.Proofs.WellFormedTables

/-!
# The letter case of migrations

A migration without capitals of ASCII may be put into capitals altogether, together with the names
that are asked for. What is read from it stays the same up to these capitals, and the types of the
columns in the generated code do not change at all.

Letter case is looked at in three ways: definition lines are told in any letter case of ASCII, the
constraint of a column in the full upper case of its line, and the kind of a column in the full
lower case of its type. The first two letter cases of a text do not change when it is put into
capitals of ASCII. The names are looked for as they are written, and this is where no capital may
stand: without capitals, one text in capitals stands in another exactly when the text itself stands
in the other text (`map_toUpper_infix_iff`).

So a line in capitals, read in a state in capitals, leaves the state in capitals that the line
itself leaves (`afterLine_inCapitals`), and so does a whole migration.
-/

namespace Scaffold.Text

/-! ## Texts under a map of characters -/

section Mapping

variable {map : Char → Char} {holds : Char → Bool}

theorem pieces_map
    (same : ∀ character, holds (map character) = holds character)
    (text : Text) :
    pieces holds (text.map map) = (pieces holds text).map (List.map map) := by
  induction text with
  | nil => rfl
  | cons character text hypothesis =>
    rw [List.map_cons, pieces, pieces, same, hypothesis]
    split
    · rfl
    · rcases List.exists_cons_of_ne_nil (pieces_ne_nil holds text) with ⟨piece, others, parted⟩
      rw [parted]
      rfl

theorem words_map
    (same : ∀ character, isBlank (map character) = isBlank character)
    (text : Text) :
    words (text.map map) = (words text).map (List.map map) := by
  rw [words, words, pieces_map same, List.filter_map]
  congr 2
  funext piece
  simp

theorem dropWhile_map
    (same : ∀ character, holds (map character) = holds character)
    (text : Text) :
    (text.map map).dropWhile holds = (text.dropWhile holds).map map := by
  have unchanged : holds ∘ map = holds := funext same
  rw [List.dropWhile_map, unchanged]

theorem takeWhile_map
    (same : ∀ character, holds (map character) = holds character)
    (text : Text) :
    (text.map map).takeWhile holds = (text.takeWhile holds).map map := by
  have unchanged : holds ∘ map = holds := funext same
  rw [List.takeWhile_map, unchanged]

theorem trimEndWhere_map
    (same : ∀ character, holds (map character) = holds character)
    (text : Text) :
    trimEndWhere holds (text.map map) = (trimEndWhere holds text).map map := by
  rw [trimEndWhere, trimEndWhere, ← List.map_reverse, dropWhile_map same, ← List.map_reverse]

theorem trimWhere_map
    (same : ∀ character, holds (map character) = holds character)
    (text : Text) :
    trimWhere holds (text.map map) = (trimWhere holds text).map map := by
  rw [trimWhere, trimWhere, dropWhile_map same, trimEndWhere_map same]

end Mapping

/-! ## The full letter cases of a text in capitals -/

theorem isBlank_toUpper
    (character : Char) :
    isBlank character.toUpper = isBlank character :=
  apply_toUpper isBlank (by decide +kernel) character

theorem upperCase_map_toUpper
    (text : Text) :
    upperCase (text.map Char.toUpper) = upperCase text := by
  have single (character : Char) : upperForm character.toUpper = upperForm character :=
    apply_toUpper upperForm (by decide +kernel) character
  rw [upperCase, upperCase, List.flatMap_map]
  exact List.flatMap_congr fun character _ => single character

/-- No letter of ASCII is case-ignorable. -/
theorem caseIgnorableRanges_spare_letters :
    ∀ range ∈ caseIgnorableRanges,
      range.2 < 0x41 ∨ (0x5A < range.1 ∧ range.2 < 0x61) ∨ 0x7A < range.1 := by
  decide +kernel

theorem inRanges_caseIgnorable_toUpper
    (character : Char) :
    inRanges caseIgnorableRanges character.toUpper = inRanges caseIgnorableRanges character := by
  have letter {code : Nat} (valid : code.isValidChar)
      (isLetter : (0x41 ≤ code ∧ code ≤ 0x5A) ∨ (0x61 ≤ code ∧ code ≤ 0x7A)) :
      inRanges caseIgnorableRanges (Char.ofNat code) = false := by
    have same : (Char.ofNat code).toNat = code := by
      rw [Char.toNat_ofNat, if_pos valid]
    rw [inRanges, List.any_eq_false]
    intro range isRange
    have spared := caseIgnorableRanges_spare_letters range isRange
    rw [same, Bool.and_eq_true, decide_eq_true_eq, decide_eq_true_eq]
    omega
  apply apply_toUpper (inRanges caseIgnorableRanges)
  intro place below
  rw [letter (Or.inl (by omega)) (Or.inl (by omega)),
    letter (Or.inl (by omega)) (Or.inr (by omega))]

theorem reachesCased_map_toUpper
    (text : Text) :
    reachesCased (text.map Char.toUpper) = reachesCased text := by
  have cased (character : Char) :
      inRanges casedRanges character.toUpper = inRanges casedRanges character :=
    apply_toUpper (inRanges casedRanges) (by decide +kernel) character
  rw [reachesCased, reachesCased, dropWhile_map inRanges_caseIgnorable_toUpper]
  cases text.dropWhile (inRanges caseIgnorableRanges) with
  | nil => rfl
  | cons first rest => exact cased first

theorem lowerCaseAfter_map_toUpper
    (before text : Text) :
    lowerCaseAfter (before.map Char.toUpper) (text.map Char.toUpper) =
      lowerCaseAfter before text := by
  have single (character : Char) : lowerForm character.toUpper = lowerForm character :=
    apply_toUpper lowerForm (by decide +kernel) character
  have sigma (character : Char) : character.toUpper = 'Σ' ↔ character = 'Σ' := by
    rw [← decide_eq_decide]
    exact apply_toUpper (fun character => decide (character = 'Σ')) (by decide +kernel) character
  induction text generalizing before with
  | nil => rfl
  | cons character text hypothesis =>
    have later := hypothesis (character :: before)
    rw [List.map_cons] at later
    rw [List.map_cons, lowerCaseAfter, lowerCaseAfter, reachesCased_map_toUpper,
      reachesCased_map_toUpper, single, later, if_congr (sigma character) rfl rfl]

theorem lowerCase_map_toUpper
    (text : Text) :
    lowerCase (text.map Char.toUpper) = lowerCase text :=
  lowerCaseAfter_map_toUpper [] text

/-! ## Texts without capitals -/

/-- No capital of ASCII stands in a text. -/
def HasNoCapitals (text : Text) : Prop :=
  ∀ character ∈ text, character.isUpper = false

instance (text : Text) : Decidable (HasNoCapitals text) :=
  inferInstanceAs (Decidable (∀ character ∈ text, character.isUpper = false))

theorem HasNoCapitals.of_subset
    {text part : Text}
    (plain : HasNoCapitals text)
    (within : part ⊆ text) :
    HasNoCapitals part :=
  fun character inside => plain character (within inside)

/-- A text without capitals can be told from the text in capitals. -/
theorem map_toLower_map_toUpper
    {text : Text}
    (plain : HasNoCapitals text) :
    (text.map Char.toUpper).map Char.toLower = text := by
  have single (character : Char) (inside : character ∈ text) :
      character.toUpper.toLower = character := by
    have small : ¬ character.isUpper = true := by
      rw [plain character inside]
      exact Bool.false_ne_true
    rw [Char.toLower_toUpper_eq_toLower, Char.toLower_eq_of_not_isUpper small]
  rw [List.map_map]
  exact (List.map_congr_left single).trans (List.map_id _)

section Comparing

variable
  {left right : Text}
  (plainLeft : HasNoCapitals left)
  (plainRight : HasNoCapitals right)

include plainLeft plainRight

/-- A relation that every map of characters keeps holds of two texts in capitals exactly when it
holds of the texts. -/
theorem map_toUpper_iff
    (related : Text → Text → Prop)
    (kept :
      ∀ (map : Char → Char) (left right : Text),
        related left right → related (left.map map) (right.map map)) :
    related (left.map Char.toUpper) (right.map Char.toUpper) ↔ related left right := by
  constructor
  · intro inCapitals
    have lowered := kept Char.toLower _ _ inCapitals
    rwa [map_toLower_map_toUpper plainLeft, map_toLower_map_toUpper plainRight] at lowered
  · exact kept Char.toUpper left right

theorem map_toUpper_inj :
    left.map Char.toUpper = right.map Char.toUpper ↔ left = right :=
  map_toUpper_iff plainLeft plainRight (· = ·) fun map _ _ same => congrArg (List.map map) same

theorem map_toUpper_prefix_iff :
    left.map Char.toUpper <+: right.map Char.toUpper ↔ left <+: right :=
  map_toUpper_iff plainLeft plainRight (· <+: ·) fun map _ _ starts => starts.map map

theorem map_toUpper_suffix_iff :
    left.map Char.toUpper <:+ right.map Char.toUpper ↔ left <:+ right :=
  map_toUpper_iff plainLeft plainRight (· <:+ ·) fun map _ _ ends => ends.map map

theorem map_toUpper_infix_iff :
    left.map Char.toUpper <:+: right.map Char.toUpper ↔ left <:+: right :=
  map_toUpper_iff plainLeft plainRight (· <:+: ·) fun map _ _ stands => stands.map map

end Comparing

end Scaffold.Text

namespace Scaffold

/-! ## Columns and tables in capitals -/

/-- A column with its name and its type in capitals. -/
def Column.inCapitals (column : Column) : Column where
  name := column.name.map Char.toUpper
  rawType := column.rawType.map Char.toUpper
  nullable := column.nullable

/-- A table with its name and its columns in capitals. -/
def Table.inCapitals (table : Table) : Table where
  name := table.name.map Char.toUpper
  columns := table.columns.map Column.inCapitals

theorem ColumnType.classify_map_toUpper
    (rawType : Text) :
    classify (rawType.map Char.toUpper) = classify rawType := by
  rw [classify, classify, Text.lowerCase_map_toUpper]

/-- No target language tells a column from the one in capitals. -/
theorem TargetLanguage.columnType_inCapitals
    (language : TargetLanguage)
    (column : Column) :
    language.columnType column.inCapitals.rawType column.inCapitals.nullable =
      language.columnType column.rawType column.nullable := by
  rw [columnType, columnType, Column.inCapitals, ColumnType.classify_map_toUpper]

namespace Migration

open Text (HasNoCapitals)

/-! ## Lines in capitals -/

section Lines

variable {line : Text} (plain : HasNoCapitals line)

include plain

theorem isSignificant_map_toUpper :
    isSignificant (line.map Char.toUpper) = isSignificant line := by
  have hyphens :
      "--".toList.isPrefixOf (line.map Char.toUpper) = "--".toList.isPrefixOf line := by
    rw [Bool.eq_iff_iff, List.isPrefixOf_iff_prefix, List.isPrefixOf_iff_prefix]
    exact Text.map_toUpper_prefix_iff (by decide : HasNoCapitals "--".toList) plain
  rw [isSignificant, isSignificant, hyphens, List.isEmpty_map]

theorem startsWithClosing_map_toUpper :
    startsWithClosing (line.map Char.toUpper) = startsWithClosing line := by
  rw [startsWithClosing, startsWithClosing, Bool.eq_iff_iff, List.isPrefixOf_iff_prefix,
    List.isPrefixOf_iff_prefix]
  exact Text.map_toUpper_prefix_iff (by decide : HasNoCapitals [')']) plain

theorem endsWithClosing_map_toUpper :
    endsWithClosing (line.map Char.toUpper) = endsWithClosing line := by
  rw [endsWithClosing, endsWithClosing, Bool.eq_iff_iff, List.isSuffixOf_iff_suffix,
    List.isSuffixOf_iff_suffix]
  exact Text.map_toUpper_suffix_iff (by decide : HasNoCapitals [')', ';']) plain

end Lines

theorem definition?_map_toUpper
    (line : Text) :
    definition? (line.map Char.toUpper) = (definition? line).map (List.map Char.toUpper) := by
  have same :
      Text.foldedEqual ((line.map Char.toUpper).take definitionWords.length) definitionWords =
        Text.foldedEqual (line.take definitionWords.length) definitionWords := by
    rw [← List.map_take, Text.foldedEqual, Text.foldedEqual, List.map_map]
    congr 2
    funext character
    exact Char.toLower_toUpper_eq_toLower character
  rw [definition?, definition?, same]
  split
  · rw [Option.map_some, List.map_drop]
  · rfl

theorem selected?_map_toUpper
    {requested : List Text}
    (plainNames : ∀ name ∈ requested, HasNoCapitals name)
    {remainder : Text}
    (plain : HasNoCapitals remainder) :
    selected? (requested.map (List.map Char.toUpper)) (remainder.map Char.toUpper) =
      (selected? requested remainder).map (List.map Char.toUpper) := by
  rw [selected?, selected?, List.find?_map]
  congr 1
  apply List.find?_congr
  intro name isRequested
  have stands :
      Text.contains (name.map Char.toUpper) (remainder.map Char.toUpper) =
        Text.contains name remainder := by
    rw [Bool.eq_iff_iff, Text.contains_iff, Text.contains_iff]
    exact Text.map_toUpper_infix_iff (plainNames name isRequested) plain
  rw [Function.comp_apply, stands, List.isEmpty_map]

theorem typeOfWord_map_toUpper
    (word : Text) :
    typeOfWord (word.map Char.toUpper) = (typeOfWord word).map Char.toUpper := by
  have opening (character : Char) : (character.toUpper != '(') = (character != '(') :=
    Text.apply_toUpper (· != '(') (by decide +kernel) character
  rw [typeOfWord, typeOfWord, Text.takeWhile_map opening,
    Text.trimEndWhere_map (Text.apply_toUpper followsType (by decide +kernel))]

theorem column?_map_toUpper
    (line : Text) :
    column? (line.map Char.toUpper) = (column? line).map Column.inCapitals := by
  rw [column?, column?, Text.words_map Text.isBlank_toUpper, Text.upperCase_map_toUpper]
  rcases Text.words line with - | ⟨name, - | ⟨type, more⟩⟩
  · rfl
  · rfl
  · simp only [List.map_cons, Option.map_some, Column.inCapitals, typeOfWord_map_toUpper,
      Text.trimWhere_map (Text.apply_toUpper surroundsName (by decide +kernel))]

/-! ## States in capitals -/

theorem started_inCapitals
    {name : Text}
    (plain : HasNoCapitals name)
    {tables : List Table}
    (plainNames : ∀ table ∈ tables, HasNoCapitals table.name) :
    started (name.map Char.toUpper) (tables.map Table.inCapitals) =
      (started name tables).map Table.inCapitals := by
  induction tables with
  | nil => rfl
  | cons table others hypothesis =>
    rw [List.forall_mem_cons] at plainNames
    -- capitals must not make two names equal, or a table would start in the place of another
    have same : table.inCapitals.name = name.map Char.toUpper ↔ table.name = name :=
      Text.map_toUpper_inj plainNames.1 plain
    rw [List.map_cons, started, started, if_congr same rfl rfl, hypothesis plainNames.2]
    split
    · rfl
    · rfl

theorem extended_inCapitals
    {name : Text}
    (plain : HasNoCapitals name)
    (column : Column)
    {tables : List Table}
    (plainNames : ∀ table ∈ tables, HasNoCapitals table.name) :
    extended (name.map Char.toUpper) column.inCapitals (tables.map Table.inCapitals) =
      (extended name column tables).map Table.inCapitals := by
  rw [extended, extended, List.map_map, List.map_map]
  apply List.map_congr_left
  intro table isMember
  have same : table.inCapitals.name = name.map Char.toUpper ↔ table.name = name :=
    Text.map_toUpper_inj (plainNames table isMember) plain
  rw [Function.comp_apply, Function.comp_apply, if_congr same rfl rfl]
  split
  · simp [Table.inCapitals]
  · rfl

/-- A state with all its names in capitals. -/
def Progress.inCapitals (progress : Progress) : Progress where
  tables := progress.tables.map Table.inCapitals
  current := progress.current.map (List.map Char.toUpper)

theorem afterBodyLine_inCapitals
    {name : Text}
    (plain : HasNoCapitals name)
    {tables : List Table}
    (plainNames : ∀ table ∈ tables, HasNoCapitals table.name)
    {line : Text}
    (plainLine : HasNoCapitals line) :
    afterBodyLine (name.map Char.toUpper) (tables.map Table.inCapitals) (line.map Char.toUpper) =
      (afterBodyLine name tables line).inCapitals := by
  rw [afterBodyLine, afterBodyLine, startsWithClosing_map_toUpper plainLine,
    endsWithClosing_map_toUpper plainLine, column?_map_toUpper]
  split
  · rfl
  · cases column? line with
    | none =>
      cases endsWithClosing line with
      | true => rfl
      | false => rfl
    | some column =>
      dsimp only [Option.map_some]
      rw [extended_inCapitals plain column plainNames]
      cases endsWithClosing line with
      | true => rfl
      | false => rfl

/-- A line in capitals leaves a state in capitals. -/
theorem afterLine_inCapitals
    {requested : List Text}
    (plainNames : ∀ name ∈ requested, HasNoCapitals name)
    {progress : Progress}
    (wellFormed : progress.IsWellFormed requested)
    {line : Text}
    (plainLine : HasNoCapitals line) :
    afterLine (requested.map (List.map Char.toUpper)) progress.inCapitals (line.map Char.toUpper) =
      (afterLine requested progress line).inCapitals := by
  have plainTables (table : Table) (isMember : table ∈ progress.tables) :
      HasNoCapitals table.name :=
    plainNames table.name (wellFormed.requested table isMember).1
  rw [afterLine, afterLine, definition?_map_toUpper]
  cases defined : definition? line with
  | some remainder =>
    have plainRemainder : HasNoCapitals remainder := by
      rcases (definition?_eq_some_iff line remainder).mp defined with ⟨start, rfl, -, -⟩
      exact plainLine.of_subset (List.subset_append_right start remainder)
    dsimp only [Option.map_some]
    rw [selected?_map_toUpper plainNames plainRemainder]
    cases selects : selected? requested remainder with
    | none => rfl
    | some name =>
      dsimp only [Option.map_some]
      rw [Progress.inCapitals, started_inCapitals (plainNames name (selected?_sound selects).1)
        plainTables]
      rfl
  | none =>
    dsimp only [Option.map_none, Progress.inCapitals]
    cases current : progress.current with
    | none =>
      dsimp only [Option.map_none]
      rw [current, Option.map_none]
    | some name =>
      -- the open table was started for a requested name
      have plainName : HasNoCapitals name := by
        rcases List.mem_map.mp (wellFormed.opened name current) with ⟨table, isMember, rfl⟩
        exact plainTables table isMember
      exact afterBodyLine_inCapitals plainName plainTables plainLine

theorem foldl_inCapitals
    {requested : List Text}
    (plainNames : ∀ name ∈ requested, HasNoCapitals name)
    {progress : Progress}
    (wellFormed : progress.IsWellFormed requested)
    {lines : List Text}
    (plainLines : ∀ line ∈ lines, HasNoCapitals line) :
    (lines.map (List.map Char.toUpper)).foldl
        (afterLine (requested.map (List.map Char.toUpper))) progress.inCapitals =
      (lines.foldl (afterLine requested) progress).inCapitals := by
  induction lines generalizing progress with
  | nil => rfl
  | cons line lines hypothesis =>
    rw [List.forall_mem_cons] at plainLines
    rw [List.map_cons, List.foldl_cons, List.foldl_cons,
      afterLine_inCapitals plainNames wellFormed plainLines.1,
      hypothesis (wellFormed.afterLine line) plainLines.2]

/-! ## Migrations in capitals -/

theorem hasNoCapitals_of_mem_trimmed
    {migration line : Text}
    (plain : HasNoCapitals migration)
    (isLine : line ∈ (Text.pieces (· == '\n') migration).map Text.trim) :
    HasNoCapitals line := by
  rcases List.mem_map.mp isLine with ⟨piece, isPiece, rfl⟩
  apply plain.of_subset
  intro character inside
  exact
    (Text.mem_and_not_isSeparator_of_mem_pieces isPiece character
      (Text.mem_of_mem_trimWhere inside)).1

theorem significantLines_map_toUpper
    {migration : Text}
    (plain : HasNoCapitals migration) :
    significantLines (migration.map Char.toUpper) =
      (significantLines migration).map (List.map Char.toUpper) := by
  have feed (character : Char) : (character.toUpper == '\n') = (character == '\n') :=
    Text.apply_toUpper (· == '\n') (by decide +kernel) character
  have trimmed :
      ((Text.pieces (· == '\n') migration).map (List.map Char.toUpper)).map Text.trim =
        ((Text.pieces (· == '\n') migration).map Text.trim).map (List.map Char.toUpper) := by
    rw [List.map_map, List.map_map]
    exact List.map_congr_left fun piece _ => Text.trimWhere_map Text.isBlank_toUpper piece
  rw [significantLines_eq_pieces, significantLines_eq_pieces, Text.pieces_map feed, trimmed,
    List.filter_map]
  congr 1
  apply List.filter_congr
  intro line isLine
  exact isSignificant_map_toUpper (hasNoCapitals_of_mem_trimmed plain isLine)

theorem tables_readLines_inCapitals
    {migration : Text}
    (plain : HasNoCapitals migration)
    {requested : List Text}
    (plainNames : ∀ name ∈ requested, HasNoCapitals name) :
    (readLines (requested.map (List.map Char.toUpper))
        (significantLines (migration.map Char.toUpper))).tables =
      (readLines requested (significantLines migration)).tables.map Table.inCapitals := by
  have plainLines (line : Text) (isLine : line ∈ significantLines migration) :
      HasNoCapitals line := by
    rw [significantLines_eq_pieces] at isLine
    exact hasNoCapitals_of_mem_trimmed plain (List.mem_of_mem_filter isLine)
  have run :=
    foldl_inCapitals plainNames (Progress.isWellFormed_start requested) plainLines
  rw [significantLines_map_toUpper plain]
  exact congrArg Progress.tables run

/--
A migration without capitals that is put into capitals, and read for names that are put into
capitals, gives the tables in capitals, and fails exactly when the migration itself fails. The
columns in capitals have the types of the columns themselves, in every target language.
-/
theorem reading_in_capitals
    {migration : Text}
    (plain : HasNoCapitals migration)
    {requested : List Text}
    (plainNames : ∀ name ∈ requested, HasNoCapitals name) :
    (∀ read,
      tablesOf (migration.map Char.toUpper) (requested.map (List.map Char.toUpper)) = .ok read ↔
        ∃ tables,
          tablesOf migration requested = .ok tables ∧ read = tables.map Table.inCapitals) ∧
      ∀ (language : TargetLanguage) (column : Column),
        language.columnType column.inCapitals.rawType column.inCapitals.nullable =
          language.columnType column.rawType column.nullable := by
  constructor
  · intro read
    simp only [tablesOf_eq_ok_iff, scan_eq_readLines, tables_readLines_inCapitals plain plainNames]
    constructor
    · rintro ⟨telling, rfl⟩
      refine ⟨_, ⟨?_, rfl⟩, rfl⟩
      rwa [Ne, List.map_eq_nil_iff] at telling
    · rintro ⟨tables, ⟨telling, rfl⟩, rfl⟩
      refine ⟨?_, rfl⟩
      rwa [Ne, List.map_eq_nil_iff]
  · exact TargetLanguage.columnType_inCapitals

/-- A migration with characters beyond ASCII whose full upper case has characters of ASCII, or whose
lower case depends on the letters around them. -/
def streetsMigration : Text :=
  ("-- straßen\ncreate table σtraße (\n  ıd bigint not null,\n  ﬂur 'intΣ(3)',\n" ++
    "  naſe ŉvarchar null,\n  größe datumΣ ŉot null\n").toList

theorem streets_in_capitals :
    Text.HasNoCapitals streetsMigration ∧
      (∀ name ∈ ["straße".toList, "traße".toList], Text.HasNoCapitals name) ∧
      tablesOf (streetsMigration.map Char.toUpper)
          (["straße".toList, "traße".toList].map (List.map Char.toUpper)) =
        .ok
          [⟨"TRAßE".toList,
            [⟨"ıD".toList, "BIGINT".toList, false⟩,
              ⟨"ﬂUR".toList, "'INTΣ".toList, true⟩,
              ⟨"NAſE".toList, "ŉVARCHAR".toList, true⟩,
              ⟨"GRößE".toList, "DATUMΣ".toList, false⟩]⟩] ∧
      TargetLanguage.go.columnType "'INTΣ".toList true = "*int".toList := by
  have plain : Text.HasNoCapitals streetsMigration := by
    decide +kernel
  have plainNames : ∀ name ∈ ["straße".toList, "traße".toList], Text.HasNoCapitals name := by
    decide +kernel
  have small :
      tablesOf streetsMigration ["straße".toList, "traße".toList] =
        .ok
          [⟨"traße".toList,
            [⟨"ıd".toList, "bigint".toList, false⟩,
              ⟨"ﬂur".toList, "'intΣ".toList, true⟩,
              ⟨"naſe".toList, "ŉvarchar".toList, true⟩,
              ⟨"größe".toList, "datumΣ".toList, false⟩]⟩] := by
    decide +kernel
  rcases reading_in_capitals plain plainNames with ⟨tables, types⟩
  refine ⟨plain, plainNames, (tables _).mpr ⟨_, small, by decide +kernel⟩, ?_⟩
  exact (types .go ⟨"ﬂur".toList, "'intΣ".toList, true⟩).trans (by decide +kernel)

end Migration

end Scaffold
