import Scaffold.Proofs.ManifestFaults

/-!
# Where the labels of a manifest point

A label is a range of bytes of the text of the manifest. It covers a text when the source is cut into
what stands before the range, the text, and what stands behind it (`Span.Covers`), so it starts and
ends between characters, and it covers no other text (`Span.Covers.unique`). The labels of a refused
manifest cover what they report: a key where it is assigned, and a value between its quotes
(`Span.CoversQuoted`). There are labels exactly when the text assigns what is reported
(`Violation.IsWritten`). The places of a value come in order, each one before the next, because no
two assignments of it start at the same byte.
-/

namespace Scaffold

/-! ## Ranges of bytes -/

namespace Text

/-- Texts that are cut behind the same number of bytes are cut at the same place. -/
theorem append_inj_of_byteLength
    {left right other rest : Text}
    (equal : left ++ right = other ++ rest)
    (same : byteLength left = byteLength other) :
    left = other ∧ right = rest := by
  induction left generalizing other with
  | nil =>
    cases other with
    | nil => exact ⟨rfl, equal⟩
    | cons character other =>
      have wide := byteLength_pos (List.cons_ne_nil character other)
      rw [← same] at wide
      cases wide
  | cons first left hypothesis =>
    cases other with
    | nil =>
      have wide := byteLength_pos (List.cons_ne_nil first left)
      rw [same] at wide
      cases wide
    | cons character other =>
      rw [List.cons_append, List.cons_append, List.cons.injEq] at equal
      rcases equal with ⟨rfl, equal⟩
      rw [byteLength_cons, byteLength_cons, Nat.add_left_cancel_iff] at same
      rcases hypothesis equal same with ⟨rfl, rfl⟩
      exact ⟨rfl, rfl⟩

end Text

namespace Span

/-- A range of bytes of a source covers a text of it. -/
def Covers (span : Span) (source text : Text) : Prop :=
  ∃ before after,
    source = before ++ text ++ after ∧
      span = ⟨Text.byteLength before, Text.byteLength text⟩

/-- A range of bytes of a source covers a text that stands between two quotes of one kind. -/
def CoversQuoted (span : Span) (source text : Text) : Prop :=
  ∃ before quote after,
    (quote = '"' ∨ quote = '\'') ∧
      source = before ++ [quote] ++ text ++ [quote] ++ after ∧
      span = ⟨Text.byteLength (before ++ [quote]), Text.byteLength text⟩

variable {span : Span} {source text other : Text}

theorem CoversQuoted.covers
    (quoted : span.CoversQuoted source text) :
    span.Covers source text := by
  rcases quoted with ⟨before, quote, after, -, order, range⟩
  exact ⟨before ++ [quote], [quote] ++ after, by rw [order, List.append_assoc _ [quote]], range⟩

/-- A range of bytes lies inside the source that it covers a text of. -/
theorem Covers.inside
    (covers : span.Covers source text) :
    span.offset + span.length ≤ Text.byteLength source := by
  rcases covers with ⟨before, after, rfl, rfl⟩
  rw [Text.byteLength_append, Text.byteLength_append]
  exact Nat.le_add_right _ _

/-- A range of bytes covers one text only. -/
theorem Covers.unique
    (covers : span.Covers source text)
    (coversOther : span.Covers source other) :
    text = other := by
  rcases covers with ⟨before, after, order, range⟩
  rcases coversOther with ⟨start, rest, orderOther, rangeOther⟩
  rw [range, Span.mk.injEq] at rangeOther
  rw [order, List.append_assoc, List.append_assoc] at orderOther
  have behind := (Text.append_inj_of_byteLength orderOther rangeOther.1).2
  exact (Text.append_inj_of_byteLength behind rangeOther.2).1

end Span

namespace Manifest

variable {source key value : Text} {span : Span}

/-! ## Keys -/

/-- A place of a key is where the key is assigned. -/
theorem covers_of_mem_occurrences
    {sign : Text}
    (telling : sign ≠ [])
    {offset : Nat}
    (isMember : offset ∈ Text.occurrences (key ++ sign) source) :
    Span.Covers ⟨offset, Text.byteLength key⟩ source key := by
  have given : key ++ sign ≠ [] := List.append_ne_nil_of_right_ne_nil key telling
  rcases Text.exists_of_mem_occurrences given isMember with ⟨before, rest, order, rfl⟩
  exact ⟨before, sign ++ rest, by rw [order]; simp only [List.append_assoc], rfl⟩

/-- The span of a key covers it. -/
theorem covers_of_keySpan?
    (found : keySpan? source key = some span) :
    span.Covers source key := by
  rw [keySpan?] at found
  rcases Option.map_eq_some_iff.mp found with ⟨offset, starts, rfl⟩
  split at starts
  next first others spaced =>
    cases starts
    refine covers_of_mem_occurrences (by decide : " =".toList ≠ []) ?_
    rw [spaced]
    exact List.mem_cons_self
  · exact covers_of_mem_occurrences (by decide : "=".toList ≠ []) (List.mem_of_head? starts)

/-- A key has a span when it is assigned somewhere. -/
theorem keySpan?_ne_none_iff
    (source key : Text) :
    keySpan? source key ≠ none ↔
      key ++ " =".toList <:+: source ∨ key ++ "=".toList <:+: source := by
  have spaced : key ++ " =".toList ≠ [] := List.append_ne_nil_of_right_ne_nil key (by decide)
  have tight : key ++ "=".toList ≠ [] := List.append_ne_nil_of_right_ne_nil key (by decide)
  rw [keySpan?, Ne, Option.map_eq_none_iff, ← Text.occurrences_ne_nil_iff spaced,
    ← Text.occurrences_ne_nil_iff tight]
  split
  next offset others found =>
    rw [found]
    exact iff_of_true (Option.some_ne_none offset) (Or.inl (List.cons_ne_nil offset others))
  next none => rw [List.head?_eq_none_iff, or_iff_right (not_not_intro none)]

/-! ## Values -/

/-- An assignment starts at an offset, in quotes of this kind. -/
theorem exists_of_mem_quotedSpans
    {quote : Char}
    (isMember : span ∈ quotedSpans source key value quote) :
    ∃ before after,
      source = before ++ (key ++ " = ".toList) ++ [quote] ++ value ++ [quote] ++ after ∧
        span = ⟨Text.byteLength before + Text.byteLength key + 4, Text.byteLength value⟩ := by
  rcases List.mem_map.mp isMember with ⟨offset, found, rfl⟩
  rcases Text.exists_of_mem_occurrences (assignment_ne_nil key value quote) found with
    ⟨before, after, order, rfl⟩
  refine ⟨before, after, ?_, rfl⟩
  rw [order, assignment]
  simp only [List.append_assoc, List.cons_append, List.nil_append]

theorem mem_valueSpans_iff :
    span ∈ valueSpans source key value ↔
      span ∈ quotedSpans source key value '"' ∨ span ∈ quotedSpans source key value '\'' := by
  rw [valueSpans, List.mem_mergeSort, List.mem_append]

/-- A value is assigned to a key in quotes of either kind. -/
def IsAssigned (source key value : Text) : Prop :=
  assignment key value '"' <:+: source ∨ assignment key value '\'' <:+: source

/-- A value has a span when it is assigned somewhere. -/
theorem valueSpan?_ne_none_iff
    (source key value : Text) :
    valueSpan? source key value ≠ none ↔ IsAssigned source key value := by
  have empty :
      valueSpans source key value = [] ↔
        quotedSpans source key value '"' = [] ∧ quotedSpans source key value '\'' = [] := by
    rw [valueSpans, ← List.length_eq_zero_iff, List.length_mergeSort, List.length_eq_zero_iff,
      List.append_eq_nil_iff]
  rw [IsAssigned, ← Text.occurrences_ne_nil_iff (assignment_ne_nil key value '"'),
    ← Text.occurrences_ne_nil_iff (assignment_ne_nil key value '\''), valueSpan?, Ne,
    List.head?_eq_none_iff, empty, quotedSpans, quotedSpans, List.map_eq_nil_iff,
    List.map_eq_nil_iff, Classical.not_and_iff_not_or_not]

/-- Every span of a value covers it between its quotes. -/
theorem coversQuoted_of_mem_valueSpans
    (isMember : span ∈ valueSpans source key value) :
    span.CoversQuoted source value := by
  have quoted {quote : Char} (isQuote : quote = '"' ∨ quote = '\'') (narrow : quote.utf8Size = 1)
      (isMember : span ∈ quotedSpans source key value quote) :
      span.CoversQuoted source value := by
    rcases exists_of_mem_quotedSpans isMember with ⟨before, after, order, rfl⟩
    refine ⟨before ++ (key ++ " = ".toList), quote, after, isQuote, order, ?_⟩
    have sign : Text.byteLength " = ".toList = 3 := by decide
    have mark : Text.byteLength [quote] = 1 := by rw [Text.byteLength_cons, narrow]; rfl
    simp only [Text.byteLength_append, sign, mark, Nat.add_assoc]
  rcases mem_valueSpans_iff.mp isMember with double | single
  · exact quoted (Or.inl rfl) rfl double
  · exact quoted (Or.inr rfl) rfl single

theorem quotedSpans_pairwise_lt
    (source key value : Text)
    (quote : Char) :
    (quotedSpans source key value quote).Pairwise fun left right => left.offset < right.offset := by
  rw [quotedSpans, List.pairwise_map]
  refine (Text.occurrences_pairwise_lt (assignment_ne_nil key value quote) source).imp ?_
  intro left right before
  dsimp only
  omega

/-- Assignments in different quotes do not start at the same byte. -/
theorem offset_ne_of_quotedSpans
    {double single : Span}
    (inDouble : double ∈ quotedSpans source key value '"')
    (inSingle : single ∈ quotedSpans source key value '\'') :
    double.offset ≠ single.offset := by
  rcases exists_of_mem_quotedSpans inDouble with ⟨before, after, order, rfl⟩
  rcases exists_of_mem_quotedSpans inSingle with ⟨start, rest, orderOther, rfl⟩
  intro same
  dsimp only at same
  rw [order] at orderOther
  simp only [List.append_assoc] at orderOther
  have behind := (Text.append_inj_of_byteLength orderOther (by omega)).2
  rw [List.append_cancel_left_eq, List.append_cancel_left_eq, List.singleton_append,
    List.singleton_append] at behind
  exact absurd (List.cons.inj behind).1 (by decide)

/-- The spans of a value come in order, and no two of them start at the same byte. -/
theorem valueSpans_pairwise_lt
    (source key value : Text) :
    (valueSpans source key value).Pairwise fun left right => left.offset < right.offset := by
  have sorted :
      (valueSpans source key value).Pairwise fun left right =>
        decide (left.offset ≤ right.offset) = true := by
    apply List.pairwise_mergeSort
    · intro first second third before behind
      simp only [decide_eq_true_eq] at before behind ⊢
      omega
    · intro first second
      simp only [Bool.or_eq_true, decide_eq_true_eq]
      omega
  have apart :
      (valueSpans source key value).Pairwise fun left right => left.offset ≠ right.offset := by
    refine ((List.mergeSort_perm _ _).pairwise_iff Ne.symm).mpr ?_
    rw [List.pairwise_append]
    exact
      ⟨(quotedSpans_pairwise_lt source key value '"').imp Nat.ne_of_lt,
        (quotedSpans_pairwise_lt source key value '\'').imp Nat.ne_of_lt,
        fun double inDouble single inSingle => offset_ne_of_quotedSpans inDouble inSingle⟩
  refine (sorted.and apart).imp ?_
  rintro left right ⟨before, differ⟩
  exact Nat.lt_of_le_of_ne (of_decide_eq_true before) differ

theorem coversQuoted_of_valueSpan?
    (found : valueSpan? source key value = some span) :
    span.CoversQuoted source value :=
  coversQuoted_of_mem_valueSpans (List.mem_of_head? found)

end Manifest

/-! ## Labels -/

/-- What a violation is about, as a manifest writes it: a key of the project, or a value. -/
def Violation.subject : Violation → Text
  | .noPath key => key
  | .blankName name | .repeatedName name => name
  | .noIdentifier entity _ => entity

/-- What a violation is about is written in the text of a manifest: the key is assigned, or the value
is assigned to its key in quotes of either kind, twice if it is listed twice. -/
def Violation.IsWritten (violation : Violation) (source : Text) : Prop :=
  match violation with
  | .noPath key => key ++ " =".toList <:+: source ∨ key ++ "=".toList <:+: source
  | .blankName name => Manifest.IsAssigned source "name".toList name
  | .repeatedName name =>
    ∃ doubles singles,
      Text.Finds (Manifest.assignment "name".toList name '"') 0 source doubles ∧
        Text.Finds (Manifest.assignment "name".toList name '\'') 0 source singles ∧
        2 ≤ doubles.length + singles.length
  | .noIdentifier entity _ => Manifest.IsAssigned source "entity".toList entity

/-- A violation is about a value when it is not about a key. -/
def Violation.IsAboutValue (violation : Violation) : Prop :=
  ∀ key, violation ≠ .noPath key

/-- An optional label has a span only. -/
theorem ManifestFault.eq_some_of_mem_labelAt
    {span : Option Span}
    {text : Text}
    {label : Label}
    (isMember : label ∈ labelAt span text) :
    span = some label.span := by
  cases span with
  | none => cases isMember
  | some span => rw [List.mem_singleton.mp isMember]

theorem ManifestFault.labelAt_ne_nil_iff
    (span : Option Span)
    (text : Text) :
    labelAt span text ≠ [] ↔ span ≠ none := by
  cases span with
  | none => simp [labelAt]
  | some span => simp [labelAt]

namespace Manifest

variable {source : Text} {violation : Violation} {fault : ManifestFault} {label : Label}

/-- The labels of a name that is listed twice are its first two places. -/
theorem coversQuoted_of_mem_duplicate
    {name : Text}
    {first second : Span}
    {others : List Span}
    (spans : valueSpans source "name".toList name = first :: second :: others)
    (isMember : label ∈ (ManifestFault.duplicate name first second).labels) :
    label.span.CoversQuoted source name := by
  have place : label.span ∈ valueSpans source "name".toList name := by
    rw [spans]
    rcases List.mem_cons.mp isMember with rfl | isSecond
    · exact List.mem_cons_self
    · rw [List.mem_singleton.mp isSecond]
      exact List.mem_cons_of_mem first List.mem_cons_self
  exact coversQuoted_of_mem_valueSpans place

/-- The labels of a violation that is about a value cover it between its quotes. -/
theorem Reports.coversQuoted
    (reports : Reports source violation fault)
    (isAboutValue : violation.IsAboutValue)
    (isMember : label ∈ fault.labels) :
    label.span.CoversQuoted source violation.subject := by
  cases reports with
  | noPath key => exact absurd rfl (isAboutValue key)
  | blankName name =>
    exact coversQuoted_of_valueSpan? (ManifestFault.eq_some_of_mem_labelAt isMember)
  | repeatedName inDouble inSingle enough spans =>
    exact coversQuoted_of_mem_duplicate spans isMember
  | unlocatedName inDouble inSingle few => cases isMember
  | noIdentifier entity table =>
    exact coversQuoted_of_valueSpan? (ManifestFault.eq_some_of_mem_labelAt isMember)

/-- A violation is labelled when what it is about is written in the text of the manifest. -/
theorem Reports.labels_ne_nil_iff
    (reports : Reports source violation fault) :
    fault.labels ≠ [] ↔ violation.IsWritten source := by
  cases reports with
  | noPath key =>
    exact (ManifestFault.labelAt_ne_nil_iff _ _).trans (keySpan?_ne_none_iff _ _)
  | blankName name =>
    exact (ManifestFault.labelAt_ne_nil_iff _ _).trans (valueSpan?_ne_none_iff _ _ _)
  | repeatedName inDouble inSingle enough spans =>
    exact iff_of_true (List.cons_ne_nil _ _) ⟨_, _, inDouble, inSingle, enough⟩
  | @unlocatedName name doubles singles inDouble inSingle few =>
    refine iff_of_false (fun labelled => labelled rfl) ?_
    rintro ⟨_, _, inDoubleToo, inSingleToo, enough⟩
    have telling := assignment_ne_nil "name".toList name
    rw [← (Text.finds_iff (telling '"') source _).mp inDoubleToo,
      ← (Text.finds_iff (telling '\'') source _).mp inSingleToo,
      (Text.finds_iff (telling '"') source _).mp inDouble,
      (Text.finds_iff (telling '\'') source _).mp inSingle] at enough
    exact absurd enough (Nat.not_le_of_lt few)
  | noIdentifier entity table =>
    exact (ManifestFault.labelAt_ne_nil_iff _ _).trans (valueSpan?_ne_none_iff _ _ _)

/-- The labels of a violation cover what it is about. -/
theorem Reports.covers
    (reports : Reports source violation fault)
    (isMember : label ∈ fault.labels) :
    label.span.Covers source violation.subject := by
  cases reports with
  | noPath key => exact covers_of_keySpan? (ManifestFault.eq_some_of_mem_labelAt isMember)
  | blankName name =>
    exact ((Reports.blankName name).coversQuoted nofun isMember).covers
  | repeatedName inDouble inSingle enough spans =>
    exact ((Reports.repeatedName inDouble inSingle enough spans).coversQuoted nofun isMember).covers
  | unlocatedName inDouble inSingle few => cases isMember
  | noIdentifier entity table =>
    exact ((Reports.noIdentifier entity table).coversQuoted nofun isMember).covers

/-- A repeated name is first labelled where it is listed first. -/
theorem Reports.first_before_second
    {name : Text}
    {first second : Span}
    (reports : Reports source violation (.duplicate name first second)) :
    first.offset < second.offset := by
  cases reports with
  | repeatedName inDouble inSingle enough spans =>
    have sorted := valueSpans_pairwise_lt source "name".toList name
    rw [spans] at sorted
    exact List.rel_of_pairwise_cons sorted List.mem_cons_self

/--
The labels of a refused manifest point at its first violation, and there are labels when its text
has what the violation is about. Each one lies inside the text, between characters, and covers
exactly what the violation is about, between its quotes when that is a value. The places of a name
that is listed twice come in their order, whichever quotes they are in.
-/
theorem labels_point_at_first_violation
    {fileName source : Text}
    {manifest : Manifest}
    {error : ManifestError}
    (refused : validate fileName source manifest = .error error) :
    ∃ violation,
      manifest.FirstViolation violation ∧
        Reports source violation error.fault ∧
        (error.fault.labels ≠ [] ↔ violation.IsWritten source) ∧
        (∀ label ∈ error.fault.labels,
          label.span.offset + label.span.length ≤ Text.byteLength source ∧
            (∀ text, label.span.Covers source text ↔ text = violation.subject) ∧
            (violation.IsAboutValue → label.span.CoversQuoted source violation.subject)) ∧
        ∀ name first second,
          error.fault = .duplicate name first second → first.offset < second.offset := by
  have faulty : fault? source manifest = some error.fault := by
    rw [validate] at refused
    split at refused
    · cases refused
      assumption
    · cases refused
  rcases (fault?_eq_some_iff source manifest error.fault).mp faulty with
    ⟨violation, isFirst, reports⟩
  refine ⟨violation, isFirst, reports, reports.labels_ne_nil_iff, ?_, ?_⟩
  · intro label isMember
    have covers := reports.covers isMember
    refine ⟨covers.inside, ?_, fun isAboutValue => reports.coversQuoted isAboutValue isMember⟩
    intro text
    constructor
    · exact fun coversText => coversText.unique covers
    · rintro rfl
      exact covers
  · intro name first second duplicate
    rw [duplicate] at reports
    exact reports.first_before_second

/-- The text of a manifest that lists one table twice, in quotes of either kind. -/
def listedTwiceText : Text :=
  ("[project]\nmigration = \"schema.sql\"\ntemplates = \"templates\"\n" ++
    "[[tables]]\nname = \x27straße\x27\n" ++ "[[tables]]\nname = \"straße\"\n").toList

/-- The manifest of that text. -/
def listedTwice : Manifest where
  root := Path.of "."
  migration := Path.of "schema.sql"
  templates := Path.of "templates"
  directories := ByCategory.constant none
  skipped := ByCategory.constant false
  overwrites := true
  strict := false
  tables := [⟨"straße".toList, none⟩, ⟨"straße".toList, none⟩]

/-- Both names are seven bytes long. -/
theorem both_places_of_listed_twice :
    ofText? listedTwiceText = some listedTwice ∧
      validate fileName listedTwiceText listedTwice =
        .error ⟨fileName, .duplicate "straße".toList ⟨78, 7⟩ ⟨106, 7⟩⟩ ∧
      ∃ violation,
        listedTwice.FirstViolation violation ∧
          (∀ text, Span.Covers ⟨78, 7⟩ listedTwiceText text ↔ text = violation.subject) ∧
          (∀ text, Span.Covers ⟨106, 7⟩ listedTwiceText text ↔ text = violation.subject) := by
  have read : ofText? listedTwiceText = some listedTwice := by decide +kernel
  have double :
      quotedSpans listedTwiceText "name".toList "straße".toList '"' = [⟨106, 7⟩] := by
    decide +kernel
  have single :
      quotedSpans listedTwiceText "name".toList "straße".toList '\'' = [⟨78, 7⟩] := by
    decide +kernel
  have duplicate :
      duplicateFault listedTwiceText "straße".toList =
        .duplicate "straße".toList ⟨78, 7⟩ ⟨106, 7⟩ := by
    rw [duplicateFault, valueSpans, double, single]
    simp [List.mergeSort]
  have refused :
      validate fileName listedTwiceText listedTwice =
        .error ⟨fileName, .duplicate "straße".toList ⟨78, 7⟩ ⟨106, 7⟩⟩ := by
    rw [← duplicate]
    rfl
  rcases labels_point_at_first_violation refused with ⟨violation, isFirst, -, -, labels, -⟩
  exact
    ⟨read, refused, violation, isFirst, (labels _ List.mem_cons_self).2.1,
      (labels _ (List.mem_of_getLast? rfl)).2.1⟩

end Manifest

end Scaffold
