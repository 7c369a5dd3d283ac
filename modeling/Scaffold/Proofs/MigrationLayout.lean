import Scaffold.Proofs.JoinedMigrations

/-!
# The layout of migrations

The layout of a migration is what may be changed without a change of its meaning: lines that are
blank or hold a comment may come and go, the white space at both ends of a line may be any other
white space, a carriage return may stand before a line feed or not, and the last line may be ended
or not (`LayoutChange`).

A change of the layout anywhere leaves the significant lines alone, and reading sees nothing else of
a migration. The changes are also complete: by them every migration becomes the text in which each
of its significant lines stands on a line of its own (`sameLayout_written`), so two migrations have
the same layout up to such changes exactly when their significant lines are the same
(`sameLayout_iff`).
-/

namespace Scaffold.Migration

/-! ## Changes of the layout -/

/-- A line starts behind this text. -/
def StartsLine (before : Text) : Prop :=
  before = [] ∨ ∃ start, before = start ++ ['\n']

/-- A line ends before this text. -/
def EndsLine (after : Text) : Prop :=
  after = [] ∨ ∃ rest, after = '\n' :: rest

/-- White space within a line. -/
def IsMargin (text : Text) : Prop :=
  ∀ character ∈ text, Text.isBlank character = true ∧ character ≠ '\n'

/-- A line of white space, or one with two hyphens in front of everything that is not white
space. -/
inductive IsSilent : Text → Prop where
  | blank
      (margin : IsMargin line) :
      IsSilent line
  | comment
      (margin : IsMargin left)
      (single : '\n' ∉ remark) :
      IsSilent (left ++ ("--".toList ++ remark))

/-- A line feed, or a carriage return and a line feed. -/
def IsLineEnding (ending : Text) : Prop :=
  ending = ['\n'] ∨ ending = ['\r', '\n']

/-- One change of the layout at any place of a text, in one of its two directions. -/
inductive LayoutChange : Text → Text → Prop where
  /-- A silent line comes in. -/
  | silentLine
      (starts : StartsLine before)
      (silent : IsSilent line)
      (ends : IsLineEnding ending) :
      LayoutChange (before ++ after) (before ++ line ++ ending ++ after)
  /-- The white space at the ends of a line becomes other white space. -/
  | margins
      (starts : StartsLine before)
      (left : IsMargin leftMargin)
      (left' : IsMargin otherLeftMargin)
      (single : '\n' ∉ core)
      (right : IsMargin rightMargin)
      (right' : IsMargin otherRightMargin)
      (ends : EndsLine after) :
      LayoutChange (before ++ (leftMargin ++ core ++ rightMargin) ++ after)
        (before ++ (otherLeftMargin ++ core ++ otherRightMargin) ++ after)
  /-- A carriage return comes in before a line feed. -/
  | carriageReturn :
      LayoutChange (before ++ '\n' :: after) (before ++ '\r' :: '\n' :: after)
  /-- The last line is ended. -/
  | lastEnding
      (ends : IsLineEnding ending) :
      LayoutChange text (text ++ ending)

/-- Two texts become one another by changes of the layout, as many as need be, in both
directions. -/
def SameLayout : Text → Text → Prop :=
  Relation.EqvGen LayoutChange

/-! ## Significant lines of parts -/

theorem significantLines_append_of_startsLine
    {before : Text}
    (starts : StartsLine before)
    (text : Text) :
    significantLines (before ++ text) = significantLines before ++ significantLines text := by
  rcases starts with rfl | ⟨start, rfl⟩
  · rfl
  · have nothing : significantLines (start ++ '\n' :: []) = significantLines start ++ [] :=
      significantLines_append start []
    rw [nothing, List.append_nil, List.append_assoc, List.singleton_append,
      significantLines_append]

theorem significantLines_append_of_endsLine
    (line : Text)
    {after : Text}
    (ends : EndsLine after) :
    significantLines (line ++ after) = significantLines line ++ significantLines after := by
  rcases ends with rfl | ⟨rest, rfl⟩
  · rw [List.append_nil]
    exact (List.append_nil _).symm
  · have nothing : significantLines ([] ++ '\n' :: rest) = [] ++ significantLines rest :=
      significantLines_append [] rest
    rw [List.nil_append, List.nil_append] at nothing
    rw [significantLines_append, nothing]

theorem significantLines_of_single
    {line : Text}
    (single : '\n' ∉ line) :
    significantLines line = [Text.trim line].filter isSignificant := by
  rw [significantLines_eq_pieces, Text.pieces_of_plain (Text.isNotFeed_of_single single),
    List.map_singleton]

theorem IsMargin.single
    {margin : Text}
    (isMargin : IsMargin margin) :
    '\n' ∉ margin :=
  fun inside => (isMargin '\n' inside).2 rfl

theorem IsMargin.dropped
    {margin : Text}
    (isMargin : IsMargin margin) :
    ∀ character ∈ margin, Text.isBlank character = true :=
  fun character inside => (isMargin character inside).1

theorem isMargin_of_dropped
    {text : Text}
    (dropped : ∀ character ∈ text, Text.isBlank character = true)
    (single : '\n' ∉ text) :
    IsMargin text := by
  intro character inside
  refine ⟨dropped character inside, ?_⟩
  rintro rfl
  exact single inside

theorem isMargin_nil : IsMargin [] :=
  List.forall_mem_nil _

theorem isMargin_return : IsMargin ['\r'] :=
  List.forall_mem_singleton.mpr (by decide)

/-- White space at the ends of a line does not count. -/
theorem significantLines_surrounded
    {left core right : Text}
    (isLeft : IsMargin left)
    (single : '\n' ∉ core)
    (isRight : IsMargin right) :
    significantLines (left ++ core ++ right) = significantLines core := by
  have singleAll : '\n' ∉ left ++ core ++ right := by
    simp [isLeft.single, single, isRight.single]
  have same : Text.trim (left ++ core ++ right) = Text.trim core :=
    Text.trimWhere_append_append core isLeft.dropped isRight.dropped
  rw [significantLines_of_single singleAll, significantLines_of_single single, same]

/-! ## Silent lines -/

theorem isSignificant_eq_false_iff
    (line : Text) :
    isSignificant line = false ↔ line = [] ∨ "--".toList <+: line := by
  rw [isSignificant, Bool.and_eq_false_iff, Bool.not_eq_false', Bool.not_eq_false',
    List.isEmpty_iff, List.isPrefixOf_iff_prefix]

theorem IsSilent.single
    {line : Text}
    (silent : IsSilent line) :
    '\n' ∉ line := by
  cases silent with
  | blank margin => exact margin.single
  | @comment left remark margin single =>
    have hyphens : '\n' ∉ "--".toList := by decide
    simp only [List.mem_append, not_or]
    exact ⟨margin.single, hyphens, single⟩

/-- The silent lines are those that are not significant once their white space is trimmed away. -/
theorem isSilent_iff
    {line : Text}
    (single : '\n' ∉ line) :
    IsSilent line ↔ isSignificant (Text.trim line) = false := by
  rw [isSignificant_eq_false_iff]
  constructor
  · rintro (margin | ⟨margin, -⟩)
    · exact Or.inl (Text.trimWhere_of_dropped margin.dropped)
    next left remark =>
      have same : Text.trim (left ++ ("--".toList ++ remark) ++ []) = Text.trim _ :=
        Text.trimWhere_append_append _ margin.dropped (List.forall_mem_nil _)
      rw [List.append_nil] at same
      rw [same]
      exact Or.inr (Text.prefix_trimWhere (by decide) remark)
  · intro unsaid
    rcases Text.exists_trimWhere Text.isBlank line with
      ⟨before, after, order, droppedBefore, droppedAfter⟩
    change line = before ++ Text.trim line ++ after at order
    rcases unsaid with none | ⟨remark, starts⟩
    · rw [none, List.append_nil] at order
      refine .blank (isMargin_of_dropped ?_ single)
      rw [order, List.forall_mem_append]
      exact ⟨droppedBefore, droppedAfter⟩
    · rw [← starts, List.append_assoc, List.append_assoc] at order
      rw [order] at single ⊢
      simp only [List.mem_append, not_or] at single
      refine .comment (isMargin_of_dropped droppedBefore single.1) ?_
      simp only [List.mem_append, not_or]
      exact single.2.2

theorem IsSilent.significantLines
    {line : Text}
    (silent : IsSilent line) :
    significantLines line = [] := by
  rw [significantLines_of_single silent.single, List.filter_cons_of_neg, List.filter_nil]
  rw [(isSilent_iff silent.single).mp silent]
  exact Bool.false_ne_true

/-! ## Changes leave the significant lines alone -/

theorem significantLines_margins
    {before left core right after : Text}
    (starts : StartsLine before)
    (isLeft : IsMargin left)
    (single : '\n' ∉ core)
    (isRight : IsMargin right)
    (ends : EndsLine after) :
    significantLines (before ++ (left ++ core ++ right) ++ after) =
      significantLines before ++ significantLines core ++ significantLines after := by
  rw [significantLines_append_of_endsLine _ ends, significantLines_append_of_startsLine starts,
    significantLines_surrounded isLeft single isRight]

/-- The last line of a text, after the lines that are ended in it. -/
theorem exists_lastLine
    (text : Text) :
    ∃ start line, text = start ++ line ∧ StartsLine start ∧ '\n' ∉ line := by
  induction text using List.reverseRecOn with
  | nil => exact ⟨[], [], rfl, Or.inl rfl, List.not_mem_nil⟩
  | append_singleton text last hypothesis =>
    by_cases isFeed : last = '\n'
    · rw [isFeed]
      exact ⟨text ++ ['\n'], [], (List.append_nil _).symm, Or.inr ⟨text, rfl⟩, List.not_mem_nil⟩
    · rcases hypothesis with ⟨start, line, rfl, starts, single⟩
      refine ⟨start, line ++ [last], List.append_assoc _ _ _, starts, ?_⟩
      simp [single, Ne.symm isFeed]

/-- A carriage return before a line feed does not count. -/
theorem significantLines_carriageReturn
    (before after : Text) :
    significantLines (before ++ '\r' :: '\n' :: after) =
      significantLines (before ++ '\n' :: after) := by
  rcases exists_lastLine before with ⟨start, line, rfl, starts, single⟩
  have ends : EndsLine ('\n' :: after) := Or.inr ⟨after, rfl⟩
  have without := significantLines_margins starts isMargin_nil single isMargin_nil ends
  have returned := significantLines_margins starts isMargin_nil single isMargin_return ends
  rw [List.nil_append, List.append_nil] at without
  rw [List.nil_append, List.append_assoc, List.append_assoc, List.singleton_append,
    ← List.append_assoc] at returned
  rw [without, returned]

theorem significantLines_append_ending
    (before : Text)
    {ending : Text}
    (ends : IsLineEnding ending)
    (after : Text) :
    significantLines (before ++ ending ++ after) =
      significantLines before ++ significantLines after := by
  rw [List.append_assoc, ← significantLines_append]
  rcases ends with rfl | rfl
  · rfl
  · exact significantLines_carriageReturn before after

/-- A change of the layout leaves the significant lines alone. -/
theorem LayoutChange.significantLines_eq
    {first second : Text}
    (change : LayoutChange first second) :
    significantLines first = significantLines second := by
  cases change with
  | @silentLine before line ending after starts silent ends =>
    rw [significantLines_append_ending _ ends, significantLines_append_of_startsLine starts,
      significantLines_append_of_startsLine starts, silent.significantLines, List.append_nil]
  | margins starts left left' single right right' ends =>
    rw [significantLines_margins starts left single right ends,
      significantLines_margins starts left' single right' ends]
  | carriageReturn => exact (significantLines_carriageReturn _ _).symm
  | @lastEnding ending text ends =>
    have ended := significantLines_append_ending first ends []
    rw [List.append_nil] at ended
    rw [ended]
    exact (List.append_nil _).symm

theorem SameLayout.significantLines_eq
    {first second : Text}
    (same : SameLayout first second) :
    significantLines first = significantLines second := by
  induction same with
  | rel first second change => exact change.significantLines_eq
  | refl text => rfl
  | symm first second _ hypothesis => exact hypothesis.symm
  | trans first second third _ _ hypothesis later => exact hypothesis.trans later

/-! ## Significant lines tell the layout -/

/-- A line that is ended is left out when it is silent, and stands without its white space
otherwise. -/
theorem sameLayout_line
    {before line : Text}
    (starts : StartsLine before)
    (single : '\n' ∉ line)
    (rest : Text) :
    SameLayout (before ++ (line ++ '\n' :: rest))
      (before ++ (Text.written ([Text.trim line].filter isSignificant) ++ rest)) := by
  cases significant : isSignificant (Text.trim line) with
  | false =>
    have silent := (isSilent_iff single).mpr significant
    rw [List.filter_cons_of_neg (by simp [significant])]
    apply Relation.EqvGen.symm
    apply Relation.EqvGen.rel
    have change : LayoutChange (before ++ rest) (before ++ line ++ ['\n'] ++ rest) :=
      .silentLine starts silent (Or.inl rfl)
    simpa using change
  | true =>
    rcases Text.exists_trimWhere Text.isBlank line with
      ⟨left, right, order, droppedLeft, droppedRight⟩
    change line = left ++ Text.trim line ++ right at order
    have parts : '\n' ∉ left ∧ '\n' ∉ Text.trim line ∧ '\n' ∉ right := by
      rw [order] at single
      simpa [and_assoc] using single
    rw [List.filter_cons_of_pos significant]
    apply Relation.EqvGen.rel
    have change :
        LayoutChange (before ++ (left ++ Text.trim line ++ right) ++ '\n' :: rest)
          (before ++ ([] ++ Text.trim line ++ []) ++ '\n' :: rest) :=
      .margins starts (isMargin_of_dropped droppedLeft parts.1) isMargin_nil parts.2.1
        (isMargin_of_dropped droppedRight parts.2.2) isMargin_nil (Or.inr ⟨rest, rfl⟩)
    rw [← order] at change
    simpa using change

/--
By changes of the layout, every significant line of a text comes to stand on a line of its own
behind what has been laid out before. The recursion cuts the text at its first line feed.
-/
theorem sameLayout_written_behind
    {before : Text}
    (starts : StartsLine before)
    (text : Text) :
    SameLayout (before ++ text) (before ++ Text.written (significantLines text)) := by
  have startsWritten (line : Text) :
      StartsLine (before ++ Text.written ([Text.trim line].filter isSignificant)) := by
    cases significant : isSignificant (Text.trim line) with
    | false => simpa [significant] using starts
    | true => exact Or.inr ⟨before ++ Text.trim line, by simp [significant]⟩
  rcases Text.plain_or_cut (· == '\n') text with whole | ⟨line, feed, rest, rfl, isFeed, plain⟩
  · have single : '\n' ∉ text := by
      intro inside
      simpa using whole '\n' inside
    -- the last line is ended first, so that it is laid out like the others
    have ended : LayoutChange (before ++ text) (before ++ text ++ ['\n']) :=
      .lastEnding (Or.inl rfl)
    have laid := sameLayout_line starts single []
    rw [List.append_nil, ← List.append_assoc] at laid
    rw [significantLines_of_single single]
    exact (Relation.EqvGen.rel _ _ ended).trans _ _ _ laid
  · have single : '\n' ∉ line := by
      intro inside
      simpa using plain '\n' inside
    obtain rfl : feed = '\n' := by simpa using isFeed
    have laid := sameLayout_line starts single rest
    have later := sameLayout_written_behind (startsWritten line) rest
    rw [List.append_assoc, List.append_assoc] at later
    rw [significantLines_append, significantLines_of_single single, Text.written_append]
    exact laid.trans _ _ _ later
termination_by text.length
decreasing_by
  subst_vars
  simp only [List.length_append, List.length_cons]
  omega

/-- By changes of the layout, every significant line of a migration comes to stand on a line of its
own. -/
theorem sameLayout_written
    (migration : Text) :
    SameLayout migration (Text.written (significantLines migration)) :=
  sameLayout_written_behind (Or.inl rfl) migration

/-- Migrations differ in their layout only, exactly when they have the same significant lines. -/
theorem sameLayout_iff
    (first second : Text) :
    SameLayout first second ↔ significantLines first = significantLines second := by
  constructor
  · exact SameLayout.significantLines_eq
  · intro same
    have laid := sameLayout_written first
    rw [same] at laid
    exact laid.trans _ _ _ (sameLayout_written second).symm

/-! ## Reading -/

/-- Migrations that differ in their layout only are read alike, whatever is asked for. -/
theorem tablesOf_eq_of_sameLayout
    {first second : Text}
    (same : SameLayout first second)
    (requested : List Text) :
    tablesOf first requested = tablesOf second requested := by
  rw [tablesOf, tablesOf, scan, scan, same.significantLines_eq]

/-- A migration without anything that could be left out. -/
def denseMigration : Text :=
  "CREATE TABLE users (\nid int,\nname text\n);".toList

/-- The same migration with comments, blank lines, all kinds of white space and line endings. -/
def airyMigration : Text :=
  ("-- users\r\n\tCREATE TABLE users (\u2003\r\n\r\n\u00a0id int,\n   -- the name\r\n" ++
    "  name text \u0085\n\n--\n );\r\n").toList

theorem airy_migration_reads_like_dense :
    SameLayout denseMigration airyMigration ∧
      tablesOf airyMigration ["users".toList] =
        .ok
          [⟨"users".toList,
            [⟨"id".toList, "int".toList, true⟩, ⟨"name".toList, "text".toList, true⟩]⟩] ∧
      tablesOf airyMigration ["posts".toList] = .error (.tablesNotFound ["posts".toList]) := by
  have same : SameLayout denseMigration airyMigration :=
    (sameLayout_iff _ _).mpr (by decide +kernel)
  refine ⟨same, ?_, ?_⟩
  · rw [← tablesOf_eq_of_sameLayout same]
    decide +kernel
  · rw [← tablesOf_eq_of_sameLayout same]
    decide +kernel

end Scaffold.Migration
