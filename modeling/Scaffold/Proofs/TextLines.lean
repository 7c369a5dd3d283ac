import Mathlib.Data.List.TakeWhile
import Scaffold.Proofs.TextSearch
import Scaffold.Text.Lines

/-!
# Trimmed texts and lines

Trimming leaves a text alone exactly when neither of its ends is trimmed away, and it undoes what was
put around such a text. The lines of a text are told by a relation that follows the text from one
line ending to the next (`HasLines`). Lines without line feeds that are written one after the other
are read back, except for the carriage returns at their ends, which then belong to the line endings.
-/

namespace Scaffold.Text

/-! ## Properties of all characters -/

section Deciding

variable (property : Char → Prop) [DecidablePred property]

-- Without these two, every character that there is would be tried.
instance decidableForallMem (text : Text) :
    Decidable (∀ character ∈ text, property character) :=
  List.decidableBAll property text

instance decidableForallMemEnd (found : Option Char) :
    Decidable (∀ character ∈ found, property character) :=
  Option.decidableForallMem found

end Deciding

/-! ## Trimming -/

section Trimming

variable {drops : Char → Bool} {text : Text}

theorem trimEndWhere_append_of_dropped
    (text : Text)
    {after : Text}
    (dropped : ∀ character ∈ after, drops character = true) :
    trimEndWhere drops (text ++ after) = trimEndWhere drops text := by
  rw [trimEndWhere, trimEndWhere, List.reverse_append, List.dropWhile_append_of_pos]
  simpa using dropped

theorem trimEndWhere_eq_self
    (kept : ∀ last ∈ text.getLast?, drops last = false) :
    trimEndWhere drops text = text := by
  rw [trimEndWhere, List.reverse_eq_iff]
  rcases List.eq_nil_or_concat text with rfl | ⟨start, last, rfl⟩
  · rfl
  · rw [List.concat_eq_append, List.getLast?_concat] at kept
    rw [List.concat_eq_append, List.reverse_append, List.reverse_singleton, List.singleton_append,
      List.dropWhile_cons_of_neg]
    simpa using kept last rfl

theorem dropWhile_eq_self
    {α : Type}
    {drops : α → Bool}
    {entries : List α}
    (kept : ∀ first ∈ entries.head?, drops first = false) :
    entries.dropWhile drops = entries := by
  cases entries with
  | nil => rfl
  | cons first rest =>
    rw [List.dropWhile_cons_of_neg]
    simpa using kept first rfl

/-- A text is trimmed when neither its first nor its last character is trimmed away. -/
theorem trimWhere_eq_self_iff :
    trimWhere drops text = text ↔
      (∀ first ∈ text.head?, drops first = false) ∧ ∀ last ∈ text.getLast?, drops last = false := by
  constructor
  · intro trimmed
    constructor
    · intro first starts
      rw [← trimmed] at starts
      exact drops_head?_trimWhere starts
    · intro last ends
      rw [← trimmed] at ends
      exact drops_getLast?_trimWhere ends
  · rintro ⟨keptFirst, keptLast⟩
    rw [trimWhere, dropWhile_eq_self keptFirst, trimEndWhere_eq_self keptLast]

theorem trimWhere_of_dropped
    (dropped : ∀ character ∈ text, drops character = true) :
    trimWhere drops text = [] := by
  rw [trimWhere, List.dropWhile_eq_nil_iff.mpr dropped]
  rfl

/-- What is put around a trimmed text is trimmed away again. -/
theorem trimWhere_surrounded
    (trimmed : trimWhere drops text = text)
    {before after : Text}
    (droppedBefore : ∀ character ∈ before, drops character = true)
    (droppedAfter : ∀ character ∈ after, drops character = true) :
    trimWhere drops (before ++ text ++ after) = text := by
  rcases trimWhere_eq_self_iff.mp trimmed with ⟨keptFirst, keptLast⟩
  rw [trimWhere, List.append_assoc, List.dropWhile_append_of_pos droppedBefore]
  cases text with
  | nil =>
    rw [List.nil_append, List.dropWhile_eq_nil_iff.mpr droppedAfter]
    rfl
  | cons first rest =>
    have starts : ((first :: rest) ++ after).dropWhile drops = first :: rest ++ after :=
      dropWhile_eq_self keptFirst
    rw [starts, trimEndWhere_append_of_dropped _ droppedAfter, trimEndWhere_eq_self keptLast]

/-- Trimming takes a text away from what is around it. -/
theorem exists_trimWhere
    (drops : Char → Bool)
    (text : Text) :
    ∃ before after,
      text = before ++ trimWhere drops text ++ after ∧
        (∀ character ∈ before, drops character = true) ∧
        ∀ character ∈ after, drops character = true := by
  refine
    ⟨text.takeWhile drops, ((text.dropWhile drops).reverse.takeWhile drops).reverse, ?_, ?_, ?_⟩
  · have kept :
        text.dropWhile drops =
          trimWhere drops text ++ ((text.dropWhile drops).reverse.takeWhile drops).reverse := by
      rw [trimWhere, trimEndWhere, ← List.reverse_append, List.takeWhile_append_dropWhile,
        List.reverse_reverse]
    rw [List.append_assoc, ← kept, List.takeWhile_append_dropWhile]
  · intro character inside
    exact List.mem_takeWhile_imp inside
  · intro character inside
    exact List.mem_takeWhile_imp (List.mem_reverse.mp inside)

/-- Nothing is left of a text exactly when all of it is trimmed away. -/
theorem trimWhere_eq_nil_iff :
    trimWhere drops text = [] ↔ ∀ character ∈ text, drops character = true := by
  constructor
  · intro empty
    rcases exists_trimWhere drops text with ⟨before, after, parted, droppedBefore, droppedAfter⟩
    rw [parted, empty, List.append_nil]
    exact List.forall_mem_append.mpr ⟨droppedBefore, droppedAfter⟩
  · exact trimWhere_of_dropped

theorem trimWhere_trimWhere
    (drops : Char → Bool)
    (text : Text) :
    trimWhere drops (trimWhere drops text) = trimWhere drops text :=
  trimWhere_eq_self_iff.mpr
    ⟨fun _ starts => drops_head?_trimWhere starts, fun _ ends => drops_getLast?_trimWhere ends⟩

/-- What is put around a text makes no difference to what is left of it after trimming. -/
theorem trimWhere_append_append
    (text : Text)
    {before after : Text}
    (droppedBefore : ∀ character ∈ before, drops character = true)
    (droppedAfter : ∀ character ∈ after, drops character = true) :
    trimWhere drops (before ++ text ++ after) = trimWhere drops text := by
  rcases exists_trimWhere drops text with ⟨left, right, parted, droppedLeft, droppedRight⟩
  have order :
      before ++ text ++ after = (before ++ left) ++ trimWhere drops text ++ (right ++ after) := by
    conv => lhs; rw [parted]
    simp only [List.append_assoc]
  rw [order]
  exact trimWhere_surrounded (trimWhere_trimWhere drops text)
    (List.forall_mem_append.mpr ⟨droppedBefore, droppedLeft⟩)
    (List.forall_mem_append.mpr ⟨droppedRight, droppedAfter⟩)

/-- A start of which nothing is trimmed away stays. -/
theorem prefix_trimWhere
    {start : Text}
    (kept : ∀ character ∈ start, drops character = false)
    (rest : Text) :
    start <+: trimWhere drops (start ++ rest) := by
  cases start with
  | nil => exact List.nil_prefix
  | cons first more =>
    have starts : (first :: more ++ rest).dropWhile drops = first :: more ++ rest :=
      dropWhile_eq_self (by simpa using kept first List.mem_cons_self)
    have ends : (first :: more).reverse.dropWhile drops = (first :: more).reverse :=
      dropWhile_eq_self fun last isLast =>
        kept last (List.mem_reverse.mp (List.mem_of_head? isLast))
    rw [trimWhere, starts, trimEndWhere, List.reverse_append, List.dropWhile_append, ends]
    split
    · simp
    · rw [List.reverse_append, List.reverse_reverse]
      exact List.prefix_append _ _

end Trimming

/-! ## Carriage returns -/

theorem withoutReturn_concat
    (line : Text) :
    withoutReturn (line ++ ['\r']) = line := by
  rw [withoutReturn, List.reverse_append, List.reverse_singleton]
  exact List.reverse_reverse line

theorem withoutReturn_eq_self
    {line : Text}
    (plain : line.getLast? ≠ some '\r') :
    withoutReturn line = line := by
  rw [withoutReturn]
  split
  next start ending =>
    rw [List.getLast?_eq_head?_reverse, ending] at plain
    exact absurd rfl plain
  · rfl

theorem map_withoutReturn_eq_self
    {texts : List Text}
    (plain : ∀ line ∈ texts, line.getLast? ≠ some '\r') :
    texts.map withoutReturn = texts := by
  have same : texts.map withoutReturn = texts.map id :=
    List.map_congr_left fun line isMember => withoutReturn_eq_self (plain line isMember)
  rw [same, List.map_id]

/-- The carriage return of a line ending is trimmed away with the other white space. -/
theorem trim_withoutReturn
    (line : Text) :
    trim (withoutReturn line) = trim line := by
  rw [withoutReturn]
  split
  next start ending =>
    have order : line = [] ++ start.reverse ++ ['\r'] := by
      rw [← List.reverse_reverse line, ending, List.reverse_cons, List.nil_append]
    rw [order]
    exact
      (trimWhere_append_append start.reverse (List.forall_mem_nil _)
        (List.forall_mem_singleton.mpr rfl)).symm
  · rfl

/-! ## Lines -/

/--
The lines of a text. A line ends at a line feed, or at a carriage return and a line feed. The text
after the last line feed is a line of its own, unless there is none.
-/
inductive HasLines : Text → List Text → Prop where
  | none : HasLines [] []
  | last
      (telling : line ≠ [])
      (single : '\n' ∉ line) :
      HasLines line [line]
  | fed
      (single : '\n' ∉ line)
      (plain : line.getLast? ≠ some '\r')
      (later : HasLines rest others) :
      HasLines (line ++ '\n' :: rest) (line :: others)
  | returned
      (single : '\n' ∉ line)
      (later : HasLines rest others) :
      HasLines (line ++ '\r' :: '\n' :: rest) (line :: others)

theorem isNotFeed_of_single
    {line : Text}
    (single : '\n' ∉ line) :
    ∀ character ∈ line, (character == '\n') = false := by
  intro character inside
  rw [beq_eq_false_iff_ne]
  rintro rfl
  exact single inside

theorem lines_of_single
    {line : Text}
    (telling : line ≠ [])
    (single : '\n' ∉ line) :
    lines line = [line] := by
  rw [lines, pieces_of_plain (isNotFeed_of_single single), linesOfPieces, if_neg]
  simpa using telling

theorem lines_append_feed
    {line : Text}
    (single : '\n' ∉ line)
    (rest : Text) :
    lines (line ++ '\n' :: rest) = withoutReturn line :: lines rest := by
  have parted : pieces (· == '\n') (line ++ '\n' :: rest) = line :: pieces (· == '\n') rest := by
    rw [pieces_append_cons rfl, pieces_of_plain (isNotFeed_of_single single)]
    rfl
  rw [lines, lines, parted]
  rcases List.exists_cons_of_ne_nil (pieces_ne_nil (· == '\n') rest) with ⟨piece, others, order⟩
  rw [order]
  rfl

theorem hasLines_lines
    (text : Text) :
    HasLines text (lines text) := by
  rcases plain_or_cut (· == '\n') text with whole | ⟨start, feed, rest, rfl, isFeed, before⟩
  · have single : '\n' ∉ text := by
      intro inside
      simpa using whole '\n' inside
    by_cases silent : text = []
    · rw [silent]
      exact .none
    · rw [lines_of_single silent single]
      exact .last silent single
  · have single : '\n' ∉ start := by
      intro inside
      simpa using before '\n' inside
    have later : HasLines rest (lines rest) := hasLines_lines rest
    obtain rfl : feed = '\n' := by simpa using isFeed
    rw [lines_append_feed single]
    by_cases returns : start.getLast? = some '\r'
    · rcases List.getLast?_eq_some_iff.mp returns with ⟨line, rfl⟩
      rw [withoutReturn_concat, ← List.append_cons]
      refine .returned ?_ later
      intro inside
      exact single (List.mem_append_left _ inside)
    · rw [withoutReturn_eq_self returns]
      exact .fed single returns later
termination_by text.length
decreasing_by
  subst_vars
  simp only [List.length_append, List.length_cons]
  omega

theorem hasLines_iff
    (text : Text)
    (parts : List Text) :
    HasLines text parts ↔ parts = lines text := by
  constructor
  · intro parted
    induction parted with
    | none => rfl
    | last telling single => exact (lines_of_single telling single).symm
    | fed single plain later hypothesis =>
      rw [lines_append_feed single, withoutReturn_eq_self plain, ← hypothesis]
    | @returned line rest others single later hypothesis =>
      have longer : '\n' ∉ line ++ ['\r'] := by simpa using single
      rw [List.append_cons, lines_append_feed longer, withoutReturn_concat, ← hypothesis]
  · rintro rfl
    exact hasLines_lines text

/-- Lines that are written are read back without their carriage returns. -/
theorem lines_written
    {texts : List Text}
    (single : ∀ line ∈ texts, '\n' ∉ line) :
    lines (written texts) = texts.map withoutReturn := by
  induction texts with
  | nil => rfl
  | cons line texts hypothesis =>
    rw [List.forall_mem_cons] at single
    rw [written_cons, lines_append_feed single.1, hypothesis single.2, List.map_cons]

theorem single_of_mem_lines
    {text line : Text}
    (isMember : line ∈ lines text) :
    '\n' ∉ line := by
  have parted := hasLines_lines text
  generalize lines text = parts at parted isMember
  induction parted with
  | none => cases isMember
  | last telling single =>
    rw [List.mem_singleton.mp isMember]
    exact single
  | fed single plain later hypothesis =>
    rcases List.mem_cons.mp isMember with rfl | isLater
    · exact single
    · exact hypothesis isLater
  | returned single later hypothesis =>
    rcases List.mem_cons.mp isMember with rfl | isLater
    · exact single
    · exact hypothesis isLater

/-- Every carriage return of a text belongs to a line ending. -/
def ReturnsEndLines (text : Text) : Prop :=
  ∀ before after, text = before ++ '\r' :: after → ∃ rest, after = '\n' :: rest

theorem returnsEndLines_of_getElem?
    {text : Text}
    (steps :
      ∀ index < text.length, text[index]? = some '\r' → text[index + 1]? = some '\n') :
    ReturnsEndLines text := by
  rintro before after rfl
  have follows := steps before.length (by simp) (by simp)
  apply List.head?_eq_some_iff.mp
  simpa [List.getElem?_append_right, List.head?_eq_getElem?] using follows

theorem ReturnsEndLines.of_append
    {before text : Text}
    (ends : ReturnsEndLines (before ++ text)) :
    ReturnsEndLines text := by
  rintro start after rfl
  exact ends (before ++ start) after (List.append_assoc _ _ _).symm

/-- A line without a line feed holds no carriage return but the last of what is before the feed. -/
theorem return_not_mem_of_returnsEndLines
    {line rest : Text}
    (single : '\n' ∉ line)
    (ends : ReturnsEndLines (line ++ rest))
    (apart : line.getLast? = some '\r' → rest.head? ≠ some '\n') :
    '\r' ∉ line := by
  intro inside
  rcases List.append_of_mem inside with ⟨before, after, rfl⟩
  rcases ends before (after ++ rest) (by simp) with ⟨more, order⟩
  cases after with
  | nil =>
    rw [List.nil_append] at order
    exact apart List.getLast?_concat (by rw [order, List.head?_cons])
  | cons first after =>
    rw [List.cons_append, List.cons.injEq] at order
    apply single
    rw [order.1]
    simp

theorem return_not_mem_of_mem_lines
    {text line : Text}
    (ends : ReturnsEndLines text)
    (isMember : line ∈ lines text) :
    '\r' ∉ line := by
  have parted := hasLines_lines text
  generalize lines text = parts at parted isMember
  induction parted with
  | none => cases isMember
  | @last line telling single =>
    rw [List.mem_singleton.mp isMember]
    rw [← List.append_nil line] at ends
    exact return_not_mem_of_returnsEndLines single ends (by simp)
  | fed single plain later hypothesis =>
    rcases List.mem_cons.mp isMember with rfl | isLater
    · exact return_not_mem_of_returnsEndLines single ends fun returns => absurd returns plain
    · rw [List.append_cons] at ends
      exact hypothesis ends.of_append isLater
  | @returned start rest others single later hypothesis =>
    rcases List.mem_cons.mp isMember with rfl | isLater
    · exact return_not_mem_of_returnsEndLines single ends (by simp)
    · rw [List.append_cons, List.append_cons] at ends
      exact hypothesis ends.of_append isLater

end Scaffold.Text
