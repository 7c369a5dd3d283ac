import Scaffold.Text.Blank

/-!
# Searching texts

Searching a text finds exactly what stands in it. `Text.contains` decides whether a text has another
one as an infix, `Text.after?` gives the rest behind a start, and `Text.cutAt?` cuts at the first
occurrence of a mark: it gives a piece that the mark does not begin in, not even together with the
mark itself. A mark without a character stands on one side of it. The pieces between separating
characters hold no separating character, so a word holds no white space, and trimming takes only
from the ends.
-/

namespace Scaffold.Text

/-! ## Infixes and starts -/

theorem contains_iff
    (needle text : Text) :
    contains needle text = true ↔ needle <:+: text := by
  induction text with
  | nil => simp [contains]
  | cons character rest induction =>
    rw [contains, Bool.or_eq_true, List.isPrefixOf_iff_prefix, induction]
    exact List.infix_cons_iff.symm

theorem after?_eq_some_iff
    (start text rest : Text) :
    after? start text = some rest ↔ text = start ++ rest := by
  induction start generalizing text with
  | nil => simp [after?]
  | cons expected start induction =>
    cases text with
    | nil => simp [after?]
    | cons character text =>
      by_cases same : expected = character
      · subst same
        simp [after?, induction]
      · simp [after?, same, Ne.symm same]

/-! ## Marks on either side of a character -/

/-- A start does not reach an entry that is not in it. -/
theorem prefix_of_prefix_append
    {α : Type}
    {start left right : List α}
    (begins : start <+: left ++ right)
    (stops : ∀ first ∈ right.head?, first ∉ start) :
    start <+: left := by
  rcases List.prefix_or_prefix_of_prefix begins (List.prefix_append left right) with
    shorter | ⟨more, rfl⟩
  · exact shorter
  · rw [List.prefix_append_right_inj] at begins
    cases more with
    | nil => exact (List.append_nil left).symm ▸ List.prefix_refl left
    | cons first more =>
      rcases begins with ⟨others, rfl⟩
      exact absurd (List.mem_append_right left List.mem_cons_self) (stops first rfl)

theorem prefix_of_prefix_append_cons
    {start left right : Text}
    {character : Char}
    (absent : character ∉ start)
    (begins : start <+: left ++ character :: right) :
    start <+: left :=
  prefix_of_prefix_append begins (by simpa using absent)

/-- A mark without a character stands on one side of it. -/
theorem infix_or_infix_of_infix_append_cons
    {mark left right : Text}
    {character : Char}
    (absent : character ∉ mark)
    (found : mark <:+: left ++ character :: right) :
    mark <:+: left ∨ mark <:+: right := by
  induction left with
  | nil =>
    rcases List.infix_cons_iff.mp found with begins | later
    · have silent : mark <+: [] := prefix_of_prefix_append_cons absent begins
      exact Or.inl silent.isInfix
    · exact Or.inr later
  | cons first left hypothesis =>
    rcases List.infix_cons_iff.mp found with begins | later
    · have within : mark <+: first :: left := prefix_of_prefix_append_cons absent begins
      exact Or.inl within.isInfix
    · exact (hypothesis later).imp_left List.infix_cons

theorem takeWhile_append_cons_of_not_mem
    {left : Text}
    {character : Char}
    (absent : character ∉ left)
    (right : Text) :
    (left ++ character :: right).takeWhile (· != character) = left := by
  have before : ∀ other ∈ left, (other != character) = true := by
    intro other inside
    rw [bne_iff_ne]
    rintro rfl
    exact absent inside
  rw [List.takeWhile_append_of_pos before, List.takeWhile_cons_of_neg (by simp), List.append_nil]

/-- Texts that are cut at their first occurrence of a character are equal part by part. -/
theorem eq_and_eq_of_append_cons_eq
    {left right other rest : Text}
    {character : Char}
    (absent : character ∉ left)
    (absentOther : character ∉ other)
    (equal : left ++ character :: right = other ++ character :: rest) :
    left = other ∧ right = rest := by
  have same : left = other := by
    rw [← takeWhile_append_cons_of_not_mem absent right, equal,
      takeWhile_append_cons_of_not_mem absentOther rest]
  subst same
  exact ⟨rfl, (List.cons.inj (List.append_cancel_left equal)).2⟩

/-- A mark around a character stands around its first occurrence or behind it. -/
theorem around_or_infix_of_infix_append_cons
    {before after left right : Text}
    {character : Char}
    (absent : character ∉ before)
    (absentLeft : character ∉ left)
    (found : before ++ character :: after <:+: left ++ character :: right) :
    (before <:+ left ∧ after <+: right) ∨ before ++ character :: after <:+: right := by
  have around {left : Text} (absentLeft : character ∉ left)
      (begins : before ++ character :: after <+: left ++ character :: right) :
      before = left ∧ after <+: right := by
    rcases begins with ⟨more, equal⟩
    rw [List.append_assoc, List.cons_append] at equal
    rcases eq_and_eq_of_append_cons_eq absent absentLeft equal with ⟨same, rfl⟩
    exact ⟨same, List.prefix_append after more⟩
  induction left with
  | nil =>
    rcases List.infix_cons_iff.mp found with begins | later
    · rcases around List.not_mem_nil begins with ⟨rfl, follows⟩
      exact Or.inl ⟨List.suffix_refl [], follows⟩
    · exact Or.inr later
  | cons first left hypothesis =>
    rcases List.infix_cons_iff.mp found with begins | later
    · rcases around absentLeft begins with ⟨rfl, follows⟩
      exact Or.inl ⟨List.suffix_refl _, follows⟩
    · have absentRest : character ∉ left := fun inside => absentLeft (List.mem_cons_of_mem _ inside)
      exact
        (hypothesis absentRest later).imp_left
          (And.imp_left fun ends => ends.trans (List.suffix_cons first left))

/-! ## The first occurrence of a mark -/

theorem eq_append_of_cutAt?_eq_some
    {mark text before rest : Text}
    (cut : cutAt? mark text = some (before, rest)) :
    text = before ++ mark ++ rest := by
  induction text generalizing before with
  | nil =>
    by_cases silent : mark.isEmpty
    · simp only [cutAt?, silent, if_true, Option.some.injEq, Prod.mk.injEq] at cut
      rcases cut with ⟨rfl, rfl⟩
      simpa using (List.isEmpty_iff.mp silent).symm
    · simp [cutAt?, silent] at cut
  | cons character text induction =>
    rw [cutAt?] at cut
    split at cut
    next remainder found =>
      simp only [Option.some.injEq, Prod.mk.injEq] at cut
      rcases cut with ⟨rfl, rfl⟩
      simpa using (after?_eq_some_iff _ _ _).mp found
    next =>
      rcases Option.map_eq_some_iff.mp cut with ⟨⟨later, remainder⟩, found, equal⟩
      simp only [Prod.mk.injEq] at equal
      rcases equal with ⟨rfl, rfl⟩
      rw [induction found]
      simp

theorem cutAt?_eq_none_of_absent
    {mark text : Text}
    (absent : ¬ mark <:+: text) :
    cutAt? mark text = none := by
  cases cut : cutAt? mark text with
  | none => rfl
  | some found =>
    rcases found with ⟨before, rest⟩
    have parted : text = before ++ mark ++ rest := eq_append_of_cutAt?_eq_some cut
    exact absurd ⟨before, rest, parted.symm⟩ absent

/--
A mark does not begin inside a text, even when the mark follows the text: its first occurrence is
then the one behind the text.
-/
def Unbroken (mark text : Text) : Prop :=
  ¬ mark <:+: text ++ mark.dropLast

theorem Unbroken.tail
    {mark text : Text}
    {character : Char}
    (unbroken : Unbroken mark (character :: text)) :
    Unbroken mark text := by
  intro found
  exact unbroken (List.infix_cons found)

/-- A mark does not begin at a character of a text that it does not break. -/
theorem Unbroken.not_prefix
    {mark piece : Text}
    {character : Char}
    (telling : mark ≠ [])
    (unbroken : Unbroken mark (character :: piece))
    (rest : Text) :
    ¬ mark <+: character :: (piece ++ mark ++ rest) := by
  intro begins
  -- a mark that begins here ends before the last character of the one behind the piece
  have within : character :: piece ++ mark.dropLast <+: character :: piece ++ mark ++ rest :=
    ((List.prefix_append_right_inj _).mpr mark.dropLast_prefix).trans (List.prefix_append _ _)
  have long : 0 < mark.length := List.length_pos_iff.mpr telling
  have short : mark.length ≤ (character :: piece ++ mark.dropLast).length := by
    simp only [List.length_append, List.length_cons, List.length_dropLast]
    omega
  exact unbroken (List.prefix_of_prefix_length_le begins within short).isInfix

theorem cutAt?_append_of_unbroken
    {mark piece : Text}
    (telling : mark ≠ [])
    (unbroken : Unbroken mark piece)
    (rest : Text) :
    cutAt? mark (piece ++ mark ++ rest) = some (piece, rest) := by
  induction piece with
  | nil =>
    rcases List.exists_cons_of_ne_nil telling with ⟨first, others, rfl⟩
    have found : after? (first :: others) (first :: (others ++ rest)) = some rest :=
      (after?_eq_some_iff _ _ _).mpr rfl
    simp [cutAt?, found]
  | cons character piece induction =>
    have later : after? mark (character :: (piece ++ mark ++ rest)) = none := by
      cases found : after? mark (character :: (piece ++ mark ++ rest)) with
      | none => rfl
      | some remainder =>
        have begins : mark <+: character :: (piece ++ mark ++ rest) :=
          ⟨remainder, ((after?_eq_some_iff _ _ _).mp found).symm⟩
        exact absurd begins (unbroken.not_prefix telling rest)
    simp only [List.cons_append, cutAt?, later, induction unbroken.tail, Option.map_some]

/-- A mark that stands in a text stands behind a piece that it does not break. -/
theorem exists_unbroken_of_infix
    {mark text : Text}
    (telling : mark ≠ [])
    (found : mark <:+: text) :
    ∃ piece rest, text = piece ++ mark ++ rest ∧ Unbroken mark piece := by
  induction text with
  | nil => exact absurd (List.infix_nil.mp found) telling
  | cons character text induction =>
    by_cases begins : mark <+: character :: text
    · rcases begins with ⟨rest, order⟩
      refine ⟨[], rest, order.symm, ?_⟩
      intro inside
      have short := inside.length_le
      have long : 0 < mark.length := List.length_pos_iff.mpr telling
      simp only [List.nil_append, List.length_dropLast] at short
      omega
    · rcases induction ((List.infix_cons_iff.mp found).resolve_left begins) with
        ⟨piece, rest, rfl, unbroken⟩
      refine ⟨character :: piece, rest, rfl, ?_⟩
      intro inside
      rcases List.infix_cons_iff.mp inside with starts | later
      · have within : piece ++ mark.dropLast <+: piece ++ mark ++ rest :=
          ((List.prefix_append_right_inj _).mpr mark.dropLast_prefix).trans
            (List.prefix_append _ _)
        exact begins (starts.trans (List.cons_prefix_cons.mpr ⟨rfl, within⟩))
      · exact unbroken later

/-! ## Pieces, words and trimmed texts -/

/-- A piece holds characters of the text only, and none that separates. -/
theorem mem_and_not_isSeparator_of_mem_pieces
    {isSeparator : Char → Bool}
    {text piece : Text}
    (member : piece ∈ pieces isSeparator text) :
    ∀ character ∈ piece, character ∈ text ∧ isSeparator character = false := by
  induction text generalizing piece with
  | nil => simp_all [pieces]
  | cons first rest induction =>
    rw [pieces] at member
    have lift {other : Text} (later : other ∈ pieces isSeparator rest) :
        ∀ character ∈ other, character ∈ first :: rest ∧ isSeparator character = false :=
      fun character inside =>
        (induction later character inside).imp_left (List.mem_cons_of_mem _)
    split at member
    next =>
      rcases List.mem_cons.mp member with rfl | later
      · simp
      · exact lift later
    next separates =>
      split at member
      next none => exact absurd none (pieces_ne_nil isSeparator rest)
      next head others split =>
        rcases List.mem_cons.mp member with rfl | later
        · intro character inside
          rcases List.mem_cons.mp inside with rfl | inside
          · exact ⟨List.mem_cons_self, by simpa using separates⟩
          · exact lift (by simp [split]) character inside
        · exact lift (by simp [split, later])

/-- The words of a text hold no white space. -/
theorem isBlank_of_mem_words
    {text word : Text}
    (member : word ∈ words text) :
    ∀ character ∈ word, isBlank character = false :=
  fun character inside =>
    (mem_and_not_isSeparator_of_mem_pieces (List.mem_filter.mp member).1 character inside).2

theorem trimEndWhere_isPrefix
    (drops : Char → Bool)
    (text : Text) :
    trimEndWhere drops text <+: text := by
  rw [← List.reverse_suffix, trimEndWhere, List.reverse_reverse]
  exact List.dropWhile_suffix drops

theorem mem_of_mem_trimWhere
    {drops : Char → Bool}
    {text : Text}
    {character : Char}
    (member : character ∈ trimWhere drops text) :
    character ∈ text :=
  (List.dropWhile_suffix drops).mem ((trimEndWhere_isPrefix drops _).mem member)

/-- What is left after trimming the end does not end in a character that is trimmed away. -/
theorem drops_getLast?_trimEndWhere
    {drops : Char → Bool}
    {text : Text}
    {last : Char}
    (ends : (trimEndWhere drops text).getLast? = some last) :
    drops last = false := by
  rw [trimEndWhere, List.getLast?_reverse] at ends
  cases rest : text.reverse.dropWhile drops with
  | nil => simp [rest] at ends
  | cons first others =>
    have kept : drops first = false := by
      simpa [rest] using List.head?_dropWhile_not drops text.reverse
    rw [rest] at ends
    simpa [← Option.some.inj ends] using kept

/-- What is left after trimming does not end in a character that is trimmed away. -/
theorem drops_getLast?_trimWhere
    {drops : Char → Bool}
    {text : Text}
    {last : Char}
    (ends : (trimWhere drops text).getLast? = some last) :
    drops last = false :=
  drops_getLast?_trimEndWhere ends

/-- What is left after trimming does not start with a character that is trimmed away. -/
theorem drops_head?_trimWhere
    {drops : Char → Bool}
    {text : Text}
    {first : Char}
    (starts : (trimWhere drops text).head? = some first) :
    drops first = false := by
  have shorter : trimWhere drops text <+: text.dropWhile drops := trimEndWhere_isPrefix _ _
  rcases List.head?_eq_some_iff.mp starts with ⟨rest, order⟩
  rw [order] at shorter
  rcases shorter with ⟨more, longer⟩
  have kept := List.head?_dropWhile_not drops text
  rw [← longer] at kept
  simpa using kept

/-! ## Pieces of longer texts -/

theorem pieces_append_cons
    {isSeparator : Char → Bool}
    {separator : Char}
    (separates : isSeparator separator = true)
    (left right : Text) :
    pieces isSeparator (left ++ separator :: right) =
      pieces isSeparator left ++ pieces isSeparator right := by
  induction left with
  | nil => simp [pieces, separates]
  | cons first left hypothesis =>
    rw [List.cons_append, pieces, pieces]
    split
    · rw [hypothesis, List.cons_append]
    · rw [hypothesis]
      rcases List.exists_cons_of_ne_nil (pieces_ne_nil isSeparator left) with
        ⟨piece, others, parted⟩
      rw [parted]
      rfl

theorem pieces_of_plain
    {isSeparator : Char → Bool}
    {text : Text}
    (plain : ∀ character ∈ text, isSeparator character = false) :
    pieces isSeparator text = [text] := by
  induction text with
  | nil => rfl
  | cons first rest hypothesis =>
    rw [List.forall_mem_cons] at plain
    rw [pieces, hypothesis plain.2, plain.1]
    rfl

/-! ## First words -/

theorem words_of_blank
    {blank : Char}
    (isBlank : isBlank blank = true)
    (rest : Text) :
    words (blank :: rest) = words rest := by
  rw [words, pieces, if_pos isBlank, words]
  rfl

/-- A text that starts with a word. -/
theorem words_of_word
    {word rest : Text}
    (telling : word ≠ [])
    (plain : ∀ character ∈ word, isBlank character = false)
    (apart : ∀ first ∈ rest.head?, isBlank first = true) :
    words (word ++ rest) = word :: words rest := by
  have filled : (!word.isEmpty) = true := by
    simpa using telling
  cases rest with
  | nil =>
    rw [List.append_nil, words, pieces_of_plain plain, List.filter_cons, if_pos filled]
    rfl
  | cons blank rest =>
    have isBlank : isBlank blank = true := apart blank rfl
    rw [words_of_blank isBlank, words, pieces_append_cons isBlank, pieces_of_plain plain,
      List.singleton_append, List.filter_cons, if_pos filled, words]

/-! ## Finer pieces -/

/-- A text holds no separating character, or is cut at the first of them. -/
theorem plain_or_cut
    (isSeparator : Char → Bool)
    (text : Text) :
    (∀ character ∈ text, isSeparator character = false) ∨
      ∃ left separator right,
        text = left ++ separator :: right ∧
          isSeparator separator = true ∧
          ∀ character ∈ left, isSeparator character = false := by
  cases found : text.find? isSeparator with
  | none =>
    left
    simpa using List.find?_eq_none.mp found
  | some separator =>
    right
    rcases List.find?_eq_some_iff_append.mp found with ⟨separates, left, right, order, plain⟩
    exact ⟨left, separator, right, order, separates, by simpa using plain⟩

theorem getLast?_append_pieces
    (isSeparator : Char → Bool)
    (before : List Text)
    (text : Text) :
    (before ++ pieces isSeparator text).getLast? = (pieces isSeparator text).getLast? := by
  rcases List.eq_nil_or_concat (pieces isSeparator text) with none | ⟨others, last, parted⟩
  · exact absurd none (pieces_ne_nil isSeparator text)
  · rw [parted, List.concat_eq_append, ← List.append_assoc, List.getLast?_concat,
      List.getLast?_concat]

variable {coarse fine : Char → Bool}

/--
A piece without any of more separating characters is a piece between these as well. The recursion
cuts the text at its first separating character.
-/
theorem mem_pieces_of_finer
    (finer : ∀ character, coarse character = true → fine character = true)
    {text piece : Text}
    (plain : ∀ character ∈ piece, fine character = false)
    (isPiece : piece ∈ pieces coarse text) :
    piece ∈ pieces fine text := by
  rcases plain_or_cut coarse text with whole | ⟨left, separator, right, rfl, separates, before⟩
  · rw [pieces_of_plain whole, List.mem_singleton] at isPiece
    subst isPiece
    rw [pieces_of_plain plain]
    exact List.mem_singleton_self piece
  · rw [pieces_append_cons separates, pieces_of_plain before] at isPiece
    rw [pieces_append_cons (finer separator separates)]
    rcases List.mem_cons.mp isPiece with rfl | later
    · rw [pieces_of_plain plain]
      exact List.mem_append_left _ (List.mem_singleton_self piece)
    · exact List.mem_append_right _ (mem_pieces_of_finer finer plain later)
termination_by text.length
decreasing_by
  subst_vars
  simp only [List.length_append, List.length_cons]
  omega

/-- The last piece of a text is the last piece of its last coarser piece. -/
theorem getLast?_pieces_of_finer
    (finer : ∀ character, coarse character = true → fine character = true)
    {text last : Text}
    (isLast : (pieces coarse text).getLast? = some last) :
    (pieces fine text).getLast? = (pieces fine last).getLast? := by
  rcases plain_or_cut coarse text with whole | ⟨left, separator, right, rfl, separates, before⟩
  · rw [pieces_of_plain whole] at isLast
    cases isLast
    rfl
  · rw [pieces_append_cons separates, getLast?_append_pieces] at isLast
    rw [pieces_append_cons (finer separator separates), getLast?_append_pieces]
    exact getLast?_pieces_of_finer finer isLast
termination_by text.length
decreasing_by
  subst_vars
  simp only [List.length_append, List.length_cons]
  omega

end Scaffold.Text
