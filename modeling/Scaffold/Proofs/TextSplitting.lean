import Scaffold.Proofs.TextSearch

/-!
# Splitting texts at a mark

A text is split at a mark by cutting it at the first occurrence, and the rest again. Joining texts
with a mark and splitting the result gives the texts back exactly when none of them is broken by the
mark. For a mark of two different characters, such as a comma and a blank, a text is unbroken as
soon as the mark does not stand in it, and a text is put together from unbroken parts unless the
mark stands across the seam.
-/

namespace Scaffold.Text

/-- The texts between the occurrences of a mark, which is not empty. -/
def piecesBetween (mark text : Text) : List Text :=
  match _cut : cutAt? mark text with
  | none => [text]
  | some (before, rest) =>
    if mark.isEmpty then [text] else before :: piecesBetween mark rest
termination_by text.length
decreasing_by
  rename_i telling
  have parted : text = before ++ mark ++ rest := eq_append_of_cutAt?_eq_some _cut
  have long : 0 < mark.length :=
    List.length_pos_iff.mpr fun none => telling (List.isEmpty_iff.mpr none)
  rw [parted]
  simp only [List.length_append]
  omega

theorem piecesBetween_of_absent
    {mark text : Text}
    (absent : ¬ mark <:+: text) :
    piecesBetween mark text = [text] := by
  rw [piecesBetween]
  split
  next => rfl
  next before rest cut =>
    rw [cutAt?_eq_none_of_absent absent] at cut
    cases cut

theorem piecesBetween_append_of_unbroken
    {mark piece : Text}
    (telling : mark ≠ [])
    (unbroken : Unbroken mark piece)
    (rest : Text) :
    piecesBetween mark (piece ++ mark ++ rest) = piece :: piecesBetween mark rest := by
  have first : cutAt? mark (piece ++ mark ++ rest) = some (piece, rest) :=
    cutAt?_append_of_unbroken telling unbroken rest
  conv => lhs; rw [piecesBetween]
  split
  next cut =>
    rw [first] at cut
    cases cut
  next before remainder cut =>
    rw [first] at cut
    cases cut
    simp [telling]

theorem joined_cons
    {separator text : Text}
    {others : List Text}
    (more : others ≠ []) :
    joined separator (text :: others) = text ++ separator ++ joined separator others := by
  rcases List.exists_cons_of_ne_nil more with ⟨next, rest, rfl⟩
  rfl

theorem joined_append
    {separator : Text}
    {before after : List Text}
    (given : before ≠ [])
    (more : after ≠ []) :
    joined separator (before ++ after) =
      joined separator before ++ separator ++ joined separator after := by
  induction before with
  | nil => exact absurd rfl given
  | cons text before hypothesis =>
    cases before with
    | nil => exact joined_cons more
    | cons next others =>
      have behind := hypothesis (List.cons_ne_nil next others)
      rw [List.cons_append, joined_cons (by simp), behind, joined_cons_cons]
      simp only [List.append_assoc]

theorem piecesBetween_ne_nil
    (mark text : Text) :
    piecesBetween mark text ≠ [] := by
  rw [piecesBetween]
  split
  · simp
  · split <;> simp

/-- Joining the texts between the occurrences of a mark with it gives the text back. -/
theorem joined_piecesBetween
    (mark text : Text) :
    joined mark (piecesBetween mark text) = text := by
  fun_induction piecesBetween mark text with
  | case1 text cut => rfl
  | case2 text before rest cut silent => rfl
  | case3 text before rest cut telling induction =>
    rw [joined_cons (piecesBetween_ne_nil mark rest), induction]
    exact (eq_append_of_cutAt?_eq_some cut).symm

theorem Unbroken.absent
    {mark text : Text}
    (unbroken : Unbroken mark text) :
    ¬ mark <:+: text :=
  fun found => unbroken (List.infix_append_of_infix_left found)

/-- Splitting texts that were joined gives them back, when the mark does not break them. -/
theorem piecesBetween_joined
    {mark : Text}
    (telling : mark ≠ [])
    {texts : List Text}
    (some : texts ≠ [])
    (unbroken : ∀ text ∈ texts, Unbroken mark text) :
    piecesBetween mark (joined mark texts) = texts := by
  induction texts with
  | nil => exact absurd rfl some
  | cons text others induction =>
    have here : Unbroken mark text := unbroken text List.mem_cons_self
    cases others with
    | nil => exact piecesBetween_of_absent here.absent
    | cons next more =>
      have there : piecesBetween mark (joined mark (next :: more)) = next :: more :=
        induction (by simp) fun other member => unbroken other (List.mem_cons_of_mem _ member)
      rw [joined_cons_cons, piecesBetween_append_of_unbroken telling here, there]

/-- Cutting texts that were joined with one character gives them back, when none of them has it. -/
theorem pieces_joined
    {separator : Char}
    {texts : List Text}
    (given : texts ≠ [])
    (plain : ∀ text ∈ texts, separator ∉ text) :
    pieces (· == separator) (joined [separator] texts) = texts := by
  induction texts with
  | nil => exact absurd rfl given
  | cons text others hypothesis =>
    rw [List.forall_mem_cons] at plain
    have whole : pieces (· == separator) text = [text] := by
      apply pieces_of_plain
      intro character isMember
      rw [beq_eq_false_iff_ne]
      rintro rfl
      exact plain.1 isMember
    by_cases more : others = []
    · subst more
      exact whole
    · have parted :
          pieces (· == separator) (text ++ separator :: joined [separator] others) =
            pieces (· == separator) text ++ pieces (· == separator) (joined [separator] others) :=
        pieces_append_cons (by simp) text _
      rw [joined_cons more, List.append_assoc, List.singleton_append, parted, whole,
        hypothesis more plain.2]
      rfl

/-! ## Marks of two characters -/

theorem pair_prefix_cons_iff
    {first second character : Char}
    {text : Text} :
    [first, second] <+: character :: text ↔ first = character ∧ text.head? = some second := by
  rw [List.cons_prefix_cons]
  cases text with
  | nil => simp
  | cons next rest => simp [List.cons_prefix_cons, eq_comm]

/-- Two neighbours of a joined text are neighbours in a part or meet at the seam. -/
theorem pair_infix_append_iff
    {first second : Char}
    {left right : Text} :
    [first, second] <:+: left ++ right ↔
      [first, second] <:+: left ∨ [first, second] <:+: right ∨
        (left.getLast? = some first ∧ right.head? = some second) := by
  induction left with
  | nil => simp
  | cons character left induction =>
    rw [List.cons_append, List.infix_cons_iff, List.infix_cons_iff, induction,
      pair_prefix_cons_iff, pair_prefix_cons_iff]
    cases left with
    | nil => simp [eq_comm (a := first), or_comm]
    | cons next rest => simp [or_assoc]

/-- A text without the second character of a mark is not broken by the mark. -/
theorem unbroken_pair_of_not_mem
    {first second : Char}
    (different : first ≠ second)
    {text : Text}
    (absent : second ∉ text) :
    Unbroken [first, second] text := by
  intro found
  have inside : second ∈ text ++ [first] := found.mem (by simp)
  rcases List.mem_append.mp inside with inText | last
  · exact absent inText
  · exact different (by simpa using (List.mem_singleton.mp last).symm)

end Scaffold.Text
