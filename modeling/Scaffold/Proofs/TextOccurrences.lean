import Scaffold.Proofs.TextSearch

/-!
# Occurrences by bytes

A search from left to right finds a text behind the first piece that it does not break, and goes on
behind the occurrence (`Finds`). Searching by bytes does just this (`finds_iff`), so every offset
that it gives is the number of bytes before an occurrence, and the offsets ascend.
-/

namespace Scaffold.Text

/-! ## Searching from left to right -/

/-- The byte offsets at which a search from left to right finds a text in another one that starts at
an offset. Each occurrence ends before the next one begins. -/
inductive Finds (needle : Text) : Nat → Text → List Nat → Prop where
  | nothing
      (absent : ¬ needle <:+: text) :
      Finds needle offset text []
  | next
      (unbroken : Unbroken needle before)
      (others : Finds needle (offset + byteLength (before ++ needle)) rest offsets) :
      Finds needle offset (before ++ needle ++ rest) ((offset + byteLength before) :: offsets)

variable {needle : Text}

/-- The characters of an earlier occurrence are passed over. -/
theorem occurrencesFrom_skip
    (needle : Text)
    (offset : Nat)
    (skipped rest : Text) :
    occurrencesFrom needle offset skipped.length (skipped ++ rest) =
      occurrencesFrom needle (offset + byteLength skipped) 0 rest := by
  induction skipped generalizing offset with
  | nil => rfl
  | cons character skipped hypothesis =>
    rw [List.length_cons, List.cons_append, occurrencesFrom, hypothesis, byteLength_cons,
      Nat.add_assoc]

theorem occurrencesFrom_append
    (telling : needle ≠ [])
    (offset : Nat)
    (rest : Text) :
    occurrencesFrom needle offset 0 (needle ++ rest) =
      offset :: occurrencesFrom needle (offset + byteLength needle) 0 rest := by
  rcases List.exists_cons_of_ne_nil telling with ⟨first, others, rfl⟩
  have begins : (first :: others).isPrefixOf (first :: (others ++ rest)) = true :=
    List.isPrefixOf_iff_prefix.mpr (List.prefix_append (first :: others) rest)
  rw [List.cons_append, occurrencesFrom, if_pos begins, List.length_cons, Nat.add_sub_cancel,
    occurrencesFrom_skip, byteLength_cons, Nat.add_assoc]

/-- A piece that is not broken is passed over. -/
theorem occurrencesFrom_of_unbroken
    (telling : needle ≠ [])
    {before : Text}
    (unbroken : Unbroken needle before)
    (offset : Nat)
    (rest : Text) :
    occurrencesFrom needle offset 0 (before ++ needle ++ rest) =
      (offset + byteLength before) ::
        occurrencesFrom needle (offset + byteLength (before ++ needle)) 0 rest := by
  induction before generalizing offset with
  | nil => exact occurrencesFrom_append telling offset rest
  | cons character before hypothesis =>
    have ahead : ¬ needle.isPrefixOf (character :: (before ++ needle ++ rest)) = true := by
      rw [List.isPrefixOf_iff_prefix]
      exact unbroken.not_prefix telling rest
    simp only [List.cons_append, byteLength_cons]
    rw [occurrencesFrom, if_neg ahead, hypothesis unbroken.tail, Nat.add_assoc, Nat.add_assoc]

theorem occurrencesFrom_of_absent
    {text : Text}
    (absent : ¬ needle <:+: text)
    (offset : Nat) :
    occurrencesFrom needle offset 0 text = [] := by
  induction text generalizing offset with
  | nil => rfl
  | cons character text hypothesis =>
    rw [List.infix_cons_iff, not_or] at absent
    rw [occurrencesFrom, if_neg (mt List.isPrefixOf_iff_prefix.mp absent.1),
      hypothesis absent.2]

/-- A search finds something, be it nothing. -/
theorem exists_finds
    (telling : needle ≠ [])
    (offset : Nat)
    (text : Text) :
    ∃ offsets, Finds needle offset text offsets := by
  by_cases found : needle <:+: text
  · rcases exists_unbroken_of_infix telling found with ⟨before, rest, rfl, unbroken⟩
    rcases exists_finds telling (offset + byteLength (before ++ needle)) rest with
      ⟨offsets, others⟩
    exact ⟨_, .next unbroken others⟩
  · exact ⟨[], .nothing found⟩
termination_by text.length
decreasing_by
  subst_vars
  have long : 0 < needle.length := List.length_pos_iff.mpr telling
  simp only [List.length_append]
  omega

theorem Finds.occurrencesFrom_eq
    (telling : needle ≠ [])
    {offset : Nat}
    {text : Text}
    {offsets : List Nat}
    (finds : Finds needle offset text offsets) :
    occurrencesFrom needle offset 0 text = offsets := by
  induction finds with
  | nothing absent => exact occurrencesFrom_of_absent absent _
  | next unbroken others hypothesis =>
    rw [occurrencesFrom_of_unbroken telling unbroken, hypothesis]

/-- The occurrences of a text are what a search from left to right finds. -/
theorem finds_iff
    (telling : needle ≠ [])
    (text : Text)
    (offsets : List Nat) :
    Finds needle 0 text offsets ↔ occurrences needle text = offsets := by
  constructor
  · exact fun finds => finds.occurrencesFrom_eq telling
  · rintro rfl
    rcases exists_finds telling 0 text with ⟨offsets, finds⟩
    rw [occurrences, finds.occurrencesFrom_eq telling]
    exact finds

/-- Something is found in a text where the other one stands. -/
theorem occurrences_ne_nil_iff
    (telling : needle ≠ [])
    (text : Text) :
    occurrences needle text ≠ [] ↔ needle <:+: text := by
  rw [Ne, ← finds_iff telling]
  constructor
  · exact fun found => Classical.byContradiction fun absent => found (.nothing absent)
  · rintro stands ⟨absent⟩
    exact absent stands

/-! ## Offsets -/

/-- Every offset that is found is the number of bytes before an occurrence. -/
theorem Finds.of_mem
    {offset found : Nat}
    {text : Text}
    {offsets : List Nat}
    (finds : Finds needle offset text offsets)
    (isMember : found ∈ offsets) :
    ∃ before rest, text = before ++ needle ++ rest ∧ found = offset + byteLength before := by
  induction finds with
  | nothing absent => cases isMember
  | @next before offset rest offsets unbroken others hypothesis =>
    rcases List.mem_cons.mp isMember with rfl | later
    · exact ⟨before, rest, rfl, rfl⟩
    · rcases hypothesis later with ⟨between, rest, rfl, rfl⟩
      refine ⟨before ++ needle ++ between, rest, by simp only [List.append_assoc], ?_⟩
      simp only [byteLength_append, Nat.add_assoc]

theorem byteLength_pos
    {text : Text}
    (telling : text ≠ []) :
    0 < byteLength text := by
  rcases List.exists_cons_of_ne_nil telling with ⟨character, rest, rfl⟩
  rw [byteLength_cons]
  have wide := character.utf8Size_pos
  omega

theorem Finds.pairwise_lt
    (telling : needle ≠ [])
    {offset : Nat}
    {text : Text}
    {offsets : List Nat}
    (finds : Finds needle offset text offsets) :
    offsets.Pairwise (· < ·) := by
  induction finds with
  | nothing absent => exact .nil
  | next unbroken others hypothesis =>
    refine .cons ?_ hypothesis
    intro found later
    rcases others.of_mem later with ⟨between, rest, -, rfl⟩
    have long := byteLength_pos telling
    rw [byteLength_append]
    omega

theorem exists_of_mem_occurrences
    (telling : needle ≠ [])
    {text : Text}
    {found : Nat}
    (isMember : found ∈ occurrences needle text) :
    ∃ before rest, text = before ++ needle ++ rest ∧ found = byteLength before := by
  have finds := (finds_iff telling text _).mpr rfl
  rcases finds.of_mem isMember with ⟨before, rest, order, same⟩
  exact ⟨before, rest, order, by rw [same, Nat.zero_add]⟩

theorem occurrences_pairwise_lt
    (telling : needle ≠ [])
    (text : Text) :
    (occurrences needle text).Pairwise (· < ·) :=
  ((finds_iff telling text _).mpr rfl).pairwise_lt telling

end Scaffold.Text
