import Mathlib
import Scaffold.Identifier
import Scaffold.Proofs.TextSearch

/-!
# What case mappings leave alone

Comparing texts without regard to the case of ASCII letters is comparing their forms in upper case
of ASCII, which leaves every other character and the length in bytes as they are.

A sign is a character of ASCII that is no letter: a blank, a digit, a separator, a quote or a
control character. The full case mappings never bring in a sign, whatever characters beyond ASCII a
text has: the tables are checked once, and every derived name inherits the result.
-/

namespace Scaffold.Text

/-! ## The case of ASCII letters -/

theorem isLower_iff
    (character : Char) :
    character.isLower = true ↔ 0x61 ≤ character.toNat ∧ character.toNat ≤ 0x7A := by
  simp [Char.isLower, UInt32.le_iff_toNat_le]

theorem toUpper_of_beyond
    {character : Char}
    (beyond : 0x80 ≤ character.toNat) :
    character.toUpper = character := by
  apply Char.toUpper_eq_of_not_isLower
  rw [isLower_iff]
  omega

/-- What tells no capital of ASCII from its small letter tells no character from the one in upper
case of ASCII. -/
theorem apply_toUpper
    {α : Type}
    (view : Char → α)
    (letters :
      ∀ place < 26, view (Char.ofNat (0x41 + place)) = view (Char.ofNat (0x61 + place)))
    (character : Char) :
    view character.toUpper = view character := by
  by_cases small : character.isLower = true
  · have within := (isLower_iff character).mp small
    obtain ⟨place, below, order⟩ : ∃ place < 26, character.toNat = 0x61 + place :=
      ⟨character.toNat - 0x61, by omega, by omega⟩
    have capital : character.toNat - 32 = 0x41 + place := by omega
    rw [Char.toUpper_eq_of_isLower small, capital, letters place below, ← order, Char.ofNat_toNat]
  · rw [Char.toUpper_eq_of_not_isLower small]

theorem foldedEqual_iff_map_toUpper
    (left right : Text) :
    foldedEqual left right = true ↔ left.map Char.toUpper = right.map Char.toUpper := by
  have upper (text : Text) : (text.map Char.toLower).map Char.toUpper = text.map Char.toUpper := by
    simp
  have lower (text : Text) : (text.map Char.toUpper).map Char.toLower = text.map Char.toLower := by
    simp
  rw [foldedEqual, beq_iff_eq]
  constructor
  · intro equal
    rw [← upper left, equal, upper]
  · intro equal
    rw [← lower left, equal, lower]

/-- Upper case of ASCII takes as many bytes. -/
@[simp]
theorem byteLength_map_toUpper
    (text : Text) :
    byteLength (text.map Char.toUpper) = byteLength text := by
  have single (character : Char) : character.toUpper.utf8Size = character.utf8Size :=
    apply_toUpper Char.utf8Size (by decide +kernel) character
  induction text with
  | nil => rfl
  | cons character text hypothesis =>
    rw [List.map_cons, byteLength_cons, byteLength_cons, single, hypothesis]

/-! ## Signs -/

/-- Whether a character belongs to ASCII without being a letter. -/
def isSign (character : Char) : Bool :=
  character.toNat < 0x80 && !character.isAlpha

theorem isSign_ofNat_of_valid
    {code : Nat}
    (beyond : 0x80 ≤ code)
    (valid : code.isValidChar) :
    isSign (Char.ofNat code) = false := by
  have same : (Char.ofNat code).toNat = code := by
    rw [Char.toNat_ofNat, if_pos valid]
  simp only [isSign, same, Bool.and_eq_false_iff, decide_eq_false_iff_not]
  exact Or.inl (by omega)

/-! ## The tables -/

/-- All images of a run are valid characters beyond ASCII, or its only image is no sign. -/
def CaseRun.SparesSigns (run : CaseRun) : Prop :=
  (0x80 ≤ run.first + run.distance ∧ run.last + run.distance < 0xD800) ∨
    (0xE000 ≤ run.first + run.distance ∧ run.last + run.distance < 0x110000) ∨
    (run.first = run.last ∧ isSign (Char.ofNat (run.first + run.distance).toNat) = false)

instance (run : CaseRun) : Decidable run.SparesSigns :=
  inferInstanceAs (Decidable (_ ∨ _ ∨ _))

theorem CaseRun.SparesSigns.isSign_image
    {run : CaseRun}
    (spares : run.SparesSigns)
    {code image : Nat}
    (reached : run.image? code = some image) :
    isSign (Char.ofNat image) = false := by
  simp only [CaseRun.image?, Option.ite_none_right_eq_some, Option.some.injEq] at reached
  rcases reached with ⟨⟨above, below, -⟩, rfl⟩
  rcases spares with ⟨low, high⟩ | ⟨low, high⟩ | ⟨single, noSign⟩
  · exact isSign_ofNat_of_valid (by omega) (Or.inl (by omega))
  · exact isSign_ofNat_of_valid (by omega) (Or.inr ⟨by omega, by omega⟩)
  · have only : code = run.first := by omega
    rw [only]
    exact noSign

theorem isSign_of_mem_mappedBy
    {runs : List CaseRun}
    {expansions : List (Nat × List Nat)}
    (runsSpare : ∀ run ∈ runs, run.SparesSigns)
    (expansionsSpare :
      ∀ expansion ∈ expansions, ∀ code ∈ expansion.2, isSign (Char.ofNat code) = false)
    {character image : Char}
    (beyond : 0x80 ≤ character.toNat)
    (member : image ∈ mappedBy runs expansions character) :
    isSign image = false := by
  rw [mappedBy] at member
  split at member
  next codes listed =>
    rcases List.mem_map.mp member with ⟨code, inside, rfl⟩
    rcases List.lookup_eq_some_iff.mp listed with ⟨before, after, equal, -⟩
    exact expansionsSpare (character.toNat, codes) (by simp [equal]) code inside
  next =>
    split at member
    next code reached =>
      rcases List.exists_of_findSome?_eq_some reached with ⟨run, inside, reaches⟩
      rw [List.mem_singleton.mp member]
      exact (runsSpare run inside).isSign_image reaches
    next =>
      rw [List.mem_singleton.mp member]
      simp only [isSign, Bool.and_eq_false_iff, decide_eq_false_iff_not]
      exact Or.inl (by omega)

theorem upperRuns_spare_signs : ∀ run ∈ upperRuns, run.SparesSigns := by
  decide +kernel

theorem lowerRuns_spare_signs : ∀ run ∈ lowerRuns, run.SparesSigns := by
  decide +kernel

theorem upperExpansions_spare_signs :
    ∀ expansion ∈ upperExpansions, ∀ code ∈ expansion.2, isSign (Char.ofNat code) = false := by
  decide +kernel

theorem lowerExpansions_spare_signs :
    ∀ expansion ∈ lowerExpansions, ∀ code ∈ expansion.2, isSign (Char.ofNat code) = false := by
  decide +kernel

/-! ## Single characters -/

/-- A sign in the image of a character is the character itself, when the map of ASCII and the tables
for the characters beyond it spare signs. -/
theorem eq_of_sign_mem_image
    {ascii : Char → Char}
    {runs : List CaseRun}
    {expansions : List (Nat × List Nat)}
    (asciiSpares :
      ∀ code < 0x80, isSign (ascii (Char.ofNat code)) = true →
        ascii (Char.ofNat code) = Char.ofNat code)
    (runsSpare : ∀ run ∈ runs, run.SparesSigns)
    (expansionsSpare :
      ∀ expansion ∈ expansions, ∀ code ∈ expansion.2, isSign (Char.ofNat code) = false)
    {character sign : Char}
    (isSign : isSign sign = true)
    (member :
      sign ∈
        if character.toNat < 0x80 then [ascii character] else mappedBy runs expansions character) :
    sign = character := by
  split at member
  next inside =>
    rw [List.mem_singleton.mp member] at isSign ⊢
    simpa using asciiSpares character.toNat inside (by simpa using isSign)
  next beyond =>
    have spared :=
      isSign_of_mem_mappedBy runsSpare expansionsSpare (Nat.le_of_not_lt beyond) member
    rw [spared] at isSign
    cases isSign

theorem eq_of_sign_mem_upperForm
    {character sign : Char}
    (isSign : isSign sign = true)
    (member : sign ∈ upperForm character) :
    sign = character :=
  eq_of_sign_mem_image (by decide +kernel) upperRuns_spare_signs upperExpansions_spare_signs
    isSign member

theorem eq_of_sign_mem_lowerForm
    {character sign : Char}
    (isSign : isSign sign = true)
    (member : sign ∈ lowerForm character) :
    sign = character :=
  eq_of_sign_mem_image (by decide +kernel) lowerRuns_spare_signs lowerExpansions_spare_signs
    isSign member

/-- A sign is in upper case of ASCII only if it was there. -/
theorem eq_of_toUpper_eq_sign
    {character sign : Char}
    (isSign : isSign sign = true)
    (equal : character.toUpper = sign) :
    character = sign := by
  rcases Nat.lt_or_ge character.toNat 0x80 with inside | beyond
  · have image : sign ∈ upperForm character := by
      rw [upperForm, if_pos inside, equal]
      exact List.mem_singleton_self sign
    exact (eq_of_sign_mem_upperForm isSign image).symm
  · rw [← equal, toUpper_of_beyond beyond]

/-! ## Derived names -/

@[simp]
theorem upperCase_append
    (left right : Text) :
    upperCase (left ++ right) = upperCase left ++ upperCase right :=
  List.flatMap_append

theorem sign_mem_of_mem_upperCase
    {text : Text}
    {sign : Char}
    (isSign : isSign sign = true)
    (member : sign ∈ upperCase text) :
    sign ∈ text := by
  rcases List.mem_flatMap.mp member with ⟨character, inside, image⟩
  rwa [eq_of_sign_mem_upperForm isSign image]

theorem sign_mem_of_mem_lowerCaseEach
    {text : Text}
    {sign : Char}
    (isSign : isSign sign = true)
    (member : sign ∈ lowerCaseEach text) :
    sign ∈ text := by
  rcases List.mem_flatMap.mp member with ⟨character, inside, image⟩
  rwa [eq_of_sign_mem_lowerForm isSign image]

theorem sign_mem_of_mem_lowerCaseAfter
    {before text : Text}
    {sign : Char}
    (isSign : isSign sign = true)
    (member : sign ∈ lowerCaseAfter before text) :
    sign ∈ text := by
  induction text generalizing before with
  | nil => cases member
  | cons character rest hypothesis =>
    rw [lowerCaseAfter] at member
    rcases List.mem_append.mp member with image | later
    · split at image
      · -- the two small letters sigma are no signs
        split at image
        · rw [List.mem_singleton.mp image] at isSign
          cases isSign
        · rw [List.mem_singleton.mp image] at isSign
          cases isSign
      · rw [eq_of_sign_mem_lowerForm isSign image]
        exact List.mem_cons_self
    · exact List.mem_cons_of_mem _ (hypothesis later)

/-- A sign in a text in lower case stands in the text. -/
theorem sign_mem_of_mem_lowerCase
    {text : Text}
    {sign : Char}
    (isSign : isSign sign = true)
    (member : sign ∈ lowerCase text) :
    sign ∈ text :=
  sign_mem_of_mem_lowerCaseAfter isSign member

end Scaffold.Text

namespace Scaffold.Identifier

open Scaffold.Text (isSign)

theorem sign_mem_of_mem_titleCase
    {text : Text}
    {sign : Char}
    (isSign : isSign sign = true)
    (member : sign ∈ titleCase text) :
    sign ∈ text := by
  cases text with
  | nil => simp [titleCase] at member
  | cons first rest =>
    rcases List.mem_append.mp member with inFirst | inRest
    · rw [Text.eq_of_sign_mem_upperForm isSign inFirst]
      exact List.mem_cons_self
    · exact List.mem_cons_of_mem _ (Text.sign_mem_of_mem_lowerCaseEach isSign inRest)

/-- A sign in a field name stands in the column name. -/
theorem sign_mem_of_mem_fieldName
    {column : Text}
    {sign : Char}
    (isSign : isSign sign = true)
    (member : sign ∈ fieldName column) :
    sign ∈ column := by
  rcases List.mem_flatMap.mp member with ⟨segment, inside, image⟩
  have inSegment : sign ∈ segment := by
    rw [fieldSegment] at image
    split at image
    next acronym =>
      simp only [List.mem_cons, List.not_mem_nil, or_false] at image
      rcases image with rfl | rfl <;> cases isSign
    next => exact sign_mem_of_mem_titleCase isSign image
  exact (Text.mem_and_not_isSeparator_of_mem_pieces inside sign inSegment).1

end Scaffold.Identifier
