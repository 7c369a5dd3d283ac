import Scaffold.Proofs.CaseMapping
import Scaffold.Proofs.TextSplitting
import Scaffold.TableData

/-!
# Field names of canonical columns

A canonical column name is written in small letters and digits, in segments between single
underscores that each start with a letter. Its field name is an identifier with a capital first
letter and without an underscore (`IsCapitalized`).

The underscores are lost on the way, but every segment begins at a capital and goes on up to the
next one, so the segments can be read back from the field name. The acronym for `id` is the one
image that has a capital inside. It looks like the images of `i` and `d`, and a canonical name never
has these two next to each other. So different canonical columns have different fields.
-/

namespace Scaffold.Text

/-! ## Capitals and small letters -/

theorem isUpper_iff
    (character : Char) :
    character.isUpper = true ↔ 0x41 ≤ character.toNat ∧ character.toNat ≤ 0x5A := by
  simp [Char.isUpper, UInt32.le_iff_toNat_le]

theorem isDigit_iff
    (character : Char) :
    character.isDigit = true ↔ 0x30 ≤ character.toNat ∧ character.toNat ≤ 0x39 := by
  simp [Char.isDigit, UInt32.le_iff_toNat_le]

theorem isUpper_toUpper_of_isLower
    {character : Char}
    (small : character.isLower = true) :
    character.toUpper.isUpper = true := by
  have within := (isLower_iff character).mp small
  have valid : (character.toNat - 32).isValidChar := Or.inl (by omega)
  rw [Char.toUpper_eq_of_isLower small, isUpper_iff, Char.toNat_ofNat, if_pos valid]
  omega

theorem toUpper_inj_of_isLower
    {first second : Char}
    (firstSmall : first.isLower = true)
    (secondSmall : second.isLower = true)
    (same : first.toUpper = second.toUpper) :
    first = second := by
  have lower {letter : Char} (small : letter.isLower = true) : letter.toUpper.toLower = letter := by
    have within := (isLower_iff letter).mp small
    have notCapital : ¬ letter.isUpper = true := by
      rw [isUpper_iff]
      omega
    rw [Char.toLower_toUpper_eq_toLower, Char.toLower_eq_of_not_isUpper notCapital]
  rw [← lower firstSmall, same, lower secondSmall]

/-- Where the characters that are no capitals end, a text is cut in one way only. -/
theorem eq_and_eq_of_capital_behind
    {left right otherLeft otherRight : Text}
    (small : ∀ character ∈ left, character.isUpper = false)
    (otherSmall : ∀ character ∈ otherLeft, character.isUpper = false)
    (capital : ∀ character ∈ right.head?, character.isUpper = true)
    (otherCapital : ∀ character ∈ otherRight.head?, character.isUpper = true)
    (same : left ++ right = otherLeft ++ otherRight) :
    left = otherLeft ∧ right = otherRight := by
  have cut {start behind : Text}
      (small : ∀ character ∈ start, character.isUpper = false)
      (capital : ∀ character ∈ behind.head?, character.isUpper = true) :
      (start ++ behind).takeWhile (!·.isUpper) = start := by
    rw [List.takeWhile_append_of_pos (by simpa using small)]
    cases behind with
    | nil => simp
    | cons first rest =>
      rw [List.takeWhile_cons_of_neg (by simpa using capital first rfl), List.append_nil]
  have starts : left = otherLeft := by
    rw [← cut small capital, same, cut otherSmall otherCapital]
  subst starts
  exact ⟨rfl, List.append_cancel_left same⟩

end Scaffold.Text

namespace Scaffold.Identifier

/-! ## Canonical columns -/

/-- Whether a character may follow the first one of a plain segment. -/
def isPlainFollowing (character : Char) : Bool :=
  character.isLower || character.isDigit

/-- Whether a segment is a small letter with small letters and digits behind it. -/
def isPlain : Text → Bool
  | [] => false
  | first :: rest => first.isLower && rest.all isPlainFollowing

/-- Plain segments, of which no `i` is directly before a `d`. -/
structure AreCanonical (parts : List Text) : Prop where
  plain : ∀ part ∈ parts, isPlain part = true
  apart : ¬ [['i'], ['d']] <:+: parts

/-- A column name is canonical when it consists of canonical segments, at least one, between single
underscores. -/
def IsCanonical (column : Text) : Prop :=
  ∃ parts, parts ≠ [] ∧ AreCanonical parts ∧ column = Text.joined ['_'] parts

theorem AreCanonical.tail
    {part : Text}
    {parts : List Text}
    (canonical : AreCanonical (part :: parts)) :
    AreCanonical parts where
  plain := fun other isMember => canonical.plain other (List.mem_cons_of_mem _ isMember)
  apart := fun neighbours => canonical.apart (List.infix_cons neighbours)

theorem AreCanonical.head
    {part : Text}
    {parts : List Text}
    (canonical : AreCanonical (part :: parts)) :
    isPlain part = true :=
  canonical.plain part List.mem_cons_self

theorem isPlainFollowing_of_mem
    {part : Text}
    (plain : isPlain part = true)
    {character : Char}
    (isMember : character ∈ part) :
    isPlainFollowing character = true := by
  cases part with
  | nil => cases isMember
  | cons first rest =>
    rw [isPlain, Bool.and_eq_true, List.all_eq_true] at plain
    rcases List.mem_cons.mp isMember with rfl | later
    · rw [isPlainFollowing, plain.1, Bool.true_or]
    · exact plain.2 character later

/-- The code points of small letters and digits. -/
theorem toNat_of_isPlainFollowing
    {character : Char}
    (follows : isPlainFollowing character = true) :
    (0x61 ≤ character.toNat ∧ character.toNat ≤ 0x7A) ∨
      (0x30 ≤ character.toNat ∧ character.toNat ≤ 0x39) := by
  rw [isPlainFollowing, Bool.or_eq_true, Text.isLower_iff, Text.isDigit_iff] at follows
  exact follows

theorem isUpper_of_isPlainFollowing
    {character : Char}
    (follows : isPlainFollowing character = true) :
    character.isUpper = false := by
  have within := toNat_of_isPlainFollowing follows
  rw [← Bool.not_eq_true, Text.isUpper_iff]
  omega

/-- A canonical column name is cut into the segments that it consists of. -/
theorem fieldName_joined
    {parts : List Text}
    (given : parts ≠ [])
    (canonical : AreCanonical parts) :
    fieldName (Text.joined ['_'] parts) = parts.flatMap fieldSegment := by
  have whole : ∀ part ∈ parts, '_' ∉ part := by
    intro part isMember underscore
    cases isPlainFollowing_of_mem (canonical.plain part isMember) underscore
  rw [fieldName, segments, Text.pieces_joined given whole]

/-! ## Field names of single segments -/

theorem lowerForm_of_isPlainFollowing
    {character : Char}
    (follows : isPlainFollowing character = true) :
    Text.lowerForm character = [character] := by
  have within := toNat_of_isPlainFollowing follows
  have notCapital : ¬ character.isUpper = true := by
    rw [isUpper_of_isPlainFollowing follows]
    exact Bool.false_ne_true
  rw [Text.lowerForm, if_pos (by omega), Char.toLower_eq_of_not_isUpper notCapital]

/-- A plain segment in title case differs from the segment in its first letter only. -/
theorem titleCase_of_isPlain
    {first : Char}
    {rest : Text}
    (plain : isPlain (first :: rest) = true) :
    titleCase (first :: rest) = first.toUpper :: rest := by
  rw [isPlain, Bool.and_eq_true, List.all_eq_true] at plain
  have within := (Text.isLower_iff first).mp plain.1
  have unchanged : Text.lowerCaseEach rest = rest := by
    rw [Text.lowerCaseEach, List.flatMap_congr fun character isMember =>
      lowerForm_of_isPlainFollowing (plain.2 character isMember)]
    exact List.flatMap_singleton' rest
  rw [titleCase, Text.upperForm, if_pos (by omega), unchanged]
  rfl

/-- A plain segment is the acronym, or a capital with the rest of the segment behind it. -/
theorem fieldSegment_cases
    {part : Text}
    (plain : isPlain part = true) :
    (part = ['i', 'd'] ∧ fieldSegment part = ['I', 'D']) ∨
      part ≠ ['i', 'd'] ∧
        ∃ first rest,
          part = first :: rest ∧
            first.isLower = true ∧
            (∀ character ∈ rest, character.isUpper = false) ∧
            fieldSegment part = first.toUpper :: rest := by
  by_cases acronym : part = ['i', 'd']
  · exact Or.inl ⟨acronym, by rw [fieldSegment, if_pos acronym]⟩
  · rcases part with _ | ⟨first, rest⟩
    · cases plain
    · have small : ∀ character ∈ rest, character.isUpper = false := by
        intro character isMember
        exact isUpper_of_isPlainFollowing
          (isPlainFollowing_of_mem plain (List.mem_cons_of_mem _ isMember))
      have letter : first.isLower = true := by
        rw [isPlain, Bool.and_eq_true] at plain
        exact plain.1
      refine Or.inr ⟨acronym, first, rest, rfl, letter, small, ?_⟩
      rw [fieldSegment, if_neg acronym, titleCase_of_isPlain plain]

/-- The image of a plain segment starts with a capital. -/
theorem exists_capital_of_isPlain
    {part : Text}
    (plain : isPlain part = true) :
    ∃ first rest, fieldSegment part = first :: rest ∧ first.isUpper = true := by
  rcases fieldSegment_cases plain with ⟨-, image⟩ | ⟨-, first, rest, -, letter, -, image⟩
  · exact ⟨'I', ['D'], image, rfl⟩
  · exact ⟨first.toUpper, rest, image, Text.isUpper_toUpper_of_isLower letter⟩

/-- The image of a plain segment has capitals, small letters and digits only. -/
theorem isUpper_or_isPlainFollowing
    {part : Text}
    (plain : isPlain part = true)
    {character : Char}
    (isMember : character ∈ fieldSegment part) :
    character.isUpper = true ∨ isPlainFollowing character = true := by
  rcases fieldSegment_cases plain with ⟨-, image⟩ | ⟨-, first, rest, rfl, letter, -, image⟩
  · rw [image] at isMember
    simp only [List.mem_cons, List.not_mem_nil, or_false] at isMember
    rcases isMember with rfl | rfl
    · exact Or.inl rfl
    · exact Or.inl rfl
  · rw [image] at isMember
    rcases List.mem_cons.mp isMember with rfl | later
    · exact Or.inl (Text.isUpper_toUpper_of_isLower letter)
    · exact Or.inr (isPlainFollowing_of_mem plain (List.mem_cons_of_mem _ later))

/-! ## Valid names -/

/-- A name that is an identifier, starts with a capital and has no underscore. -/
structure IsCapitalized (name : Text) : Prop where
  identifier : isIdentifier name = true
  capital : ∃ first rest, name = first :: rest ∧ first.isUpper = true
  whole : '_' ∉ name

theorem isLetter_of_isUpper
    {character : Char}
    (capital : character.isUpper = true) :
    Text.isLetter character = true := by
  have within := (Text.isUpper_iff character).mp capital
  rw [Text.isLetter, if_pos (by omega), Char.isAlpha, capital, Bool.true_or]

theorem isFollowing_of_isPlainFollowing
    {character : Char}
    (follows : isPlainFollowing character = true) :
    isFollowing character = true := by
  have within := toNat_of_isPlainFollowing follows
  have inside : character.toNat < 0x80 := by omega
  rw [isPlainFollowing, Bool.or_eq_true] at follows
  rw [isFollowing, Text.isLetter, if_pos inside, Text.isNumeric, if_pos inside, Char.isAlpha]
  rcases follows with small | digit
  · rw [small, Bool.or_true, Bool.true_or, Bool.true_or]
  · rw [digit, Bool.or_true, Bool.true_or]

theorem isCapitalized_flatMap
    {parts : List Text}
    (given : parts ≠ [])
    (canonical : AreCanonical parts) :
    IsCapitalized (parts.flatMap fieldSegment) := by
  have letters :
      ∀ character ∈ parts.flatMap fieldSegment,
        character.isUpper = true ∨ isPlainFollowing character = true := by
    intro character isMember
    rcases List.mem_flatMap.mp isMember with ⟨part, inParts, inImage⟩
    exact isUpper_or_isPlainFollowing (canonical.plain part inParts) inImage
  rcases List.exists_cons_of_ne_nil given with ⟨part, others, rfl⟩
  rcases exists_capital_of_isPlain canonical.head with ⟨first, rest, image, capital⟩
  rw [List.flatMap_cons, image, List.cons_append] at letters ⊢
  refine ⟨?identifier, ⟨first, _, rfl, capital⟩, ?whole⟩
  case identifier =>
    rw [isIdentifier, isFirst, isLetter_of_isUpper capital, Bool.true_or, Bool.true_and,
      List.all_eq_true]
    intro character isMember
    rcases letters character (List.mem_cons_of_mem _ isMember) with upper | follows
    · rw [isFollowing, isLetter_of_isUpper upper, Bool.true_or, Bool.true_or]
    · exact isFollowing_of_isPlainFollowing follows
  case whole =>
    intro underscore
    rcases letters '_' underscore with upper | follows
    · cases upper
    · cases follows

/-! ## Reading segments back -/

/-- The image of plain segments starts with a capital, if there are any. -/
theorem isUpper_of_mem_head?
    {parts : List Text}
    (plain : ∀ part ∈ parts, isPlain part = true) :
    ∀ character ∈ (parts.flatMap fieldSegment).head?, character.isUpper = true := by
  cases parts with
  | nil => exact fun character isMember => nomatch isMember
  | cons part parts =>
    rcases exists_capital_of_isPlain (plain part List.mem_cons_self) with
      ⟨first, rest, image, capital⟩
    rw [List.flatMap_cons, image]
    rintro character ⟨⟩
    exact capital

/-- Canonical segments whose image starts with the acronym start with `id`: the two capitals cannot
come from different segments. -/
theorem head?_eq_of_acronym
    {parts others : List Text}
    (plain : ∀ part ∈ parts, isPlain part = true)
    (canonical : AreCanonical others)
    (same : ['I', 'D'] ++ parts.flatMap fieldSegment = others.flatMap fieldSegment) :
    others.head? = some ['i', 'd'] := by
  rcases others with _ | ⟨other, others⟩
  · cases same
  rw [List.flatMap_cons] at same
  rcases fieldSegment_cases canonical.head with
    ⟨rfl, -⟩ | ⟨-, first, rest, rfl, letter, small, image⟩
  · rfl
  exfalso
  rw [image] at same
  rcases List.cons.inj same with ⟨startsI, same⟩
  have isI : 'i' = first := Text.toUpper_inj_of_isLower rfl letter startsI
  -- The capital behind it starts the next segment, so this one is `i`.
  have behind :
      rest = [] ∧ others.flatMap fieldSegment = 'D' :: parts.flatMap fieldSegment := by
    have parted :=
      Text.eq_and_eq_of_capital_behind small (List.forall_mem_nil _)
        (isUpper_of_mem_head? canonical.tail.plain) (by rintro character ⟨⟩; rfl) same.symm
    exact parted
  rcases behind with ⟨rfl, behind⟩
  subst isI
  rcases others with _ | ⟨next, others⟩
  · cases behind
  rw [List.flatMap_cons] at behind
  rcases fieldSegment_cases canonical.tail.head with
    ⟨-, image⟩ | ⟨-, second, tail, rfl, letter, small, image⟩
  · rw [image] at behind
    cases behind
  · rw [image] at behind
    rcases List.cons.inj behind with ⟨startsD, behind⟩
    have isD : 'd' = second := Text.toUpper_inj_of_isLower rfl letter startsD.symm
    have single : tail = [] := by
      have parted :=
        Text.eq_and_eq_of_capital_behind small (List.forall_mem_nil _)
          (isUpper_of_mem_head? canonical.tail.tail.plain) (isUpper_of_mem_head? plain) behind
      exact parted.1
    subst isD single
    exact canonical.apart ⟨[], others, rfl⟩

/-- Canonical segments with the same image are the same. -/
theorem eq_of_flatMap_fieldSegment_eq
    {parts others : List Text}
    (canonical : AreCanonical parts)
    (otherCanonical : AreCanonical others)
    (same : parts.flatMap fieldSegment = others.flatMap fieldSegment) :
    parts = others := by
  induction parts generalizing others with
  | nil =>
    cases others with
    | nil => rfl
    | cons other others =>
      rcases exists_capital_of_isPlain otherCanonical.head with ⟨first, rest, image, -⟩
      rw [List.flatMap_cons, image] at same
      cases same
  | cons part parts hypothesis =>
    have starts := same
    rw [List.flatMap_cons] at starts
    rcases fieldSegment_cases canonical.head with
      ⟨rfl, image⟩ | ⟨differs, first, rest, rfl, letter, small, image⟩
    · rw [image] at starts
      have acronym := head?_eq_of_acronym canonical.tail.plain otherCanonical starts
      rcases List.head?_eq_some_iff.mp acronym with ⟨others, rfl⟩
      rw [List.flatMap_cons, image] at starts
      rw [hypothesis canonical.tail otherCanonical.tail (List.append_cancel_left starts)]
    · rw [image] at starts
      rcases others with _ | ⟨other, others⟩
      · cases starts
      rw [List.flatMap_cons] at starts
      rcases fieldSegment_cases otherCanonical.head with
        ⟨rfl, otherImage⟩ | ⟨-, second, tail, rfl, otherLetter, otherSmall, otherImage⟩
      · rw [List.flatMap_cons, List.flatMap_cons, otherImage] at same
        have acronym := head?_eq_of_acronym otherCanonical.tail.plain canonical same.symm
        exact absurd (Option.some.inj acronym) differs
      · rw [otherImage] at starts
        rcases List.cons.inj starts with ⟨capitals, behind⟩
        rcases
            Text.eq_and_eq_of_capital_behind small otherSmall
              (isUpper_of_mem_head? canonical.tail.plain)
              (isUpper_of_mem_head? otherCanonical.tail.plain) behind with
          ⟨rfl, later⟩
        rw [Text.toUpper_inj_of_isLower letter otherLetter capitals,
          hypothesis canonical.tail otherCanonical.tail later]

/-! ## Field names of tables -/

theorem isCapitalized_fieldName
    {column : Text}
    (canonical : IsCanonical column) :
    IsCapitalized (fieldName column) := by
  rcases canonical with ⟨parts, given, canonical, rfl⟩
  rw [fieldName_joined given canonical]
  exact isCapitalized_flatMap given canonical

theorem fieldName_inj
    {column other : Text}
    (canonical : IsCanonical column)
    (otherCanonical : IsCanonical other)
    (same : fieldName column = fieldName other) :
    column = other := by
  rcases canonical with ⟨parts, given, canonical, rfl⟩
  rcases otherCanonical with ⟨others, otherGiven, otherCanonical, rfl⟩
  rw [fieldName_joined given canonical, fieldName_joined otherGiven otherCanonical] at same
  rw [eq_of_flatMap_fieldSegment_eq canonical otherCanonical same]

/--
The field name of a canonical column is a capitalized identifier, and different canonical columns
have different field names. So the fields of a table whose columns have different canonical names
have different names, all of them capitalized identifiers.
-/
theorem field_names_are_valid_and_distinct :
    (∀ column, IsCanonical column → IsCapitalized (fieldName column)) ∧
      (∀ column other,
        IsCanonical column →
          IsCanonical other → column ≠ other → fieldName column ≠ fieldName other) ∧
      ∀ (table : Table) (entity : Text) (language : TargetLanguage),
        (∀ column ∈ table.columns, IsCanonical column.name) →
          (table.columns.map Column.name).Nodup →
            ((TableData.of table entity .go language).fields.map Field.name).Nodup ∧
              ∀ field ∈ (TableData.of table entity .go language).fields,
                IsCapitalized field.name := by
  refine ⟨fun column => isCapitalized_fieldName, ?distinct, ?fields⟩
  case distinct =>
    intro column other canonical otherCanonical differ same
    exact differ (fieldName_inj canonical otherCanonical same)
  case fields =>
    intro table entity language canonical once
    have names :
        (TableData.of table entity .go language).fields.map Field.name =
          (table.columns.map Column.name).map fieldName := by
      rw [TableData.fields_of, List.map_map, List.map_map]
      rfl
    have inColumns :
        ∀ name ∈ table.columns.map Column.name, IsCanonical name := by
      intro name isMember
      rcases List.mem_map.mp isMember with ⟨column, inTable, rfl⟩
      exact canonical column inTable
    constructor
    · rw [names]
      apply once.map_on
      intro name isMember other otherIsMember same
      exact fieldName_inj (inColumns name isMember) (inColumns other otherIsMember) same
    · intro field isMember
      rw [TableData.fields_of] at isMember
      rcases List.mem_map.mp isMember with ⟨column, inTable, rfl⟩
      exact isCapitalized_fieldName (canonical column inTable)

/-- Without the condition on `i` and `d`, two columns may share a field. -/
example : fieldName "user_i_d".toList = fieldName "user_id".toList := by
  decide

/-- A table whose columns have nearly the same field names. -/
def badges : Table where
  name := "badges".toList
  columns :=
    [⟨"id_ay".toList, "bigint".toList, false⟩,
      ⟨"i_day".toList, "date".toList, true⟩,
      ⟨"i_d1".toList, "text".toList, true⟩,
      ⟨"id1_id".toList, "int".toList, false⟩]

theorem badges_have_distinct_fields :
    (∀ column ∈ badges.columns, IsCanonical column.name) ∧
      (badges.columns.map Column.name).Nodup ∧
      (TableData.of badges "Badge".toList .go .go).fields.map Field.name =
        ["IDAy".toList, "IDay".toList, "ID1".toList, "Id1ID".toList] ∧
      ((TableData.of badges "Badge".toList .go .go).fields.map Field.name).Nodup ∧
      ∀ field ∈ (TableData.of badges "Badge".toList .go .go).fields, IsCapitalized field.name := by
  have canonical : ∀ column ∈ badges.columns, IsCanonical column.name := by
    simp only [badges, List.forall_mem_cons]
    refine ⟨?first, ?second, ?third, ?fourth, List.forall_mem_nil _⟩
    case first => exact ⟨["id".toList, "ay".toList], by decide, ⟨by decide, by decide⟩, rfl⟩
    case second => exact ⟨["i".toList, "day".toList], by decide, ⟨by decide, by decide⟩, rfl⟩
    case third => exact ⟨["i".toList, "d1".toList], by decide, ⟨by decide, by decide⟩, rfl⟩
    case fourth => exact ⟨["id1".toList, "id".toList], by decide, ⟨by decide, by decide⟩, rfl⟩
  have once : (badges.columns.map Column.name).Nodup := by
    decide
  exact
    ⟨canonical, once, by decide,
      field_names_are_valid_and_distinct.2.2 badges "Badge".toList .go canonical once⟩

end Scaffold.Identifier
