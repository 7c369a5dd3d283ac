import Mathlib.Data.List.Induction
import Scaffold.Proofs.TextLines
import Scaffold.TemplateSet

/-!
# Headers of templates

A template source is read line by line, and its header is the longest start of its lines that holds
only blank lines and directive lines. A directive line is told by its grammar: the keyword, white
space, an operator that the keyword accepts, and the value (`Gives`). The body is what follows the
header, and what a directive gives is the value of its last line, unless that is empty (`Settles`).

The parts of a source depend on its lines alone (`partsOf_of_lines`): so the directives of a source
are settled by the lines of its header from the last to the first, and a source has a template
exactly when a line follows the header.
-/

namespace Scaffold

namespace Directive

/-! ## Directive lines -/

/-- A trimmed line gives a directive a value. The value may be empty. -/
inductive Gives : Text → Directive → Text → Prop where
  | path
      (blank : ∀ character ∈ gap, Text.isBlank character = true) :
      Gives ("#path".toList ++ gap ++ '=' :: rest) .path (Text.trim rest)
  | fileName
      (blank : ∀ character ∈ gap, Text.isBlank character = true)
      (operates : operator = '=' ∨ operator = ':') :
      Gives ("#fileName".toList ++ gap ++ operator :: rest) .fileName (Text.trim rest)

theorem not_isBlank_of_accepts
    {directive : Directive}
    {operator : Char}
    (accepted : directive.accepts operator = true) :
    Text.isBlank operator = false := by
  have operators : operator = '=' ∨ operator = ':' := by
    cases directive with
    | path => exact Or.inl (by simpa [accepts] using accepted)
    | fileName => simpa [accepts] using accepted
  rcases operators with rfl | rfl
  · rfl
  · rfl

/-- A line has a value for a directive when it has the keyword, white space and an operator. -/
theorem value?_eq_some_iff
    (directive : Directive)
    (line value : Text) :
    directive.value? line = some value ↔
      ∃ gap operator rest,
        line = directive.keyword ++ gap ++ operator :: rest ∧
          (∀ character ∈ gap, Text.isBlank character = true) ∧
          directive.accepts operator = true ∧
          Text.trim rest = value := by
  constructor
  · intro found
    rw [value?] at found
    split at found
    · cases found
    next remainder begins =>
      rw [Text.after?_eq_some_iff] at begins
      split at found
      next operator rest starts =>
        rw [Option.ite_none_right_eq_some, Option.some.injEq] at found
        refine ⟨remainder.takeWhile Text.isBlank, operator, rest, ?_, ?_, found⟩
        · rw [begins, List.append_assoc, ← starts, Text.trimStart, List.takeWhile_append_dropWhile]
        · intro character inside
          exact List.mem_takeWhile_imp inside
      · cases found
  · rintro ⟨gap, operator, rest, rfl, blank, accepted, rfl⟩
    have begins :
        Text.after? directive.keyword (directive.keyword ++ gap ++ operator :: rest) =
          some (gap ++ operator :: rest) := by
      rw [Text.after?_eq_some_iff, List.append_assoc]
    have starts : Text.trimStart (gap ++ operator :: rest) = operator :: rest := by
      rw [Text.trimStart, List.dropWhile_append_of_pos blank, List.dropWhile_cons_of_neg]
      simp [not_isBlank_of_accepts accepted]
    rw [value?, begins]
    dsimp only
    rw [starts]
    dsimp only
    rw [if_pos accepted]

theorem gives_iff_value?
    (line : Text)
    (directive : Directive)
    (value : Text) :
    Gives line directive value ↔ directive.value? line = some value := by
  rw [value?_eq_some_iff]
  constructor
  · intro gives
    cases gives with
    | path blank => exact ⟨_, _, _, rfl, blank, rfl, rfl⟩
    | fileName blank operates => exact ⟨_, _, _, rfl, blank, by simpa [accepts] using operates, rfl⟩
  · rintro ⟨gap, operator, rest, rfl, blank, accepted, rfl⟩
    cases directive with
    | path =>
      obtain rfl : operator = '=' := by simpa [accepts] using accepted
      exact .path blank
    | fileName => exact .fileName blank (by simpa [accepts] using accepted)

theorem Gives.keyword_isPrefix
    {line value : Text}
    {directive : Directive}
    (gives : Gives line directive value) :
    directive.keyword <+: line := by
  cases gives with
  | path blank => exact ⟨_, (List.append_assoc _ _ _).symm⟩
  | fileName blank operates => exact ⟨_, (List.append_assoc _ _ _).symm⟩

/-- A line gives one directive, because no keyword starts with the other, and one value. -/
theorem Gives.unique
    {line value otherValue : Text}
    {directive other : Directive}
    (gives : Gives line directive value)
    (givesOther : Gives line other otherValue) :
    directive = other ∧ value = otherValue := by
  have same : directive = other := by
    have apart :
        ¬ Directive.path.keyword <+: Directive.fileName.keyword ∧
          ¬ Directive.fileName.keyword <+: Directive.path.keyword := by
      decide
    have nested := List.prefix_or_prefix_of_prefix gives.keyword_isPrefix givesOther.keyword_isPrefix
    cases directive with
    | path =>
      cases other with
      | path => rfl
      | fileName => exact absurd nested (not_or.mpr apart)
    | fileName =>
      cases other with
      | path => exact absurd nested.symm (not_or.mpr apart)
      | fileName => rfl
  subst same
  rw [gives_iff_value?] at gives givesOther
  rw [gives, Option.some.injEq] at givesOther
  exact ⟨rfl, givesOther⟩

theorem ofLine?_eq_some_iff
    (line : Text)
    (directive : Directive)
    (value : Text) :
    ofLine? line = some (directive, value) ↔ Gives line directive value := by
  rw [ofLine?]
  cases found : path.value? line with
  | some expression =>
    have givesPath := (gives_iff_value? line path expression).mpr found
    simp only [Option.some.injEq, Prod.mk.injEq]
    constructor
    · rintro ⟨rfl, rfl⟩
      exact givesPath
    · exact givesPath.unique
  | none =>
    simp only [gives_iff_value?, Option.map_eq_some_iff, Prod.mk.injEq]
    cases directive with
    | path => simp [found]
    | fileName => simp

theorem ofLine?_eq_none_iff
    (line : Text) :
    ofLine? line = none ↔ ∀ directive value, ¬ Gives line directive value := by
  simp only [← ofLine?_eq_some_iff, Option.eq_none_iff_forall_ne_some, Prod.forall, ne_eq]

end Directive

namespace Template

open Directive (Gives)

/-! ## The lines of a header -/

/-- A blank line or a directive line. -/
def BelongsToHeader (line : Text) : Prop :=
  Text.trim line = [] ∨ ∃ directive value, Gives (Text.trim line) directive value

theorem isHeaderLine_iff
    (line : Text) :
    isHeaderLine line = true ↔ BelongsToHeader line := by
  rw [isHeaderLine, Bool.or_eq_true, List.isEmpty_iff, Option.isSome_iff_exists, Prod.exists]
  simp only [Directive.ofLine?_eq_some_iff]
  rfl

theorem belongsToHeader_withoutReturn
    (line : Text) :
    BelongsToHeader (Text.withoutReturn line) ↔ BelongsToHeader line := by
  rw [BelongsToHeader, Text.trim_withoutReturn, BelongsToHeader]

/-- The header of a list of lines is their longest start of blank lines and directive lines. -/
structure IsHeaderOf (lines header rest : List Text) : Prop where
  order : lines = header ++ rest
  inside : ∀ line ∈ header, BelongsToHeader line
  longest :
    ∀ start, start <+: lines → (∀ line ∈ start, BelongsToHeader line) → start <+: header

/-- A header is the longest one when the line that follows it does not belong to it. -/
theorem isHeaderOf_of_stops
    {header rest : List Text}
    (inside : ∀ line ∈ header, BelongsToHeader line)
    (stops : ∀ line ∈ rest.head?, ¬ BelongsToHeader line) :
    IsHeaderOf (header ++ rest) header rest where
  order := rfl
  inside := inside
  longest := by
    intro start isStart belongs
    apply Text.prefix_of_prefix_append isStart
    intro line starts isMember
    exact stops line starts (belongs line isMember)

/-- The line behind the lines of a header does not belong to it. -/
theorem not_belongsToHeader_of_head?_dropWhile
    {lines : List Text}
    {line : Text}
    (starts : (lines.dropWhile isHeaderLine).head? = some line) :
    ¬ BelongsToHeader line := by
  have stops := List.head?_dropWhile_not isHeaderLine lines
  rw [starts] at stops
  rw [← isHeaderLine_iff]
  simpa using stops

theorem isHeaderOf_takeWhile
    (lines : List Text) :
    IsHeaderOf lines (lines.takeWhile isHeaderLine) (lines.dropWhile isHeaderLine) := by
  have parted : lines.takeWhile isHeaderLine ++ lines.dropWhile isHeaderLine = lines :=
    List.takeWhile_append_dropWhile
  conv => arg 1; rw [← parted]
  apply isHeaderOf_of_stops
  · intro line inside
    rw [← isHeaderLine_iff]
    exact List.mem_takeWhile_imp inside
  · intro line
    exact not_belongsToHeader_of_head?_dropWhile

/-! ## What a header gives -/

@[simp]
theorem directivesOf_nil :
    directivesOf [] = [] :=
  rfl

theorem directivesOf_append
    (header later : List Text) :
    directivesOf (header ++ later) = directivesOf header ++ directivesOf later :=
  List.filterMap_append

theorem directivesOf_cons_of_silent
    {line : Text}
    (silent : Directive.ofLine? (Text.trim line) = none)
    (header : List Text) :
    directivesOf (line :: header) = directivesOf header := by
  rw [directivesOf, List.filterMap_cons, silent, directivesOf]

theorem directivesOf_cons_of_gives
    {line value : Text}
    {directive : Directive}
    (gives : Gives (Text.trim line) directive value)
    (header : List Text) :
    directivesOf (line :: header) = (directive, value) :: directivesOf header := by
  rw [directivesOf, List.filterMap_cons, (Directive.ofLine?_eq_some_iff _ _ _).mpr gives,
    directivesOf]

/-- The expression that lines give a directive: the value of its last line, where the empty value
counts as none. -/
inductive Settles (directive : Directive) : List Text → Option Text → Prop where
  | silent
      (never : ∀ line ∈ header, ∀ value, ¬ Gives (Text.trim line) directive value) :
      Settles directive header none
  | emptied
      (gives : Gives (Text.trim line) directive [])
      (last : ∀ other ∈ after, ∀ value, ¬ Gives (Text.trim other) directive value) :
      Settles directive (before ++ line :: after) none
  | given
      (gives : Gives (Text.trim line) directive value)
      (telling : value ≠ [])
      (last : ∀ other ∈ after, ∀ value, ¬ Gives (Text.trim other) directive value) :
      Settles directive (before ++ line :: after) (some value)

theorem Settles.concat
    {directive : Directive}
    {header : List Text}
    {expression : Option Text}
    (settles : Settles directive header expression)
    {line : Text}
    (silent : ∀ value, ¬ Gives (Text.trim line) directive value) :
    Settles directive (header ++ [line]) expression := by
  have longer {lines : List Text}
      (never : ∀ other ∈ lines, ∀ value, ¬ Gives (Text.trim other) directive value) :
      ∀ other ∈ lines ++ [line], ∀ value, ¬ Gives (Text.trim other) directive value := by
    intro other isMember
    rcases List.mem_append.mp isMember with known | isLine
    · exact never other known
    · rw [List.mem_singleton.mp isLine]
      exact silent
  cases settles with
  | silent never => exact .silent (longer never)
  | emptied gives last =>
    rw [List.append_assoc]
    exact .emptied gives (longer last)
  | given gives telling last =>
    rw [List.append_assoc]
    exact .given gives telling (longer last)

/-- The expression of a directive in the parts of a source. -/
def Parts.expression (parts : Parts) : Directive → Option Text
  | .path => parts.path
  | .fileName => parts.fileName

theorem Parts.expression_withValue
    (parts : Parts)
    (directive other : Directive)
    (value : Text) :
    (parts.withValue directive value).expression other =
      if other = directive then givenValue value else parts.expression other := by
  cases directive with
  | path => cases other <;> rfl
  | fileName => cases other <;> rfl

theorem Parts.body_withValue
    (parts : Parts)
    (directive : Directive)
    (value : Text) :
    (parts.withValue directive value).body = parts.body := by
  cases directive with
  | path => rfl
  | fileName => rfl

/-- The parts with the values of directives, one after the other. -/
def Parts.withValues (parts : Parts) (values : List (Directive × Text)) : Parts :=
  values.foldl (fun parts (directive, value) => parts.withValue directive value) parts

theorem Parts.body_withValues
    (parts : Parts)
    (values : List (Directive × Text)) :
    (parts.withValues values).body = parts.body := by
  induction values generalizing parts with
  | nil => rfl
  | cons value values hypothesis => exact (hypothesis _).trans (parts.body_withValue _ _)

theorem settles_withValues
    (body : Text)
    (header : List Text)
    (directive : Directive) :
    Settles directive header
      ((Parts.withValues ⟨none, none, body⟩ (directivesOf header)).expression directive) := by
  induction header using List.reverseRecOn with
  | nil =>
    have nothing :
        (Parts.withValues ⟨none, none, body⟩ (directivesOf [])).expression directive = none := by
      cases directive with
      | path => rfl
      | fileName => rfl
    rw [nothing]
    exact .silent (by simp)
  | append_singleton header line hypothesis =>
    rw [directivesOf_append]
    cases found : Directive.ofLine? (Text.trim line) with
    | none =>
      rw [directivesOf_cons_of_silent found, directivesOf_nil, List.append_nil]
      exact hypothesis.concat ((Directive.ofLine?_eq_none_iff _).mp found directive)
    | some given =>
      rcases given with ⟨other, value⟩
      have gives := (Directive.ofLine?_eq_some_iff _ _ _).mp found
      rw [directivesOf_cons_of_gives gives, Parts.withValues, List.foldl_append,
        ← Parts.withValues]
      change Settles directive (header ++ [line]) ((Parts.withValue _ other value).expression directive)
      rw [Parts.expression_withValue]
      split
      next same =>
        subst same
        by_cases silent : value = []
        · subst silent
          exact .emptied gives (by simp)
        · rw [givenValue, if_neg (by simpa using silent)]
          exact .given gives silent (by simp)
      next apart =>
        apply hypothesis.concat
        intro otherValue givesDirective
        exact apart (givesDirective.unique gives).1

/-! ## The parts of a source -/

/-- The parts of a source depend on its lines. -/
theorem partsOf_of_lines
    {source : Text}
    {header rest : List Text}
    (order : Text.lines source = header ++ rest)
    (inside : ∀ line ∈ header, BelongsToHeader line)
    (stops : ∀ line ∈ rest.head?, ¬ BelongsToHeader line) :
    partsOf source = Parts.withValues ⟨none, none, Text.written rest⟩ (directivesOf header) := by
  simp only [← isHeaderLine_iff, Bool.not_eq_true] at inside stops
  have behind : rest.dropWhile isHeaderLine = rest := Text.dropWhile_eq_self stops
  have none : rest.takeWhile isHeaderLine = [] := by
    have parted : rest.takeWhile isHeaderLine ++ rest.dropWhile isHeaderLine = rest :=
      List.takeWhile_append_dropWhile
    rw [behind] at parted
    exact List.append_left_eq_self.mp parted
  rw [partsOf, order]
  dsimp only
  rw [List.takeWhile_append_of_pos inside, none, List.append_nil,
    List.dropWhile_append_of_pos inside, behind]
  rfl

/-- The parts of a source, with its header as lines. -/
theorem partsOf_eq
    (source : Text) :
    partsOf source =
      Parts.withValues
        ⟨none, none, Text.written ((Text.lines source).dropWhile isHeaderLine)⟩
        (directivesOf ((Text.lines source).takeWhile isHeaderLine)) :=
  rfl

theorem body_partsOf
    (source : Text) :
    (partsOf source).body = Text.written ((Text.lines source).dropWhile isHeaderLine) := by
  rw [partsOf_eq, Parts.body_withValues]

theorem settles_partsOf
    (source : Text)
    (directive : Directive) :
    Settles directive ((Text.lines source).takeWhile isHeaderLine)
      ((partsOf source).expression directive) := by
  rw [partsOf_eq]
  exact settles_withValues _ _ directive

/-- The template that the parts of a source make up. -/
def Parts.template (parts : Parts) (name : Text) : Template :=
  ⟨name, parts.body, parts.path, parts.fileName⟩

@[simp]
theorem Parts.directive_template
    (parts : Parts)
    (name : Text)
    (directive : Directive) :
    (parts.template name).directive directive = parts.expression directive := by
  cases directive with
  | path => rfl
  | fileName => rfl

theorem parse_of_silent_body
    {source : Text}
    (silent : (partsOf source).body = [])
    (name : Text) :
    TemplateSet.parse name source = .error (.templateWithoutBody name) := by
  rw [TemplateSet.parse, ofSource?, silent]
  rfl

theorem parse_of_telling_body
    {source : Text}
    (telling : (partsOf source).body ≠ [])
    (name : Text) :
    TemplateSet.parse name source = .ok ((partsOf source).template name) := by
  have filled : (partsOf source).body.isEmpty = false := by
    simpa using telling
  rw [TemplateSet.parse, ofSource?, filled]
  rfl

/-- The first line of a body does not belong to a header. -/
theorem body_starts_outside_header
    {source first : Text}
    {others : List Text}
    (following : (Text.lines source).dropWhile isHeaderLine = first :: others) :
    ∃ start rest, Text.HasLines (partsOf source).body (start :: rest) ∧ ¬ BelongsToHeader start := by
  have single : ∀ line ∈ first :: others, '\n' ∉ line := by
    intro line isMember
    rw [← following] at isMember
    exact Text.single_of_mem_lines ((List.dropWhile_suffix _).mem isMember)
  refine ⟨Text.withoutReturn first, others.map Text.withoutReturn, ?_, ?_⟩
  · rw [Text.hasLines_iff, body_partsOf, following, Text.lines_written single, List.map_cons]
  · rw [belongsToHeader_withoutReturn]
    apply not_belongsToHeader_of_head?_dropWhile
    rw [following, List.head?_cons]

/--
The parts of a template source are those of its lines: the longest start of blank lines and directive
lines, which settles what the directives give, and the lines that follow, each ended by one line
feed. A source has a template exactly when a line follows its header, and then the body of the
template starts with a line that does not belong to a header.
-/
theorem template_divides_header_from_body
    (source : Text) :
    ∃ lines header rest,
      Text.HasLines source lines ∧
        IsHeaderOf lines header rest ∧
        (partsOf source).body = Text.written rest ∧
        (∀ directive, Settles directive header ((partsOf source).expression directive)) ∧
        ∀ name,
          (rest = [] ∧ TemplateSet.parse name source = .error (.templateWithoutBody name)) ∨
            (rest ≠ [] ∧
              ∃ template,
                TemplateSet.parse name source = .ok template ∧
                  template.name = name ∧
                  template.body = Text.written rest ∧
                  (∀ directive, Settles directive header (template.directive directive)) ∧
                  template.body ≠ [] ∧
                  ∃ first others,
                    Text.HasLines template.body (first :: others) ∧ ¬ BelongsToHeader first) := by
  refine
    ⟨Text.lines source, (Text.lines source).takeWhile isHeaderLine,
      (Text.lines source).dropWhile isHeaderLine, Text.hasLines_lines source,
      isHeaderOf_takeWhile _, body_partsOf source, settles_partsOf source, ?_⟩
  intro name
  have body := body_partsOf source
  cases following : (Text.lines source).dropWhile isHeaderLine with
  | nil =>
    rw [following, Text.written_nil] at body
    exact Or.inl ⟨rfl, parse_of_silent_body body name⟩
  | cons first others =>
    rw [following] at body
    have telling : (partsOf source).body ≠ [] := by
      simp [body]
    refine
      Or.inr
        ⟨List.cons_ne_nil _ _, (partsOf source).template name, parse_of_telling_body telling name,
          rfl, body, ?_, telling, body_starts_outside_header following⟩
    intro directive
    rw [Parts.directive_template]
    exact settles_partsOf source directive

end Template

end Scaffold
