import Mathlib.Data.List.Basic
import Scaffold.Proofs.TemplateHeaders

/-!
# Written headers

A header that is written line by line is read back: whatever white space stands around the keyword,
the operator and the expression of a directive, whichever operator it accepts is used, and whatever
blank lines stand between the directives, the parts of the source are the two expressions and the
body. White space at the end of a line may hold a carriage return, which counts as part of the line
ending.

A body is a source without directives of its own. It is read back as it is when no line of it ends
in a carriage return, and so it is for the body of every source whose carriage returns all belong to
line endings.
-/

namespace Scaffold.Template

open Directive (Gives)

/-! ## Directive lines as they are written -/

/-- White space that ends no line. -/
structure Margin where
  text : Text
  blank : ∀ character ∈ text, Text.isBlank character = true
  single : '\n' ∉ text

/-- A trimmed text on one line. -/
structure Expression where
  text : Text
  telling : text ≠ []
  trimmed : Text.trim text = text
  single : '\n' ∉ text

/-- What stands around the keyword and the expression of a directive on its line. -/
structure Layout (directive : Directive) where
  indent : Margin
  gap : Margin
  operator : Char
  accepted : directive.accepts operator = true
  lead : Margin
  trail : Margin

/-- The line of a directive without the white space at its ends. -/
def Layout.core
    {directive : Directive}
    (layout : Layout directive)
    (expression : Expression) :
    Text :=
  directive.keyword ++ layout.gap.text ++
    layout.operator :: (layout.lead.text ++ expression.text)

/-- The line of a directive. -/
def Layout.line
    {directive : Directive}
    (layout : Layout directive)
    (expression : Expression) :
    Text :=
  layout.indent.text ++ layout.core expression ++ layout.trail.text

/-- The lines of a body, which are read back as they are written. -/
structure Body where
  first : Text
  others : List Text
  single : ∀ line ∈ first :: others, '\n' ∉ line
  plain : ∀ line ∈ first :: others, line.getLast? ≠ some '\r'
  starts : ¬ BelongsToHeader first

/-- All lines of a body. -/
def Body.lines (body : Body) : List Text :=
  body.first :: body.others

theorem Margin.belongsToHeader
    (margin : Margin) :
    BelongsToHeader margin.text :=
  Or.inl (Text.trimWhere_of_dropped margin.blank)

section Layout

variable {directive : Directive} (layout : Layout directive) (expression : Expression)

theorem Layout.trim_core :
    Text.trim (layout.core expression) = layout.core expression := by
  apply Text.trimWhere_eq_self_iff.mpr
  constructor
  · intro first starts
    have begins : (layout.core expression).head? = some '#' := rfl
    obtain rfl : '#' = first := by simpa [begins] using starts
    rfl
  · intro last ends
    have finishes : (layout.core expression).getLast? = expression.text.getLast? := by
      rw [Layout.core, ← List.cons_append, ← List.append_assoc,
        List.getLast?_append_of_ne_nil _ expression.telling]
    rw [finishes] at ends
    exact (Text.trimWhere_eq_self_iff.mp expression.trimmed).2 last ends

theorem Layout.trim_line :
    Text.trim (layout.line expression) = layout.core expression :=
  Text.trimWhere_surrounded (layout.trim_core expression) layout.indent.blank layout.trail.blank

/-- A line that is written for a directive gives it the expression. -/
theorem Layout.gives :
    Gives (Text.trim (layout.line expression)) directive expression.text := by
  have value : Text.trim (layout.lead.text ++ expression.text) = expression.text := by
    have surrounded :=
      Text.trimWhere_surrounded expression.trimmed layout.lead.blank (List.forall_mem_nil _)
    rw [List.append_nil] at surrounded
    exact surrounded
  rw [layout.trim_line expression, Directive.gives_iff_value?, Directive.value?_eq_some_iff]
  exact ⟨_, _, _, rfl, layout.gap.blank, layout.accepted, value⟩

theorem Layout.single_line :
    '\n' ∉ layout.line expression := by
  have keyword : '\n' ∉ directive.keyword := by
    cases directive with
    | path => decide
    | fileName => decide
  have operator : '\n' ≠ layout.operator := by
    intro same
    have plain := Directive.not_isBlank_of_accepts layout.accepted
    rw [← same] at plain
    cases plain
  simp only [Layout.line, Layout.core, List.mem_append, List.mem_cons, not_or]
  exact
    ⟨⟨layout.indent.single, ⟨keyword, layout.gap.single⟩, operator, layout.lead.single,
      expression.single⟩, layout.trail.single⟩

end Layout

/-! ## Sources as they are written -/

theorem directivesOf_map_withoutReturn
    (header : List Text) :
    directivesOf (header.map Text.withoutReturn) = directivesOf header := by
  rw [directivesOf, List.filterMap_map, directivesOf]
  congr 1
  funext line
  rw [Function.comp_apply, Text.trim_withoutReturn]

theorem directivesOf_margins
    (margins : List Margin)
    (later : List Text) :
    directivesOf (margins.map Margin.text ++ later) = directivesOf later := by
  induction margins with
  | nil => rfl
  | cons margin margins hypothesis =>
    have silent : Directive.ofLine? (Text.trim margin.text) = none := by
      rw [Text.trim, Text.trimWhere_of_dropped margin.blank]
      rfl
    rw [List.map_cons, List.cons_append, directivesOf_cons_of_silent silent, hypothesis]

/-- The parts of a source that is written as a header and a body. -/
theorem partsOf_written
    {header : List Text}
    (single : ∀ line ∈ header, '\n' ∉ line)
    (inside : ∀ line ∈ header, BelongsToHeader line)
    (body : Body) :
    partsOf (Text.written (header ++ body.lines)) =
      Parts.withValues ⟨none, none, Text.written body.lines⟩ (directivesOf header) := by
  have bodyLines : body.lines.map Text.withoutReturn = body.lines :=
    Text.map_withoutReturn_eq_self body.plain
  have order :
      Text.lines (Text.written (header ++ body.lines)) =
        header.map Text.withoutReturn ++ body.lines := by
    rw [Text.lines_written, List.map_append, bodyLines]
    intro line isMember
    rcases List.mem_append.mp isMember with inHeader | inBody
    · exact single line inHeader
    · exact body.single line inBody
  rw [partsOf_of_lines order, directivesOf_map_withoutReturn]
  · intro line isMember
    rcases List.mem_map.mp isMember with ⟨written, inHeader, rfl⟩
    rw [belongsToHeader_withoutReturn]
    exact inside written inHeader
  · intro line starts
    cases starts
    exact body.starts

/-- The lines of a header with two directives. -/
def headerLines
    {first second : Directive}
    (firstLayout : Layout first)
    (secondLayout : Layout second)
    (expressions : Directive → Expression)
    (above between below : List Margin) :
    List Text :=
  above.map Margin.text ++
    firstLayout.line (expressions first) ::
      (between.map Margin.text ++
        secondLayout.line (expressions second) :: below.map Margin.text)

theorem forall_mem_headerLines
    {first second : Directive}
    {firstLayout : Layout first}
    {secondLayout : Layout second}
    {expressions : Directive → Expression}
    {property : Text → Prop}
    (margins : ∀ margin : Margin, property margin.text)
    (lines :
      ∀ {directive : Directive} (layout : Layout directive) (expression : Expression),
        property (layout.line expression))
    (above between below : List Margin) :
    ∀ line ∈ headerLines firstLayout secondLayout expressions above between below,
      property line := by
  have ofMargins (blank : List Margin) : ∀ line ∈ blank.map Margin.text, property line := by
    intro line isMember
    rcases List.mem_map.mp isMember with ⟨margin, -, rfl⟩
    exact margins margin
  intro line isMember
  simp only [headerLines, List.mem_append, List.mem_cons] at isMember
  rcases isMember with inAbove | rfl | inBetween | rfl | inBelow
  · exact ofMargins above line inAbove
  · exact lines firstLayout _
  · exact ofMargins between line inBetween
  · exact lines secondLayout _
  · exact ofMargins below line inBelow

theorem directivesOf_headerLines
    {first second : Directive}
    (firstLayout : Layout first)
    (secondLayout : Layout second)
    (expressions : Directive → Expression)
    (above between below : List Margin) :
    directivesOf (headerLines firstLayout secondLayout expressions above between below) =
      [(first, (expressions first).text), (second, (expressions second).text)] := by
  have nothing : directivesOf (below.map Margin.text) = [] := by
    have margins := directivesOf_margins below []
    rwa [List.append_nil] at margins
  rw [headerLines, directivesOf_margins, directivesOf_cons_of_gives (firstLayout.gives _),
    directivesOf_margins, directivesOf_cons_of_gives (secondLayout.gives _), nothing]

theorem Expression.givenValue_text
    (expression : Expression) :
    givenValue expression.text = some expression.text := by
  rw [givenValue, if_neg]
  simpa using expression.telling

/-- A header that gives both directives is read back with its body. -/
theorem partsOf_headerLines
    {first second : Directive}
    (apart : first ≠ second)
    (firstLayout : Layout first)
    (secondLayout : Layout second)
    (expressions : Directive → Expression)
    (above between below : List Margin)
    (body : Body) :
    partsOf
        (Text.written
          (headerLines firstLayout secondLayout expressions above between below ++ body.lines)) =
      ⟨some (expressions .path).text, some (expressions .fileName).text,
        Text.written body.lines⟩ := by
  have single :
      ∀ line ∈ headerLines firstLayout secondLayout expressions above between below,
        '\n' ∉ line :=
    forall_mem_headerLines Margin.single (fun layout expression => layout.single_line expression)
      above between below
  have inside :
      ∀ line ∈ headerLines firstLayout secondLayout expressions above between below,
        BelongsToHeader line :=
    forall_mem_headerLines Margin.belongsToHeader
      (fun layout expression => Or.inr ⟨_, _, layout.gives expression⟩) above between below
  rw [partsOf_written single inside, directivesOf_headerLines]
  have pathText := (expressions .path).givenValue_text
  have fileNameText := (expressions .fileName).givenValue_text
  cases first with
  | path =>
    cases second with
    | path => exact absurd rfl apart
    | fileName =>
      rw [← pathText, ← fileNameText]
      rfl
  | fileName =>
    cases second with
    | path =>
      rw [← pathText, ← fileNameText]
      rfl
    | fileName => exact absurd rfl apart

/-- A body without stray carriage returns has the lines behind the header, so its own header is
empty. -/
theorem partsOf_body_of_returnsEndLines
    {source : Text}
    (ends : Text.ReturnsEndLines source) :
    partsOf (partsOf source).body = ⟨none, none, (partsOf source).body⟩ := by
  have isRest : ∀ line ∈ (Text.lines source).dropWhile isHeaderLine, line ∈ Text.lines source :=
    fun line isMember => (List.dropWhile_suffix _).mem isMember
  have plain :
      ∀ line ∈ (Text.lines source).dropWhile isHeaderLine, line.getLast? ≠ some '\r' := by
    intro line isMember returns
    apply Text.return_not_mem_of_mem_lines ends (isRest line isMember)
    exact List.mem_of_getLast? returns
  have order :
      Text.lines (Text.written ((Text.lines source).dropWhile isHeaderLine)) =
        [] ++ (Text.lines source).dropWhile isHeaderLine := by
    rw [Text.lines_written, Text.map_withoutReturn_eq_self plain, List.nil_append]
    intro line isMember
    exact Text.single_of_mem_lines (isRest line isMember)
  rw [body_partsOf source,
    partsOf_of_lines order (List.forall_mem_nil _)
      fun line => not_belongsToHeader_of_head?_dropWhile]
  rfl

/--
A header that gives both directives in either order is read back with its body. Reading the body of
a source again finds no directive and the same body, when the carriage returns of the source belong
to line endings.
-/
theorem written_header_reads_back :
    (∀ {first second : Directive},
      first ≠ second →
        ∀ (firstLayout : Layout first)
          (secondLayout : Layout second)
          (expressions : Directive → Expression)
          (above between below : List Margin)
          (body : Body),
          partsOf
              (Text.written
                (headerLines firstLayout secondLayout expressions above between below ++
                  body.lines)) =
            ⟨some (expressions .path).text, some (expressions .fileName).text,
              Text.written body.lines⟩) ∧
      ∀ source,
        Text.ReturnsEndLines source →
          partsOf (partsOf source).body = ⟨none, none, (partsOf source).body⟩ := by
  constructor
  · intro first second apart firstLayout secondLayout expressions above between below body
    exact
      partsOf_headerLines apart firstLayout secondLayout expressions above between below body
  · intro source ends
    exact partsOf_body_of_returnsEndLines ends

/-- Expressions that look like operators and keywords themselves. -/
def noteExpressions : Directive → Expression
  | .path => ⟨"= #path".toList, by decide, by decide, by decide⟩
  | .fileName => ⟨":\x7b\x7btable_name\x7d\x7d.go".toList, by decide, by decide, by decide⟩

/-- The margin without any white space. -/
def noMargin : Margin :=
  ⟨[], by decide, by decide⟩

/-- An indented line with a colon that ends in a blank and a carriage return. -/
def indentedLayout : Layout .fileName where
  indent := ⟨"\t".toList, by decide, by decide⟩
  gap := ⟨" ".toList, by decide, by decide⟩
  operator := ':'
  accepted := by decide
  lead := noMargin
  trail := ⟨" \r".toList, by decide, by decide⟩

/-- A line without any white space. -/
def tightLayout : Layout .path where
  indent := noMargin
  gap := noMargin
  operator := '='
  accepted := by decide
  lead := noMargin
  trail := noMargin

/-- A body with a blank line and a line that looks like a directive. -/
def noteBody : Body where
  first := "package note".toList
  others := [[], "#path = late".toList]
  single := by decide
  plain := by decide
  starts := by
    rw [← isHeaderLine_iff]
    decide

/-- A source with these directives and this body. -/
def noteSource : Text :=
  ("\n\t#fileName ::\x7b\x7btable_name\x7d\x7d.go \r\n#path== #path\n\u3000\r\n" ++
    "package note\n\n#path = late\n").toList

/-- A source whose lines end in carriage returns and line feeds. -/
def returningSource : Text :=
  "#path = x\r\n\r\npackage note\r\n".toList

theorem note_reads_back :
    partsOf noteSource =
        ⟨some "= #path".toList, some ":\x7b\x7btable_name\x7d\x7d.go".toList,
          "package note\n\n#path = late\n".toList⟩ ∧
      partsOf (partsOf returningSource).body = ⟨none, none, (partsOf returningSource).body⟩ := by
  rcases written_header_reads_back with ⟨reads, readsAgain⟩
  constructor
  · have order :
        noteSource =
          Text.written
            (headerLines indentedLayout tightLayout noteExpressions [noMargin] []
              [⟨"\u3000\r".toList, by decide, by decide⟩] ++ noteBody.lines) := by
      decide +kernel
    rw [order, reads (by decide) indentedLayout tightLayout noteExpressions]
    decide +kernel
  · apply readsAgain
    apply Text.returnsEndLines_of_getElem?
    decide

end Scaffold.Template
