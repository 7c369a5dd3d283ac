import Scaffold.Proofs.MigrationMeaning
import Scaffold.Proofs.TextLines

/-!
# Written tables

A table that is written as a definition is read back: one line opens it, each column has a line of
its own with its name, its type, an argument of the type and the constraint that it may not be null,
and a last line closes it. What a column may look like is said once (`Declaration`): its name and its
type are words that keep what stands at their ends, and no two words of its line make up a definition
line or a constraint that is not meant.

Every line of a column is then a line of the open block that reads as this column
(`column?_line`), so the block is read as the list of columns.
-/

namespace Scaffold.Migration

/-! ## Columns as they are written -/

/-- A column as it is written in a definition. -/
structure Declaration where
  name : Text
  type : Text
  argument : Option Text
  nullable : Bool
  nameTelling : name ≠ []
  namePlain : ∀ character ∈ name, Text.isBlank character = false
  nameUnquoted :
    (∀ first ∈ name.head?, surroundsName first = false) ∧
      ∀ last ∈ name.getLast?, surroundsName last = false
  nameInside : ¬ [')'] <+: name ∧ ¬ "--".toList <+: name
  typeTelling : type ≠ []
  typePlain : ∀ character ∈ type, Text.isBlank character = false ∧ character ≠ '('
  typeEnds : ∀ last ∈ type.getLast?, followsType last = false
  argumentSingle :
    ∀ text ∈ argument, '\n' ∉ text ∧ ¬ "NOT NULL".toList <:+: Text.upperCase text
  definesNothing :
    ¬ (name.map Char.toUpper = "CREATE".toList ∧ "TABLE".toList <+: type.map Char.toUpper)
  constrainsNothing :
    ¬ ("NOT".toList <:+ Text.upperCase name ∧ "NULL".toList <+: Text.upperCase type)

namespace Declaration

variable (declaration : Declaration)

/-- The column that is meant. -/
def column : Column :=
  ⟨declaration.name, declaration.type, declaration.nullable⟩

/-- The argument of a type in parentheses. -/
def argumentText : Option Text → Text
  | some text => '(' :: (text ++ [')'])
  | none => []

/-- The constraint of a column that may not be null. -/
def constraintText (nullable : Bool) : Text :=
  if nullable then [] else " NOT NULL".toList

/-- What stands behind the type. -/
def ending : Text :=
  argumentText declaration.argument ++ constraintText declaration.nullable ++ [',']

/-- The line of a column. -/
def line : Text :=
  declaration.name ++ ' ' :: (declaration.type ++ declaration.ending)

end Declaration

/-- The line that opens a table. -/
def openingLine (table : Text) : Text :=
  definitionWords ++ ' ' :: (table ++ [' ', '('])

/-- The line that closes a table. -/
def closingLine : Text :=
  ");".toList

/-- The lines behind the opening one, a line for each column. -/
def bodyLines (declarations : List Declaration) : List Text :=
  declarations.map Declaration.line ++ [closingLine]

/-- The definition of a table. -/
def definitionText (table : Text) (declarations : List Declaration) : Text :=
  Text.written (openingLine table :: bodyLines declarations)

namespace Declaration

variable (declaration : Declaration)

theorem exists_ending :
    ∃ mark rest, declaration.ending = mark :: rest ∧ (mark = '(' ∨ mark = ' ' ∨ mark = ',') := by
  rw [ending]
  cases declaration.argument with
  | some text => exact ⟨_, _, rfl, Or.inl rfl⟩
  | none =>
    cases declaration.nullable with
    | true => exact ⟨_, _, rfl, Or.inr (Or.inr rfl)⟩
    | false => exact ⟨_, _, rfl, Or.inr (Or.inl rfl)⟩

theorem blank_not_mem_name :
    ' ' ∉ declaration.name := by
  intro inside
  cases declaration.namePlain ' ' inside

theorem blank_not_mem_type :
    ' ' ∉ declaration.type := by
  intro inside
  cases (declaration.typePlain ' ' inside).1

theorem getLast?_line :
    declaration.line.getLast? = some ',' := by
  rw [line, ending, ← List.append_assoc, ← List.cons_append, ← List.append_assoc,
    List.getLast?_concat]

theorem single_line :
    '\n' ∉ declaration.line := by
  have name : '\n' ∉ declaration.name := by
    intro inside
    cases declaration.namePlain '\n' inside
  have type : '\n' ∉ declaration.type := by
    intro inside
    cases (declaration.typePlain '\n' inside).1
  have argument : '\n' ∉ argumentText declaration.argument := by
    cases given : declaration.argument with
    | none => exact List.not_mem_nil
    | some text =>
      have single := (declaration.argumentSingle text given).1
      simp [argumentText, single]
  have constraint : '\n' ∉ constraintText declaration.nullable := by
    cases declaration.nullable with
    | true => exact List.not_mem_nil
    | false => decide
  simp [line, ending, name, type, argument, constraint]

theorem trim_line :
    Text.trim declaration.line = declaration.line := by
  apply Text.trimWhere_eq_self_iff.mpr
  constructor
  · intro first starts
    rw [line, List.head?_append_of_ne_nil _ declaration.nameTelling] at starts
    exact declaration.namePlain first (List.mem_of_head? starts)
  · intro last ends
    rw [getLast?_line] at ends
    cases ends
    rfl

/-- What a line starts with before its first blank, its name starts with. -/
theorem prefix_name_of_prefix_line
    {start : Text}
    (absent : ' ' ∉ start)
    (begins : start <+: declaration.line) :
    start <+: declaration.name :=
  Text.prefix_of_prefix_append_cons absent begins

theorem isSignificant_line :
    isSignificant declaration.line = true := by
  rw [isSignificant, Bool.and_eq_true, Bool.not_eq_true', Bool.not_eq_true']
  constructor
  · have ends := declaration.getLast?_line
    cases given : declaration.line with
    | nil => simp [given] at ends
    | cons first rest => rfl
  · rw [← Bool.not_eq_true, List.isPrefixOf_iff_prefix]
    intro begins
    exact declaration.nameInside.2 (declaration.prefix_name_of_prefix_line (by decide) begins)

theorem startsWithClosing_line :
    startsWithClosing declaration.line = false := by
  rw [startsWithClosing, ← Bool.not_eq_true, List.isPrefixOf_iff_prefix]
  intro begins
  exact declaration.nameInside.1 (declaration.prefix_name_of_prefix_line (by decide) begins)

theorem endsWithClosing_line :
    endsWithClosing declaration.line = false := by
  rw [endsWithClosing, ← Bool.not_eq_true, List.isSuffixOf_iff_suffix]
  rintro ⟨before, order⟩
  have ends := declaration.getLast?_line
  rw [← order, List.getLast?_append] at ends
  cases ends

/-- A line of a column defines no table: its first word would have to be the first one of a
definition, and its type would start like the second. -/
theorem definition?_line :
    definition? declaration.line = none := by
  rw [definition?_eq_none_iff]
  rintro ⟨remainder, start, order, -, upper⟩
  have parted : definitionWords = "CREATE".toList ++ ' ' :: "TABLE".toList := by decide
  rw [parted] at upper
  rcases List.map_eq_append_iff.mp upper with ⟨first, others, rfl, upperFirst, upperOthers⟩
  rcases List.map_eq_cons_iff.mp upperOthers with ⟨blank, second, rfl, upperBlank, upperSecond⟩
  obtain rfl : blank = ' ' := Text.eq_of_toUpper_eq_sign (by decide) upperBlank
  have outside {text word : Text} {character : Char}
      (spelt : text.map Char.toUpper = word)
      (absent : character.toUpper ∉ word) :
      character ∉ text :=
    fun inside => absent (spelt ▸ List.mem_map_of_mem inside)
  have absent : ' ' ∉ first := outside upperFirst (by decide)
  rw [line, List.append_assoc, List.cons_append] at order
  -- the blank between the definition words is the one behind the name
  rcases Text.eq_and_eq_of_append_cons_eq declaration.blank_not_mem_name absent order with
    ⟨rfl, follows⟩
  rcases declaration.exists_ending with ⟨mark, rest, ends, isMark⟩
  have foreign : mark ∉ second := by
    rcases isMark with rfl | rfl | rfl
    · exact outside upperSecond (by decide)
    · exact outside upperSecond (by decide)
    · exact outside upperSecond (by decide)
  have begins : second <+: declaration.type := by
    apply Text.prefix_of_prefix_append_cons foreign
    rw [← ends, follows]
    exact List.prefix_append second remainder
  apply declaration.definesNothing
  refine ⟨upperFirst, ?_⟩
  rw [← upperSecond]
  exact begins.map Char.toUpper

/-! ## The column of a line -/

/-- What stands behind the type without white space in between. -/
def glued : Text :=
  declaration.ending.takeWhile (!Text.isBlank ·)

theorem words_line :
    ∃ others,
      Text.words declaration.line =
        declaration.name :: (declaration.type ++ declaration.glued) :: others := by
  have parted :
      declaration.type ++ declaration.ending =
        declaration.type ++ declaration.glued ++ declaration.ending.dropWhile (!Text.isBlank ·) := by
    rw [glued, List.append_assoc, List.takeWhile_append_dropWhile]
  refine ⟨Text.words (declaration.ending.dropWhile (!Text.isBlank ·)), ?_⟩
  rw [line, Text.words_of_word declaration.nameTelling declaration.namePlain,
    Text.words_of_blank, parted, Text.words_of_word]
  · simp [declaration.typeTelling]
  · intro character inside
    rcases List.mem_append.mp inside with inType | inGlued
    · exact (declaration.typePlain character inType).1
    · simpa using List.mem_takeWhile_imp inGlued
  · intro first starts
    have stops := List.head?_dropWhile_not (!Text.isBlank ·) declaration.ending
    rw [Option.mem_def.mp starts] at stops
    simpa using stops
  · rfl
  · intro first starts
    cases starts
    rfl

theorem typeOfWord_glued :
    typeOfWord (declaration.type ++ declaration.glued) = declaration.type := by
  have inside : ∀ character ∈ declaration.type, (character != '(') = true := by
    intro character isMember
    simpa using (declaration.typePlain character isMember).2
  have dropped :
      ∀ character ∈ declaration.glued.takeWhile (· != '('), followsType character = true := by
    rw [glued, ending]
    cases declaration.argument with
    | some text => exact List.forall_mem_nil _
    | none =>
      cases declaration.nullable with
      | true => exact List.forall_mem_singleton.mpr rfl
      | false => exact List.forall_mem_nil _
  rw [typeOfWord, List.takeWhile_append_of_pos inside,
    Text.trimEndWhere_append_of_dropped _ dropped, Text.trimEndWhere_eq_self declaration.typeEnds]

theorem upperCase_line :
    Text.upperCase declaration.line =
      Text.upperCase declaration.name ++
        ' ' :: (Text.upperCase declaration.type ++ Text.upperCase declaration.ending) := by
  rw [line, Text.upperCase_append, ← List.singleton_append, Text.upperCase_append,
    Text.upperCase_append]
  rfl

/-- Nothing behind the type of a column that may be null reads as the constraint. -/
theorem upperCase_ending_of_nullable
    (nullable : declaration.nullable = true) :
    ∃ mark rest,
      Text.upperCase declaration.ending = mark :: rest ∧
        (mark = '(' ∨ mark = ',') ∧
        ¬ "NOT NULL".toList <:+: rest := by
  rw [ending, nullable]
  cases given : declaration.argument with
  | none => exact ⟨',', [], rfl, Or.inr rfl, by decide⟩
  | some text =>
    refine ⟨'(', Text.upperCase text ++ ')' :: [','], ?_, Or.inl rfl, ?_⟩
    · have order :
          argumentText (some text) ++ constraintText true ++ [','] =
            ['('] ++ (text ++ [')', ',']) := by
        simp [argumentText, constraintText]
      rw [order, Text.upperCase_append, Text.upperCase_append]
      rfl
    · intro found
      rcases Text.infix_or_infix_of_infix_append_cons (by decide) found with within | behind
      · exact (declaration.argumentSingle text given).2 within
      · exact absurd behind (by decide)

/-- No two words of the line of a column that may be null make up the constraint. -/
theorem constraint_not_infix_of_nullable
    (nullable : declaration.nullable = true) :
    ¬ "NOT NULL".toList <:+: Text.upperCase declaration.line := by
  have parted : "NOT NULL".toList = "NOT".toList ++ ' ' :: "NULL".toList := by decide
  have blankFree {text : Text} (absent : ' ' ∉ text) : ' ' ∉ Text.upperCase text :=
    mt (Text.sign_mem_of_mem_upperCase (by decide)) absent
  rcases declaration.upperCase_ending_of_nullable nullable with ⟨mark, rest, ends, isMark, silent⟩
  have foreign : mark ∉ "NOT NULL".toList := by
    rcases isMark with rfl | rfl
    · decide
    · decide
  intro found
  rw [upperCase_line, ends, parted] at found
  -- the blank of the constraint is the one behind the name, or the whole of it stands later
  rcases Text.around_or_infix_of_infix_append_cons (by decide)
      (blankFree declaration.blank_not_mem_name) found with
    ⟨closes, begins⟩ | behind
  · apply declaration.constrainsNothing
    refine ⟨closes, Text.prefix_of_prefix_append_cons ?_ begins⟩
    rw [parted] at foreign
    exact fun inside => foreign (List.mem_append_right _ (List.mem_cons_of_mem _ inside))
  · rw [← parted] at behind
    rcases Text.infix_or_infix_of_infix_append_cons foreign behind with within | later
    · exact blankFree declaration.blank_not_mem_type (within.subset (by decide))
    · exact silent later

theorem constraint_infix_of_not_nullable
    (required : declaration.nullable = false) :
    "NOT NULL".toList <:+: Text.upperCase declaration.line := by
  have constraint : "NOT NULL".toList <:+: Text.upperCase (constraintText false) :=
    ⟨[' '], [], by decide⟩
  have within : constraintText false <:+: declaration.line := by
    rw [line, ending, required]
    exact
      ⟨declaration.name ++ ' ' :: (declaration.type ++ argumentText declaration.argument), [','],
        by simp⟩
  rcases within with ⟨before, after, order⟩
  rw [← order, Text.upperCase_append, Text.upperCase_append]
  exact (constraint.trans (List.suffix_append _ _).isInfix).trans (List.prefix_append _ _).isInfix

theorem contains_constraint :
    Text.contains "NOT NULL".toList (Text.upperCase declaration.line) = !declaration.nullable := by
  cases nullable : declaration.nullable with
  | true =>
    rw [Bool.not_true, ← Bool.not_eq_true, Text.contains_iff]
    exact declaration.constraint_not_infix_of_nullable nullable
  | false =>
    rw [Bool.not_false, Text.contains_iff]
    exact declaration.constraint_infix_of_not_nullable nullable

theorem column?_line :
    column? declaration.line = some declaration.column := by
  rcases declaration.words_line with ⟨others, words⟩
  rw [column?, words]
  dsimp only
  rw [Text.trimWhere_eq_self_iff.mpr declaration.nameUnquoted, declaration.typeOfWord_glued,
    declaration.contains_constraint, Bool.not_not, column]

end Declaration

/-! ## The block of a definition -/

theorem blockOf_bodyLines
    (declarations : List Declaration) :
    blockOf (bodyLines declarations) = declarations.map Declaration.line := by
  induction declarations with
  | nil => decide
  | cons declaration others hypothesis =>
    have inside : ¬ ((definition? declaration.line).isSome ||
        startsWithClosing declaration.line) = true := by
      rw [declaration.definition?_line, declaration.startsWithClosing_line]
      exact Bool.false_ne_true
    have goesOn : ¬ endsWithClosing declaration.line = true := by
      rw [declaration.endsWithClosing_line]
      exact Bool.false_ne_true
    rw [bodyLines, List.map_cons, List.cons_append, blockOf, if_neg inside, if_neg goesOn,
      ← bodyLines, hypothesis]

theorem columnsOf_lines
    (declarations : List Declaration) :
    columnsOf (declarations.map Declaration.line) = declarations.map Declaration.column := by
  have reads : column? ∘ Declaration.line = some ∘ Declaration.column :=
    funext Declaration.column?_line
  rw [columnsOf, List.filterMap_map, reads, List.filterMap_eq_map]

/-! ## The lines of a definition -/

theorem mem_bodyLines_iff
    {line : Text}
    {declarations : List Declaration} :
    line ∈ bodyLines declarations ↔
      (∃ declaration ∈ declarations, declaration.line = line) ∨ line = closingLine := by
  rw [bodyLines, List.mem_append, List.mem_map, List.mem_singleton]

/-- Lines that are written are the significant ones if no line is empty, a comment or surrounded by
white space. -/
theorem significantLines_written
    {texts : List Text}
    (telling : ∀ line ∈ texts,
      '\n' ∉ line ∧ Text.trim line = line ∧ isSignificant line = true) :
    significantLines (Text.written texts) = texts := by
  have trimmed : (texts.map Text.withoutReturn).map Text.trim = texts.map id := by
    rw [List.map_map]
    apply List.map_congr_left
    intro line isMember
    rw [Function.comp_apply, Text.trim_withoutReturn, (telling line isMember).2.1, id]
  rw [significantLines, Text.lines_written fun line isMember => (telling line isMember).1, trimmed,
    List.map_id, List.filter_eq_self]
  exact fun line isMember => (telling line isMember).2.2

theorem openingLine_telling
    {table : Text}
    (single : '\n' ∉ table) :
    '\n' ∉ openingLine table ∧
      Text.trim (openingLine table) = openingLine table ∧
      isSignificant (openingLine table) = true := by
  have starts : (openingLine table).head? = some 'C' := by
    rw [openingLine, List.head?_append_of_ne_nil _ (by decide)]
    rfl
  have ends : (openingLine table).getLast? = some '(' := by
    have order : openingLine table = (definitionWords ++ ' ' :: (table ++ [' '])) ++ ['('] := by
      simp [openingLine]
    rw [order, List.getLast?_concat]
  refine ⟨?_, ?_, ?_⟩
  · have words : '\n' ∉ definitionWords := by decide
    simp [openingLine, words, single]
  · apply Text.trimWhere_eq_self_iff.mpr
    constructor
    · intro first isFirst
      rw [starts] at isFirst
      cases isFirst
      rfl
    · intro last isLast
      rw [ends] at isLast
      cases isLast
      rfl
  · rcases List.head?_eq_some_iff.mp starts with ⟨rest, order⟩
    rw [order]
    rfl

theorem significantLines_definitionText
    {table : Text}
    (single : '\n' ∉ table)
    (declarations : List Declaration) :
    significantLines (definitionText table declarations) =
      openingLine table :: bodyLines declarations := by
  apply significantLines_written
  intro line isMember
  rcases List.mem_cons.mp isMember with rfl | inBody
  · exact openingLine_telling single
  · rcases mem_bodyLines_iff.mp inBody with ⟨declaration, -, rfl⟩ | rfl
    · exact ⟨declaration.single_line, declaration.trim_line, declaration.isSignificant_line⟩
    · decide

/-! ## The table of a definition -/

theorem openings_of_undefined
    (requested : List Text)
    {lines : List Text}
    (undefined : ∀ line ∈ lines, definition? line = none) :
    openings requested lines = [] := by
  rw [← @List.map_eq_nil_iff _ _ Prod.fst, openings_map_fst, List.filterMap_eq_nil_iff]
  intro line isMember
  rw [selection?, undefined line isMember, Option.bind_none]

theorem selection?_openingLine
    {table : Text}
    (telling : table ≠ []) :
    selection? [table] (openingLine table) = some table := by
  rw [selection?_eq_some_iff]
  exact
    ⟨_, ⟨definitionWords, rfl, by decide, by decide⟩, telling, ⟨[' '], [' ', '('], rfl⟩,
      [], [], rfl, List.forall_mem_nil _⟩

theorem openings_definition
    {table : Text}
    (telling : table ≠ [])
    (declarations : List Declaration) :
    openings [table] (openingLine table :: bodyLines declarations) =
      [(table, bodyLines declarations)] := by
  have undefined : ∀ line ∈ bodyLines declarations, definition? line = none := by
    intro line isMember
    rcases mem_bodyLines_iff.mp isMember with ⟨declaration, -, rfl⟩ | rfl
    · exact declaration.definition?_line
    · decide
  rw [openings, selection?_openingLine telling, openings_of_undefined [table] undefined]

/-- A table is read back from its definition, with its columns in their order. -/
theorem written_table_reads_back
    (table : Text)
    (telling : table ≠ [])
    (single : '\n' ∉ table)
    (declarations : List Declaration) :
    tablesOf (definitionText table declarations) [table] =
      .ok [⟨table, declarations.map Declaration.column⟩] := by
  have tables :
      (scan [table] (definitionText table declarations)).tables =
        [⟨table, declarations.map Declaration.column⟩] := by
    rw [scan_tables, significantLines_definitionText single, openings_definition telling,
      List.foldl_cons, List.foldl_nil, replay, blockOf_bodyLines, columnsOf_lines]
    simp [settled, started, extendedBy]
  rw [tablesOf, tables]

/-- A column that may not be null and whose type has an argument. -/
def sizeDeclaration : Declaration where
  name := "größe".toList
  type := "numeric".toList
  argument := some "12, 2".toList
  nullable := false
  nameTelling := by decide
  namePlain := by decide
  nameUnquoted := by decide
  nameInside := by decide
  typeTelling := by decide
  typePlain := by decide
  typeEnds := by decide
  argumentSingle := by decide +kernel
  definesNothing := by decide
  constrainsNothing := by decide +kernel

/-- A column whose name ends in one word of a constraint. -/
def knotDeclaration : Declaration where
  name := "knot".toList
  type := "text".toList
  argument := none
  nullable := true
  nameTelling := by decide
  namePlain := by decide
  nameUnquoted := by decide
  nameInside := by decide
  typeTelling := by decide
  typePlain := by decide
  typeEnds := by decide
  argumentSingle := by decide
  definesNothing := by decide
  constrainsNothing := by decide +kernel

theorem order_items_read_back :
    tablesOf
        ("CREATE TABLE order items (\ngröße numeric(12, 2) NOT NULL,\nknot text,\n);\n").toList
        ["order items".toList] =
      .ok
        [⟨"order items".toList,
          [⟨"größe".toList, "numeric".toList, false⟩, ⟨"knot".toList, "text".toList, true⟩]⟩] :=
  written_table_reads_back "order items".toList (by decide) (by decide)
    [sizeDeclaration, knotDeclaration]

end Scaffold.Migration
