import Scaffold.Generator
import Scaffold.Proofs.MigrationBlocks
import Scaffold.Proofs.TextSplitting

/-!
# Clauses stay aligned

The clauses of a table list one element per field. Splitting a clause at its separator gives these
elements back, because no element lets the separator begin in it: a column name that was read from a
migration holds no blank and does not end in a comma, a field name holds no blank that its column
does not hold, and a placeholder consists of a dollar sign and digits. So the pieces at one position
of all clauses belong to one column.
-/

namespace Scaffold

/-! ## Elements are not broken by the separator -/

namespace Clause

/-- A text that the separator of clauses does not break. -/
abbrev Whole (text : Text) : Prop :=
  Text.Unbroken separator text

theorem whole_of_no_blank
    {text : Text}
    (noBlank : ' ' ∉ text) :
    Whole text :=
  Text.unbroken_pair_of_not_mem (by decide) noBlank

theorem blank_not_mem_placeholder
    (position : Nat) :
    ' ' ∉ placeholder position := by
  intro member
  rcases List.mem_cons.mp member with dollar | digit
  · cases dollar
  · have isDigit := Nat.isDigit_of_mem_toDigits (by decide) (by decide) digit
    cases isDigit

theorem blank_not_mem_member
    {field : Field}
    (noBlank : ' ' ∉ field.name) :
    ' ' ∉ member field := by
  intro inside
  rcases List.mem_append.mp inside with inReceiver | inName
  · exact absurd inReceiver (by decide)
  · rcases List.mem_cons.mp inName with dot | inName
    · cases dot
    · exact noBlank inName

/-- An assignment has blanks, but none behind a comma, as a column name does not end in one. -/
theorem whole_assignment
    {column : Text}
    (noBlank : ' ' ∉ column)
    (noComma : column.getLast? ≠ some ',')
    (position : Nat) :
    Whole (column ++ " = ".toList ++ placeholder position) := by
  have noPair {text : Text} (absent : ' ' ∉ text) : ¬ [',', ' '] <:+: text :=
    fun found => absent (found.mem (by simp))
  have ending : ' ' ∉ placeholder position ++ [','] := by
    simpa using blank_not_mem_placeholder position
  intro found
  have seam :
      column ++ " = ".toList ++ placeholder position ++ separator.dropLast =
        column ++ ([' ', '=', ' '] ++ (placeholder position ++ [','])) := by
    simp [separator]
  rw [seam, separator, show ", ".toList = [',', ' '] from rfl, Text.pair_infix_append_iff,
    Text.pair_infix_append_iff] at found
  rcases found with inColumn | (inSign | inEnd | ⟨blank, _⟩) | ⟨comma, _⟩
  · exact noPair noBlank inColumn
  · exact absurd inSign (by decide)
  · exact noPair ending inEnd
  · exact absurd blank (by decide)
  · exact noComma comma

/-- Splitting a clause at its separator gives the elements back. -/
theorem piecesBetween_listing
    {element : Nat → Field → Text}
    {fields : List Field}
    (nonempty : fields ≠ [])
    (whole : ∀ position, ∀ field ∈ fields, Whole (element position field)) :
    Text.piecesBetween ", ".toList (listing element fields) = fields.mapIdx element := by
  rw [listing]
  apply Text.piecesBetween_joined (by decide) (by simpa using nonempty)
  intro text member
  rcases List.mem_mapIdx.mp member with ⟨position, inside, rfl⟩
  exact whole position _ (List.getElem_mem inside)

end Clause

/-! ## Aligned data -/

namespace TableData

/--
The data of columns is aligned: every clause splits into one piece per column, and the pieces at a
position are made of the column at this position, its field and the number of the position counted
from one.
-/
structure Aligned
    (naming : NamingConvention)
    (language : TargetLanguage)
    (columns : List Column)
    (data : TableData) : Prop where
  lastParameter : data.lastParameter = columns.length
  fields : data.fields.length = columns.length
  clauses :
    ∀ clause ∈
      [data.selectList, data.insertColumns, data.scanTargets, data.insertPlaceholders,
        data.updateAssignments, data.createBindArguments, data.updateBindArguments],
      (Text.piecesBetween ", ".toList clause).length = data.lastParameter
  positions :
    ∀ position column,
      columns[position]? = some column →
        let field := Field.ofColumn naming language column
        let parameter := '$' :: (toString (position + 1)).toList
        let piece (clause : Text) : Option Text := (Text.piecesBetween ", ".toList clause)[position]?
        data.fields[position]? = some field ∧
          piece data.selectList = some column.name ∧
          piece data.insertColumns = some column.name ∧
          piece data.scanTargets = some ("&data.".toList ++ field.name) ∧
          piece data.insertPlaceholders = some parameter ∧
          piece data.updateAssignments = some (column.name ++ " = ".toList ++ parameter) ∧
          piece data.createBindArguments = some ("data.".toList ++ field.name) ∧
          piece data.updateBindArguments = some ("data.".toList ++ field.name)

/-- Data is aligned when no column or field name holds a blank and no column name ends in a comma.
-/
theorem aligned_of
    {table : Table}
    (nonempty : table.columns ≠ [])
    {naming : NamingConvention}
    (columnBlank : ∀ column ∈ table.columns, ' ' ∉ column.name)
    (columnComma : ∀ column ∈ table.columns, column.name.getLast? ≠ some ',')
    (fieldBlank : ∀ column ∈ table.columns, ' ' ∉ naming.fieldName column.name)
    (entity : Text)
    (language : TargetLanguage) :
    Aligned naming language table.columns (of table entity naming language) := by
  have split (element : Nat → Field → Text)
      (whole : ∀ position, ∀ column ∈ table.columns,
        Clause.Whole (element position (Field.ofColumn naming language column))) :
      Text.piecesBetween ", ".toList
          (Clause.listing element (table.columns.map (Field.ofColumn naming language))) =
        (table.columns.map (Field.ofColumn naming language)).mapIdx element := by
    apply Clause.piecesBetween_listing (by simpa using nonempty)
    intro position field member
    rcases List.mem_map.mp member with ⟨column, inside, rfl⟩
    exact whole position column inside
  have memberBlank (column : Column) (inside : column ∈ table.columns) :
      ' ' ∉ Clause.member (Field.ofColumn naming language column) :=
    Clause.blank_not_mem_member (fieldBlank column inside)
  have columns := split (fun _ field => field.column) fun _ column inside =>
    Clause.whole_of_no_blank (columnBlank column inside)
  have scans := split (fun _ field => '&' :: Clause.member field) fun _ column inside =>
    Clause.whole_of_no_blank (by simpa using memberBlank column inside)
  have placeholders := split (fun position _ => Clause.placeholder position) fun position _ _ =>
    Clause.whole_of_no_blank (Clause.blank_not_mem_placeholder position)
  have assignments :=
    split (fun position field => field.column ++ " = ".toList ++ Clause.placeholder position)
      fun position column inside =>
        Clause.whole_assignment (columnBlank column inside) (columnComma column inside) position
  have members := split (fun _ field => Clause.member field) fun _ column inside =>
    Clause.whole_of_no_blank (memberBlank column inside)
  exact
    { lastParameter := lastParameter_of table entity naming language
      fields := by simp
      clauses := by
        intro clause member
        simp only [of, List.mem_cons, List.not_mem_nil, or_false] at member
        rcases member with rfl | rfl | rfl | rfl | rfl | rfl | rfl <;>
          simp only [Clause.selectList, Clause.insertColumns, Clause.scanTargets,
            Clause.insertPlaceholders, Clause.updateAssignments, Clause.bindArguments, columns,
            scans, placeholders, assignments, members, List.length_mapIdx, List.length_map, of]
      positions := by
        intro position column found
        simp only [of, Clause.selectList, Clause.insertColumns, Clause.scanTargets,
          Clause.insertPlaceholders, Clause.updateAssignments, Clause.bindArguments, columns,
          scans, placeholders, assignments, members, List.getElem?_mapIdx, List.getElem?_map,
          found, Option.map_some]
        have digits : (toString (position + 1)).toList = Number.digitsOf (position + 1) :=
          Nat.toList_repr
        rw [digits]
        exact ⟨trivial, rfl, rfl, rfl, rfl, rfl, rfl, rfl⟩ }

end TableData

/-! ## Tables of a migration -/

namespace Generator

theorem mem_scan_of_tableOf
    {migration name : Text}
    {table : Table}
    (found : tableOf migration name = .ok table) :
    table ∈ (Migration.scan [name] migration).tables := by
  rw [tableOf] at found
  split at found
  next => cases found
  next tables read =>
    rw [((Migration.tablesOf_eq_ok_iff migration [name] tables).mp read).2]
    split at found
    next first inside =>
      rcases Except.ok.inj found with rfl
      exact List.mem_of_find?_eq_some inside
    next => cases found

theorem mem_scan_of_loadTable
    {generator : Generator}
    {disk : Disk}
    {name : Text}
    {table : Table}
    (loaded : generator.loadTable disk name = .ok table) :
    ∃ migration,
      disk.read? generator.settings.migration = some migration ∧
        table ∈ (Migration.scan [name] migration).tables := by
  rw [loadTable] at loaded
  split at loaded
  next => cases loaded
  next migration text => exact ⟨migration, text, mem_scan_of_tableOf loaded⟩

/--
For a table with a column that is found in the migration, the data for any entity is aligned, when
fields are named as in Go.
-/
theorem aligned_data_of_loadTable
    (generator : Generator)
    (goNames : generator.naming = .go)
    (disk : Disk)
    (target : Target)
    (table : Table)
    (loaded : generator.loadTable disk target.table = .ok table)
    (nonempty : table.columns ≠ []) :
    ∃ data,
      generator.data disk target = .ok data ∧
        TableData.Aligned .go generator.language table.columns data := by
  rcases mem_scan_of_loadTable loaded with ⟨migration, -, read⟩
  have columnName (column : Column) (member : column ∈ table.columns) :
      ' ' ∉ column.name ∧ column.name.getLast? ≠ some ',' := by
    rcases Migration.line_of_mem_columns read member with ⟨line, declares⟩
    have wellFormed := Migration.isWellFormed_of_column? declares
    exact ⟨fun blank => absurd (wellFormed.nameSolid ' ' blank) (by decide),
      fun comma => wellFormed.nameEnds ',' comma (by decide)⟩
  refine ⟨_, by rw [Generator.data, loaded]; rfl, ?_⟩
  rw [goNames]
  apply TableData.aligned_of nonempty
  · exact fun column member => (columnName column member).1
  · exact fun column member => (columnName column member).2
  · intro column member blank
    exact (columnName column member).1
      (Identifier.sign_mem_of_mem_fieldName (by decide) blank)

/-- A migration with a comma inside a column name, an empty column name and one with letters beyond
ASCII. -/
def measuresDisk : Disk where
  nodes :=
    [(["schema.sql".toList],
      .file (.text "CREATE TABLE measures (\n\"x,y\" bigint,\n, int,\ngröße_id text\n);\n".toList))]
  working := []

/-- The table of that migration. -/
def measuresTable : Table where
  name := "measures".toList
  columns :=
    [⟨"x,y".toList, "bigint".toList, true⟩,
      ⟨[], "int".toList, true⟩,
      ⟨"größe_id".toList, "text".toList, true⟩]

/-- A generator for Go without templates. -/
def withoutTemplates : Generator :=
  of (.of (.of ".") (.of "schema.sql") (.of "templates")) (.empty false)

theorem aligned_data_of_measures :
    withoutTemplates.loadTable measuresDisk "measures".toList = .ok measuresTable ∧
      measuresTable.columns ≠ [] ∧
      ∃ data,
        withoutTemplates.data measuresDisk ⟨"measures".toList, "Measure".toList⟩ = .ok data ∧
          TableData.Aligned .go .go measuresTable.columns data := by
  have loaded :
      withoutTemplates.loadTable measuresDisk "measures".toList = .ok measuresTable := by
    decide +kernel
  have nonempty : measuresTable.columns ≠ [] := by
    decide
  exact
    ⟨loaded, nonempty,
      aligned_data_of_loadTable withoutTemplates rfl measuresDisk
        ⟨"measures".toList, "Measure".toList⟩ measuresTable loaded nonempty⟩

end Generator

end Scaffold
