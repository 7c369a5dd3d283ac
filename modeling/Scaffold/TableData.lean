import Scaffold.Clause
import Scaffold.Data
import Scaffold.NamingConvention
import Scaffold.Table
import Scaffold.TargetLanguage

/-!
# Table data

The data that every template of a table is filled with: the names of the entity and the table, one
field per column, and the clauses over these fields. `entries` gives the data under the keys that
templates use.
-/

namespace Scaffold

/-- The data of one table and its entity. -/
structure TableData where
  entityName : Text
  lowerEntityName : Text
  tableName : Text
  fields : List Field
  selectList : Text
  scanTargets : Text
  insertColumns : Text
  insertPlaceholders : Text
  updateAssignments : Text
  createBindArguments : Text
  updateBindArguments : Text
  /-- The number of fields, which is also the last placeholder in use. -/
  lastParameter : Nat
  deriving DecidableEq

/-- The field of a column. -/
def Field.ofColumn
    (naming : NamingConvention)
    (language : TargetLanguage)
    (column : Column) :
    Field where
  name := naming.fieldName column.name
  type := language.columnType column.rawType column.nullable
  column := column.name
  rawType := column.rawType
  nullable := column.nullable

/-- A field under the keys that templates use. -/
def Field.toData (field : Field) : Data :=
  .record
    [("name".toList, .text field.name),
     ("type".toList, .text field.type),
     ("column".toList, .text field.column),
     ("raw_type".toList, .text field.rawType),
     ("nullable".toList, .boolean field.nullable)]

namespace TableData

/-- The data of a table for an entity. -/
def of
    (table : Table)
    (entity : Text)
    (naming : NamingConvention)
    (language : TargetLanguage) :
    TableData :=
  let fields := table.columns.map (Field.ofColumn naming language)
  { entityName := entity
    lowerEntityName := naming.fileStem entity
    tableName := table.name
    fields := fields
    selectList := Clause.selectList fields
    scanTargets := Clause.scanTargets fields
    insertColumns := Clause.insertColumns fields
    insertPlaceholders := Clause.insertPlaceholders fields
    updateAssignments := Clause.updateAssignments fields
    createBindArguments := Clause.bindArguments fields
    updateBindArguments := Clause.bindArguments fields
    lastParameter := fields.length }

/-- The data under the keys that templates use, in the order in which it is shown. -/
def entries (data : TableData) : List (Text × Data) :=
  [("entity_name".toList, .text data.entityName),
   ("lower_entity_name".toList, .text data.lowerEntityName),
   ("table_name".toList, .text data.tableName),
   ("fields".toList, .list (data.fields.map Field.toData)),
   ("select_list".toList, .text data.selectList),
   ("scan_targets".toList, .text data.scanTargets),
   ("insert_columns".toList, .text data.insertColumns),
   ("insert_placeholders".toList, .text data.insertPlaceholders),
   ("update_assignments".toList, .text data.updateAssignments),
   ("create_bind_args".toList, .text data.createBindArguments),
   ("update_bind_args".toList, .text data.updateBindArguments),
   ("last_param_index".toList, .integer data.lastParameter)]

/-- The data as one record. -/
def toData (data : TableData) : Data :=
  .record data.entries

@[simp]
theorem fields_of
    (table : Table)
    (entity : Text)
    (naming : NamingConvention)
    (language : TargetLanguage) :
    (of table entity naming language).fields =
      table.columns.map (Field.ofColumn naming language) :=
  rfl

@[simp]
theorem lastParameter_of
    (table : Table)
    (entity : Text)
    (naming : NamingConvention)
    (language : TargetLanguage) :
    (of table entity naming language).lastParameter = table.columns.length := by
  simp [of]

end TableData

end Scaffold
