import Scaffold.Number

/-!
# Clauses

The fragments of SQL statements and of the code around them that list one element per field, in
field order, so that the `k`-th placeholder always belongs to the `k`-th field.
-/

namespace Scaffold

/-- A field of generated code, made from a column. -/
structure Field where
  name : Text
  type : Text
  column : Text
  rawType : Text
  nullable : Bool
  deriving DecidableEq

namespace Clause

/-- What stands between the elements of a clause. -/
def separator : Text :=
  ", ".toList

/-- The variable that generated code keeps a row in. -/
def receiver : Text :=
  "data".toList

/-- The elements of all fields, where each knows its position counted from zero. -/
def listing (element : Nat → Field → Text) (fields : List Field) : Text :=
  Text.joined separator (fields.mapIdx element)

/-- The positional placeholder of the field at a position. -/
def placeholder (position : Nat) : Text :=
  '$' :: Number.digitsOf (position + 1)

/-- The field of the row variable. -/
def member (field : Field) : Text :=
  receiver ++ '.' :: field.name

/-- The columns of a SELECT. -/
def selectList (fields : List Field) : Text :=
  listing (fun _ field => field.column) fields

/-- The destinations that a row is scanned into. -/
def scanTargets (fields : List Field) : Text :=
  listing (fun _ field => '&' :: member field) fields

/-- The columns of an INSERT. -/
def insertColumns (fields : List Field) : Text :=
  listing (fun _ field => field.column) fields

/-- The placeholders of an INSERT. -/
def insertPlaceholders (fields : List Field) : Text :=
  listing (fun position _ => placeholder position) fields

/-- The assignments of an UPDATE. -/
def updateAssignments (fields : List Field) : Text :=
  listing
    (fun position field => field.column ++ " = ".toList ++ placeholder position)
    fields

/-- The arguments bound to the placeholders. -/
def bindArguments (fields : List Field) : Text :=
  listing (fun _ field => member field) fields

end Clause

end Scaffold
