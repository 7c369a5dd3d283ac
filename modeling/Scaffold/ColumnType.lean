import Scaffold.Text.Case

/-!
# Column types

The type of a database column is classified by what its written form contains, in any letter case.
The kinds are tried in a fixed order: integers, text, booleans, points in time, and other numbers.
What matches none of them is text.
-/

namespace Scaffold

/-- What the values of a column are, independent of any target language. -/
inductive ColumnType where
  | integer
  | bigInteger
  | text
  | boolean
  | instant
  | float
  deriving DecidableEq, Repr

namespace ColumnType

/-- The kind of column that a written database type stands for. -/
def classify (rawType : Text) : ColumnType :=
  let written := Text.lowerCase rawType
  let mentions (word : String) : Bool := Text.contains word.toList written
  if mentions "int" then
    if mentions "big" then bigInteger else integer
  else if mentions "varchar" || mentions "text" || mentions "char" then text
  else if mentions "bool" then boolean
  else if mentions "timestamp" || mentions "date" then instant
  else if mentions "numeric" || mentions "decimal" then float
  else text

/-- Whether a target type of this kind can hold an absent value without being wrapped. -/
def holdsAbsence (columnType : ColumnType) : Bool :=
  columnType == text

end ColumnType

end Scaffold
