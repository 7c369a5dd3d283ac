import Scaffold.Number

/-!
# Data

The values that templates are filled with. A record keeps its entries in the order they were given,
which is the order in which it is written; readers that need another order sort the entries.
-/

namespace Scaffold

/-- A value for templates. -/
inductive Data where
  | null
  | boolean (value : Bool)
  | number (value : Number)
  | text (value : Text)
  | list (items : List Data)
  | record (entries : List (Text × Data))

namespace Data

/-- An integer. -/
def integer (value : Int) : Data :=
  .number (.integer value)

/-- The entry of a record under a key. -/
def entry? (key : Text) : List (Text × Data) → Option Data
  | [] => none
  | (name, value) :: others => if name = key then some value else entry? key others

/-- The entries of a record with the value under a key replaced or added. -/
def withEntry (key : Text) (value : Data) : List (Text × Data) → List (Text × Data)
  | [] => [(key, value)]
  | (name, old) :: others =>
    if name = key then (key, value) :: others else (name, old) :: withEntry key value others

end Data

end Scaffold
