import Scaffold.Identifier

/-!
# Tables and targets

A table is a name and its columns in the order of their declaration. A target is a table to generate
code for and the entity that it stands for.
-/

namespace Scaffold

/-- A column of a table. -/
structure Column where
  name : Text
  /-- The database type without its arguments. -/
  rawType : Text
  nullable : Bool
  deriving DecidableEq, Repr

/-- A table with its columns in declaration order. -/
structure Table where
  name : Text
  columns : List Column
  deriving DecidableEq, Repr

/-- The first column of this name. -/
def Table.column? (table : Table) (name : Text) : Option Column :=
  table.columns.find? (·.name == name)

/-- The name of a table and the name of its entity. -/
structure Target where
  table : Text
  entity : Text
  deriving DecidableEq

/-- The target whose entity has the name of the table in Pascal case. -/
def Target.ofTable (table : Text) : Target :=
  ⟨table, Identifier.pascalCase table⟩

end Scaffold
