import Scaffold.Diagnostic
import Scaffold.Table
import Scaffold.Text.Blank
import Scaffold.Text.Case
import Scaffold.Text.Lines

/-!
# Migrations

A migration is read line by line. Blank lines and comment lines count for nothing; the others are
its significant lines. A definition line starts with the words that define a table, and opens the
table that the first requested name contained in it selects, or none. While a table is open, every
line with at least two words declares a column, a line that starts with a closing parenthesis closes
the table, and so does a line that ends in a closing parenthesis and a semicolon, after its column
was read. A table that is defined again starts anew and keeps its place among the tables.

`tablesOf` fails only when no requested table was defined.
-/

namespace Scaffold

/-- Why no table was read from a migration. -/
inductive MigrationError where
  /-- No definition line selects one of the requested names. -/
  | tablesNotFound (requested : List Text)
  deriving DecidableEq

/-- How the failure to find a table is told. -/
def MigrationError.diagnostic : MigrationError → Diagnostic
  | .tablesNotFound requested =>
    { message :=
        "none of the requested tables were found in the schema: ".toList ++
          Text.joined ", ".toList requested
      code := some "crudgen::schema::not_found".toList
      help :=
        some
          "check the table name against the CREATE TABLE statements in the migration file".toList }

namespace Migration

/-- The words that start a definition line. -/
def definitionWords : Text :=
  "CREATE TABLE".toList

/-- Whether a trimmed line says something. -/
def isSignificant (line : Text) : Bool :=
  !line.isEmpty && !"--".toList.isPrefixOf line

/-- The trimmed lines of a migration that say something. -/
def significantLines (migration : Text) : List Text :=
  ((Text.lines migration).map Text.trim).filter isSignificant

/-- The text of a definition line after the words that make it one. -/
def definition? (line : Text) : Option Text :=
  if Text.foldedEqual (line.take definitionWords.length) definitionWords then
    some (line.drop definitionWords.length)
  else
    none

/-- The first requested name that stands in the text of a definition line. -/
def selected? (requested : List Text) (text : Text) : Option Text :=
  requested.find? fun name => !name.isEmpty && Text.contains name text

/-- The quotes and commas that may surround a column name. -/
def surroundsName (character : Char) : Bool :=
  character == '"' || character == '\x60' || character == '\'' || character == ','

/-- The punctuation that may follow a type. -/
def followsType (character : Char) : Bool :=
  character == ',' || character == ';' || character == ')' || character == '"'

/-- A type without its arguments and the punctuation after it. -/
def typeOfWord (word : Text) : Text :=
  Text.trimEndWhere followsType (word.takeWhile (· != '('))

/-- The column that a line declares, if it has two words. -/
def column? (line : Text) : Option Column :=
  match Text.words line with
  | name :: type :: _ =>
    some
      { name := Text.trimWhere surroundsName name
        rawType := typeOfWord type
        nullable := !Text.contains "NOT NULL".toList (Text.upperCase line) }
  | _ => none

/-- Whether a line closes the open table before it could declare a column. -/
def startsWithClosing (line : Text) : Bool :=
  [')'].isPrefixOf line

/-- Whether a line closes the open table after its column. -/
def endsWithClosing (line : Text) : Bool :=
  [')', ';'].isSuffixOf line

/-- The tables with the one of this name empty, in its place or at the end. -/
def started (name : Text) : List Table → List Table
  | [] => [⟨name, []⟩]
  | table :: others =>
    if table.name = name then
      ⟨name, []⟩ :: others
    else
      table :: started name others

/-- The tables with one more column in the table of this name. -/
def extended (name : Text) (column : Column) (tables : List Table) : List Table :=
  tables.map fun table =>
    if table.name = name then
      { table with columns := table.columns ++ [column] }
    else
      table

/-- The tables read so far and the name of the open one. -/
structure Progress where
  tables : List Table
  current : Option Text
  deriving DecidableEq

/-- Nothing is read and no table is open. -/
def Progress.start : Progress :=
  ⟨[], none⟩

/-- What a line inside the open table changes. -/
def afterBodyLine (name : Text) (tables : List Table) (line : Text) : Progress :=
  if startsWithClosing line then
    ⟨tables, none⟩
  else
    let tables :=
      match column? line with
      | some column => extended name column tables
      | none => tables
    ⟨tables, if endsWithClosing line then none else some name⟩

/-- What one significant line changes. -/
def afterLine (requested : List Text) (progress : Progress) (line : Text) : Progress :=
  match definition? line with
  | some text =>
    match selected? requested text with
    | some name => ⟨started name progress.tables, some name⟩
    | none => ⟨progress.tables, none⟩
  | none =>
    match progress.current with
    | some name => afterBodyLine name progress.tables line
    | none => progress

/-- What has been read after all lines of a migration. -/
def scan (requested : List Text) (migration : Text) : Progress :=
  (significantLines migration).foldl (afterLine requested) Progress.start

/-- The requested tables of a migration, in the order of their first definition. -/
def tablesOf
    (migration : Text)
    (requested : List Text) :
    Except MigrationError (List Table) :=
  match (scan requested migration).tables with
  | [] => .error (.tablesNotFound requested)
  | tables => .ok tables

end Migration

end Scaffold
