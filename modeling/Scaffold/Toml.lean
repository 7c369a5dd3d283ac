import Scaffold.Text.Basic

/-!
# TOML values

The values of a TOML document. Tables remember how they were made, because that decides whether a
later part of the document may add to them: a table written inline is complete, a table with a
header has no second header, and a table that headers or dotted keys only pass through may still be
given more. Numbers and dates are kept as they are written.
-/

namespace Scaffold.Toml

/-- How a table was made. -/
inductive TableOrigin where
  /-- Written in braces. -/
  | inline
  /-- By a header of its own. -/
  | headed
  /-- By a header of a table in it. -/
  | implied
  /-- By a dotted key. -/
  | dotted
  deriving DecidableEq

/-- A value of a document. -/
inductive Value where
  | text (content : Text)
  | boolean (value : Bool)
  /-- A number or a date as it is written. -/
  | other (written : Text)
  /-- A list in brackets. -/
  | list (items : List Value)
  /-- Tables under one header in double brackets. -/
  | tables (items : List Value)
  | table (origin : TableOrigin) (entries : List (Text × Value))

/-- The entries of a table, in the order in which their keys first appear. -/
abbrev Entries :=
  List (Text × Value)

/-- The value under a key. -/
def entry? (key : Text) (entries : Entries) : Option Value :=
  entries.lookup key

/-- The entries with the value under an existing key replaced. -/
def replaced (key : Text) (value : Value) (entries : Entries) : Entries :=
  entries.map fun (name, old) => if name = key then (name, value) else (name, old)

/-- The entries with a value under a new key. -/
def added? (key : Text) (value : Value) (entries : Entries) : Option Entries :=
  match entry? key entries with
  | some _ => none
  | none => some (entries ++ [(key, value)])

/-- The entries with those below a path of keys changed. Tables that are missing on the way are
made, by dotted keys or by headers. Only headers reach into tables that have a header, and into the
last of several tables. -/
def within? (byDots : Bool) (change : Entries → Option Entries) :
    List Text → Entries → Option Entries
  | [], entries => change entries
  | key :: keys, entries =>
    match entry? key entries with
    | none => do
      let inner ← within? byDots change keys []
      some (entries ++ [(key, .table (if byDots then .dotted else .implied) inner)])
    | some (.table origin inner) =>
      if origin = .inline || (byDots && origin = .headed) then
        none
      else do
        let inner ← within? byDots change keys inner
        some (replaced key (.table origin inner) entries)
    | some (.tables items) =>
      match byDots, items.reverse with
      | false, .table origin inner :: before => do
        let inner ← within? byDots change keys inner
        some (replaced key (.tables (before.reverse ++ [.table origin inner])) entries)
      | _, _ => none
    | some _ => none

/-- The entries with a table of its own header under a key. -/
def headed? (key : Text) (entries : Entries) : Option Entries :=
  match entry? key entries with
  | none => some (entries ++ [(key, .table .headed [])])
  | some (.table .implied inner) => some (replaced key (.table .headed inner) entries)
  | some _ => none

/-- The entries with one more table under a key that may have several. -/
def headedAgain? (key : Text) (entries : Entries) : Option Entries :=
  match entry? key entries with
  | none => some (entries ++ [(key, .tables [.table .headed []])])
  | some (.tables items) => some (replaced key (.tables (items ++ [.table .headed []])) entries)
  | some _ => none

/-- The entries with a value under a key whose parts are separated by dots. -/
def assigned? (keys : List Text) (value : Value) (entries : Entries) : Option Entries :=
  match keys.reverse with
  | [] => none
  | last :: before => within? true (added? last value) before.reverse entries

end Scaffold.Toml
