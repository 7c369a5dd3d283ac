import Scaffold.Stencil.Syntax

/-!
# Scopes

A reference is looked up in the scopes of the blocks around it, from the inside out. Every scope has
a value that plain references start from, names that its block binds to values, and variables that a
loop sets. A name that some scope binds is looked up there, however the reference starts, and a loop
variable in the innermost scope that sets it. A key of a list is its index, and looking up anything
else in a list is an error; a key that a record does not have, or any key of another value, leads to
nothing.
-/

namespace Scaffold.Stencil

/-- Why a stencil cannot be filled. -/
inductive Failure where
  /-- A list was looked into with a key that is no index. -/
  | noIndex (key : Text)
  /-- Something was mentioned that the data does not have, where this is an error. -/
  | missing
  /-- A helper was called without an argument that it needs. -/
  | missingArgument (helper : Text)
  /-- No helper has this name. -/
  | unknownHelper (name : Text)
  /-- No other stencil has this name. -/
  | unknownStencil (name : Text)
  /-- Only stencils can be defined in place. -/
  | unknownDefinition (name : Text)
  /-- A definition in place needs a name in a text and a body. -/
  | badDefinition
  /-- A stencil includes itself. -/
  | includesItself (name : Text)
  /-- The stencils are nested more deeply than filling follows them, which is a bound of the library
  and nothing that the stencils themselves forbid. -/
  | tooDeep
  /-- No message can be logged at this level. -/
  | unknownLevel (name : Text)
  deriving DecidableEq

/-- The value that a reference or a call gives, unless there is none. -/
abbrev Found :=
  Option Data

/-- The value for readers that take a missing one for null. -/
def Found.data (found : Found) : Data :=
  found.getD .null

/-- What a block adds to look-ups. -/
structure Scope where
  /-- What plain references start from. -/
  base : Found
  /-- The names that the block binds. -/
  names : List (Text × Found)
  /-- The variables that a loop sets. -/
  loopVariables : List (Text × Data)

/-- The scope of a block that binds nothing. -/
def Scope.of (base : Found) : Scope :=
  ⟨base, [], []⟩

/-- The largest index, which is the largest number of 64 bits. -/
def largestIndex : Nat :=
  Nat.pow 2 64 - 1

/-- The index that a key of a list stands for. A plus sign may precede it. -/
def index? (key : Text) : Option Nat :=
  let digits :=
    match key with
    | '+' :: digits => digits
    | digits => digits
  if digits.isEmpty || !digits.all Char.isDigit then
    none
  else
    let index := digits.foldl (fun value digit => value * 10 + (digit.toNat - 48)) 0
    if index ≤ largestIndex then some index else none

/-- The value reached by one key. -/
def stepInto (value : Found) (key : Text) : Except Failure Found :=
  match value with
  | some (.list items) =>
    match index? key with
    | some index => .ok items[index]?
    | none => .error (.noIndex key)
  | some (.record entries) => .ok (Data.entry? key entries)
  | _ => .ok none

/-- The value reached by keys, one after the other. -/
def follow (start : Found) (keys : List Text) : Except Failure Found :=
  keys.foldlM stepInto start

/-- The value that the innermost of the blocks that bind a name binds it to. -/
def bound? (scopes : List Scope) (name : Text) : Option Found :=
  scopes.findSome? fun scope => scope.names.lookup name

/-- The variable that the innermost of the loops that set it sets. -/
def loopVariable (scopes : List Scope) (name : Text) : Found :=
  scopes.findSome? fun scope => scope.loopVariables.lookup name

/-- The value that references some levels further out start from. Further out than all scopes, they
start where plain references do. -/
def baseAt (root : Data) (scopes : List Scope) (level : Nat) : Found :=
  match scopes[level]? with
  | some scope => scope.base
  | none =>
    match scopes with
    | scope :: _ => scope.base
    | [] => some root

/-- The value of a reference. -/
def lookUp (root : Data) (scopes : List Scope) : Reference → Except Failure Found
  | .variable level name => .ok (loopVariable (scopes.drop level) name)
  | .place true _ keys => follow (some root) keys
  | .place false level keys =>
    match keys with
    | [] => .ok (baseAt root scopes level)
    | first :: others =>
      match bound? scopes first with
      | some found => follow found others
      | none => follow (baseAt root scopes level) keys

end Scaffold.Stencil
