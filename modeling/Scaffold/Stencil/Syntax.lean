import Scaffold.Data

/-!
# Stencils

A stencil is text with holes. A hole is written between double braces: it outputs a value, calls a
helper, opens or closes a block, or fills in another stencil. This module holds the syntax tree of a
stencil: references to data, expressions over them, and the elements in which text and holes follow
one another.
-/

namespace Scaffold.Stencil

/-- What a reference names. -/
inductive Reference where
  /-- A variable that a loop sets, some levels further out. -/
  | variable (level : Nat) (name : Text)
  /-- The data reached by keys from the root, or from the value some levels further out. -/
  | place (fromRoot : Bool) (level : Nat) (keys : List Text)
  deriving DecidableEq

/-- An expression inside a hole. -/
inductive Expression where
  /-- A value written out. -/
  | literal (value : Data)
  /-- A word that names a helper. -/
  | word (name : Text)
  /-- A reference, with its text as it was written. -/
  | reference (written : Text) (target : Reference)
  /-- A helper called with arguments and options. -/
  | call (helper : Expression) (arguments : List Expression) (options : List (Text × Expression))

/-- A helper or a name, with its arguments and options. -/
structure Call where
  head : Expression
  arguments : List Expression
  options : List (Text × Expression)

/-- Whether nothing follows the name of a call. -/
def Call.isNameOnly (call : Call) : Bool :=
  call.arguments.isEmpty && call.options.isEmpty

/-- How a hole stands on its line. -/
structure Placement where
  /-- The blanks before the hole, which start every line of a stencil that is filled in there. -/
  indentation : Option Text
  /-- Whether the hole stands alone on its line. -/
  isAlone : Bool

/-- A part of a stencil. -/
inductive Element where
  /-- Text that stands for itself. -/
  | text (content : Text)
  /-- A hole for the value of an expression. -/
  | output (call : Call)
  /-- A helper with a body, names for what it binds, and a body for the other case. Its opening may
  stand alone on its line. -/
  | block (call : Call) (isAlone : Bool) (names : List Text) (body : List Element)
      (otherwise : Option (List Element))
  /-- Another stencil, and perhaps a body that it can fill in itself. -/
  | inclusion (call : Call) (placement : Placement) (body : Option (List Element))
  /-- A stencil defined in place, under a name that the arguments give. -/
  | definition (call : Call) (body : Option (List Element))

end Scaffold.Stencil
