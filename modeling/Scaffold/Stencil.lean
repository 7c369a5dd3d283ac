import Scaffold.Stencil.Layout

/-!
# Reading stencils

The tags of a stencil nest: an opening tag is closed by a tag of the same name, and in between a
block may turn to its other case once, after any number of further blocks that stand for other
cases. A source whose tags do not nest is no stencil.
-/

namespace Scaffold

/-- A stencil is the list of its elements. -/
abbrev Stencil :=
  List Stencil.Element

namespace Stencil

/-- The start of a case of a block: its call, whether its tag stands alone on its line, and the
names that it binds. -/
structure CaseStart where
  call : Call
  isAlone : Bool
  names : List Text

/-- A case of a block with its elements. -/
structure Case where
  start : CaseStart
  body : List Element

/-- A block whose closing tag has not been read. -/
inductive OpenBlock where
  /-- A helper's block: its name, the elements before it, its finished cases in reverse order, and
  the case that is open, unless it is the last one, which depends on nothing. -/
  | helper (name : Text) (before : List Element) (finished : List Case)
      (current : Option CaseStart)
  /-- A stencil defined in place, with the elements before it. -/
  | definition (call : Call) (before : List Element)
  /-- Another stencil that is given a body, with the elements before it. -/
  | inclusion (call : Call) (isAlone : Bool) (before : List Element)

/-- The elements of the innermost open block, in reverse order, and the open blocks from the inside
out. -/
structure Nesting where
  elements : List Element
  blocks : List OpenBlock

/-- The word that a call starts with, if it does. -/
def Call.word? (call : Call) : Option Text :=
  match call.head with
  | .word name => some name
  | _ => none

/-- The elements of a case that is taken when no earlier one is. -/
def otherwiseOf (otherwise : Option (List Element)) (case : Case) : Option (List Element) :=
  let { call, isAlone, names } := case.start
  some [.block call isAlone names case.body otherwise]

/-- The elements that the cases of a block stand for, given in reverse order. -/
def elementsOfCases (finished : List Case) (last : Option (List Element)) : List Element :=
  (finished.foldl otherwiseOf last).getD []

/-- The nesting with one more element. -/
def Nesting.with (nesting : Nesting) (element : Element) : Nesting :=
  { nesting with elements := element :: nesting.elements }

/-- The nesting with one more open block. -/
def Nesting.opened (nesting : Nesting) (block : List Element → OpenBlock) : Nesting :=
  ⟨[], block nesting.elements :: nesting.blocks⟩

/-- Turns to another case of the innermost block. -/
def Nesting.turned? (nesting : Nesting) (next : Option CaseStart) : Option Nesting :=
  match nesting.blocks with
  | .helper name before finished (some start) :: blocks =>
    let finished := ⟨start, nesting.elements.reverse⟩ :: finished
    some ⟨[], .helper name before finished next :: blocks⟩
  | _ => none

/-- Whether a closing tag with this name, if it has one, closes what a call has opened. -/
def Call.isClosedBy (call : Call) (name : Option Text) : Bool :=
  match name with
  | some name => call.word? = some name
  | none => true

/-- Closes the innermost block, when it has this name. Only the block of a helper needs a name. -/
def Nesting.closed? (nesting : Nesting) (name : Option Text) : Option Nesting :=
  let body := nesting.elements.reverse
  match nesting.blocks with
  | .helper opened before finished current :: blocks =>
    if name = some opened then
      let elements :=
        match current with
        | some start => elementsOfCases (⟨start, body⟩ :: finished) none
        | none => elementsOfCases finished (some body)
      some ⟨elements ++ before, blocks⟩
    else
      none
  | .definition call before :: blocks =>
    if call.isClosedBy name then some ⟨.definition call (some body) :: before, blocks⟩
    else none
  | .inclusion call isAlone before :: blocks =>
    if call.isClosedBy name then
      some ⟨.inclusion call ⟨none, isAlone⟩ (some body) :: before, blocks⟩
    else
      none
  | [] => none

/-- The nesting after one more piece. -/
def Nesting.step? (nesting : Nesting) : LaidPiece → Option Nesting
  | .text content => some (nesting.with (.text content))
  | .tag kind placement =>
    let isAlone := placement.isAlone
    match kind with
    | .output call => some (nesting.with (.output call))
    | .opening call names =>
      some (nesting.opened (.helper (call.word?.getD []) · [] (some ⟨call, isAlone, names⟩)))
    | .otherwise => nesting.turned? none
    | .otherwiseBlock call names => nesting.turned? (some ⟨call, isAlone, names⟩)
    | .closing name => nesting.closed? name
    | .inclusion call => some (nesting.with (.inclusion call placement none))
    | .inclusionOpening call => some (nesting.opened (.inclusion call isAlone))
    | .definition call => some (nesting.with (.definition call none))
    | .definitionOpening call => some (nesting.opened (.definition call))
    | .comment => some nesting

/-- The elements that pieces nest to, when every block is closed. -/
def nested (pieces : List LaidPiece) : Option Stencil := do
  let nesting ← pieces.foldlM Nesting.step? ⟨[], []⟩
  if nesting.blocks.isEmpty then some nesting.elements.reverse else none

/-- The stencil of a source, if it is one. -/
def ofSource? (source : Text) : Option Stencil :=
  (pieces? source).bind fun pieces => nested (laidOut pieces)

end Stencil

end Scaffold
