import Scaffold.Stencil
import Scaffold.Stencil.Helper

/-!
# Filling stencils

A stencil is filled element by element. Text is written as it stands, holes are written as the
values of their expressions, and blocks are filled as often as their helpers say. Another stencil
that is filled in keeps the indentation of its place on all of its lines. What a stencil mentions
and the data does not have is written as nothing, unless that is an error.

The recursion follows the elements of a stencil. Only the inclusion of another stencil leaves them,
so `fillAll` takes the way to fill an included stencil as an argument, and the depth of inclusions
is bounded where this argument is supplied. The bound is a choice of the library and no rule of the
language of stencils: stencils that include one another without end have no filling, and where an
engine without a bound would go on until its memory is used up, filling ends in the failure
`tooDeep` here.
-/

namespace Scaffold.Stencil

/-- What all parts of one filling share. -/
structure Filling where
  /-- The stencils that can be included, by name. -/
  stencils : Text → Option Stencil
  /-- Whether mentioning what the data does not have is an error. -/
  strict : Bool
  /-- The data at the root. -/
  root : Data

/-- What surrounds an element. -/
structure Surroundings where
  /-- The scopes of the blocks around it, from the inside out. -/
  scopes : List Scope
  /-- What starts the lines of the stencil. -/
  indentation : Option Text
  /-- The bodies that the stencils around it were given, from the inside out. -/
  bodies : List Stencil
  /-- How many of these bodies are passed over when one is filled in, because they are being filled
  in already. -/
  passedBodies : Nat

/-- How far a filling has come. -/
structure Progress where
  /-- What is written, in reverse order. -/
  written : Text
  /-- The stencil whose elements are being filled, when they are not those of a block. -/
  current : Option Text
  /-- The stencils defined in place that are in reach, the latest first. -/
  defined : List (Text × Stencil)
  /-- Whether the next text starts with the indentation. -/
  indentsNext : Bool
  /-- Whether the last text ended a line. -/
  endedLine : Bool
  /-- Whether the block or the stencil has written something. -/
  wrote : Bool

/-- A text with an indentation after every line feed but a last one. -/
def indented (indentation : Text) : Text → Text
  | [] => []
  | ['\n'] => ['\n']
  | '\n' :: rest => '\n' :: indentation ++ indented indentation rest
  | character :: rest => character :: indented indentation rest

/-- Whether the first character ends a line. -/
def startsWithLineEnd : Text → Bool
  | [] => false
  | character :: _ => isLineEnd character

/-- Writes a text. -/
def Progress.put (progress : Progress) (indentation : Option Text) (text : Text) : Progress :=
  match text with
  | [] => progress
  | _ =>
    let indentation := indentation.getD []
    let start := if progress.indentsNext && !startsWithLineEnd text then indentation else []
    let endsLine := text.getLast?.any isLineEnd
    { progress with
      written := (start ++ indented indentation text).reverseAux progress.written
      wrote := true
      endedLine := endsLine
      indentsNext := endsLine }

/-- Writes a text without regard to lines and their indentation. -/
def Progress.putBare (progress : Progress) (text : Text) : Progress :=
  { progress with written := text.reverseAux progress.written }

/-- The progress at the start of a block. The line after a block opening that stands alone is
indented. -/
def Progress.entering (progress : Progress) (isAlone : Bool) : Progress :=
  { progress with
    wrote := false
    indentsNext := progress.indentsNext || isAlone && progress.endedLine }

/-- The progress at the end of a block or a stencil that began at `before`. If nothing was written,
the next text is indented as it was to be before. -/
def Progress.leaving (progress before : Progress) : Progress :=
  if progress.wrote then { progress with indentsNext := progress.endedLine }
  else { progress with wrote := before.wrote, indentsNext := before.indentsNext }

/-- The progress without the stencils defined in place since `before`. -/
def Progress.forgetting (progress before : Progress) : Progress :=
  { progress with defined := before.defined }

/-- The progress at the start of the body of a block. -/
def Progress.inBody (progress : Progress) : Progress :=
  { progress with current := none }

/-- Checks the call of a block helper that has no block. It gives no text. -/
def checkWithoutBlock
    (strict : Bool)
    (name : Text)
    (arguments : List Found)
    (options : List (Text × Found)) :
    BlockHelper → Except Failure Unit
  | .condition _ | .each => do
    let _ ← required name arguments 0
    .ok ()
  | .within => do
    let argument ← required name arguments 0
    if strict && !isTrue false argument.data then .error .missing else .ok ()
  | .raw => .ok ()
  | .log =>
    match options.lookup "level".toList with
    | some (some (.text level)) =>
      if logLevels.contains (level.map Char.toLower) then .ok ()
      else .error (.unknownLevel level)
    | _ => .ok ()

/-- The value of a helper that is called without a block. -/
def Helper.valueOf
    (strict : Bool)
    (name : Text)
    (arguments : List Found)
    (options : List (Text × Found)) :
    Helper → Except Failure Data
  | .test helper => do
    let holds ← helper.holds strict name arguments
    .ok (.boolean holds)
  | .value helper => helper.apply strict name arguments
  | .block helper => do
    checkWithoutBlock strict name arguments options helper
    .ok (.text [])

mutual

/-- The value of an expression. -/
def evaluate
    (filling : Filling)
    (scopes : List Scope) :
    Expression → Except Failure Found
  | .literal value => .ok (some value)
  | .word _ => .ok none
  | .reference _ target => lookUp filling.root scopes target
  | .call helper arguments options => do
    let name ←
      match helper with
      | .word name => .ok name
      | .reference written _ => .ok written
      | .literal value => .ok (shown value)
      | .call .. => do
        let found ← evaluate filling scopes helper
        .ok (shown found.data)
    let arguments ← evaluateAll filling scopes arguments
    let options ← evaluateOptions filling scopes options
    match helper? name with
    | some helper => do
      let value ← helper.valueOf filling.strict name arguments options
      .ok (some value)
    | none => .error (.unknownHelper name)

/-- The values of arguments. -/
def evaluateAll
    (filling : Filling)
    (scopes : List Scope) :
    List Expression → Except Failure (List Found)
  | [] => .ok []
  | argument :: arguments => do
    let first ← evaluate filling scopes argument
    let others ← evaluateAll filling scopes arguments
    .ok (first :: others)

/-- The values of options. -/
def evaluateOptions
    (filling : Filling)
    (scopes : List Scope) :
    List (Text × Expression) → Except Failure (List (Text × Found))
  | [] => .ok []
  | (name, value) :: options => do
    let first ← evaluate filling scopes value
    let others ← evaluateOptions filling scopes options
    .ok ((name, first) :: others)

end

/-- The name that a call starts with. -/
def nameOf
    (filling : Filling)
    (scopes : List Scope) :
    Expression → Except Failure Text
  | .word name => .ok name
  | .reference written _ => .ok written
  | .literal value => .ok (shown value)
  | .call helper arguments options => do
    let found ← evaluate filling scopes (.call helper arguments options)
    .ok (shown found.data)

/-- A call with its name and the values of its arguments and options. -/
structure Invocation where
  name : Text
  arguments : List Found
  options : List (Text × Found)

/-- The name and the values of a call. -/
def invocation
    (filling : Filling)
    (scopes : List Scope)
    (call : Call) :
    Except Failure Invocation := do
  let name ← nameOf filling scopes call.head
  let arguments ← evaluateAll filling scopes call.arguments
  let options ← evaluateOptions filling scopes call.options
  .ok ⟨name, arguments, options⟩

/-- Fills the hole of a helper that has no block. The result of a test is written as it is, without
regard to lines. -/
def fillHelper
    (filling : Filling)
    (around : Surroundings)
    (call : Call)
    (progress : Progress) :
    Except Failure Progress := do
  let { name, arguments, options } ← invocation filling around.scopes call
  match helper? name with
  | some helper => do
    let value ← helper.valueOf filling.strict name arguments options
    match helper with
    | .test _ => .ok (progress.putBare (shown value))
    | _ => .ok (progress.put around.indentation (shown value))
  | none => .error (.unknownHelper name)

/-- Fills the hole of a value or a helper. -/
def fillOutput
    (filling : Filling)
    (around : Surroundings)
    (call : Call)
    (progress : Progress) :
    Except Failure Progress := do
  if call.isNameOnly then
    let name ← nameOf filling around.scopes call.head
    if (helper? name).isSome then
      fillHelper filling around call progress
    else
      match ← evaluate filling around.scopes call.head with
      | some value => .ok (progress.put around.indentation (shown value))
      | none => if filling.strict then .error .missing else .ok progress
  else
    fillHelper filling around call progress

/-- The scope of one turn of a loop: the item, its index or key, and the names bound to them. Of two
equal names the second one counts. -/
def turnScope
    (item key : Data)
    (names : List Text)
    (loopVariables : List (Text × Data)) :
    Scope :=
  let bound : List (Text × Found) :=
    match names with
    | [] => []
    | [name] => [(name, some item)]
    | name :: keyName :: _ => [(keyName, some key), (name, some item)]
  ⟨some item, bound, loopVariables⟩

/-- The variables that every loop sets. -/
def turnVariables (position count : Nat) : List (Text × Data) :=
  [("index".toList, .integer position),
   ("first".toList, .boolean (position == 0)),
   ("last".toList, .boolean (position + 1 == count))]

/-- The scopes of the turns over a list. -/
def listTurns (names : List Text) (items : List Data) : List Scope :=
  items.mapIdx fun position item =>
    turnScope item (.integer position) names (turnVariables position items.length)

/-- The scopes of the turns over a record, in the order of its keys. -/
def recordTurns (names : List Text) (entries : List (Text × Data)) : List Scope :=
  let sorted := entries.mergeSort fun left right => Text.precedes left.1 right.1
  sorted.mapIdx fun position (key, item) =>
    turnScope item (.text key) names
      (("key".toList, .text key) :: turnVariables position entries.length)

/-- The scopes of the turns of a loop, unless the other case of its block is due. -/
def turns? (hasOtherwise : Bool) (names : List Text) (collection : Data) : Option (List Scope) :=
  match collection with
  | .list items => if items.isEmpty && hasOtherwise then none else some (listTurns names items)
  | .record entries =>
    if entries.isEmpty && hasOtherwise then none else some (recordTurns names entries)
  | _ => none

/-- The scope of a block within a value. -/
def withinScope (names : List Text) (value : Found) : Scope :=
  match names with
  | [name] => ⟨value, [(name, value)], []⟩
  | _ => Scope.of value

/-- Defines a stencil in place. -/
def define
    (filling : Filling)
    (around : Surroundings)
    (call : Call)
    (body : Option Stencil)
    (progress : Progress) :
    Except Failure Progress := do
  let { name, arguments, .. } ← invocation filling around.scopes call
  if name = "inline".toList then
    match arguments, body with
    | some (.text defined) :: _, some stencil =>
      .ok { progress with defined := (defined, stencil) :: progress.defined }
    | _, _ => .error .badDefinition
  else
    .error (.unknownDefinition name)

/-- Defines the stencils whose definitions stand directly in a body. -/
def defineDirect
    (filling : Filling)
    (around : Surroundings) :
    List Element → Progress → Except Failure Progress
  | [], progress => .ok progress
  | .definition call body :: elements, progress => do
    let progress ← define filling around call body progress
    defineDirect filling around elements progress
  | _ :: elements, progress => defineDirect filling around elements progress

/-- The entries of a value: those of a record, the items of a list under their indices, and the
characters of a text under theirs. -/
def entriesOf : Data → List (Text × Data)
  | .record entries => entries
  | .list items => items.mapIdx fun position item => (Number.digitsOf position, item)
  | .text value =>
    value.mapIdx fun position character => (Number.digitsOf position, .text [character])
  | _ => []

/-- A value with further entries. -/
def withEntries (base : Data) : List (Text × Data) → Data
  | [] => base
  | entries =>
    .record (entries.foldl (fun merged (key, value) => Data.withEntry key value merged)
      (entriesOf base))

/-- The scope of an included stencil. It starts from the first argument, or else from where it is
included, with the options as further entries, and binds the options by their names. -/
def inclusionScope (root : Data) (scopes : List Scope) (invocation : Invocation) : Scope :=
  let base :=
    match invocation.arguments with
    | argument :: _ => argument
    | [] => baseAt root scopes 0
  let entries := invocation.options.map fun (name, found) => (name, found.data)
  ⟨some (withEntries base.data entries), entries.map fun (name, value) => (name, some value), []⟩

/-- The indentation inside an included stencil. -/
def inclusionIndentation (outer inner : Option Text) : Option Text :=
  match outer, inner with
  | some outer, some inner => some (outer ++ inner)
  | some outer, none => some outer
  | none, inner => inner

/-- The name under which a stencil fills in the body that it was given. -/
def bodyName : Text :=
  "@partial-block".toList

/-- The stencil of a name, and the name if the stencil is not defined in place. A body that is given
to an unknown stencil stands for it. -/
def stencilNamed
    (filling : Filling)
    (around : Surroundings)
    (name : Text)
    (body : Option Stencil)
    (progress : Progress) :
    Except Failure (Stencil × Option Text) :=
  let inPlace :=
    if name = bodyName then around.bodies[around.passedBodies]? else progress.defined.lookup name
  match inPlace, filling.stencils name, body with
  | some stencil, _, _ => .ok (stencil, none)
  | none, some stencil, _ => .ok (stencil, some name)
  | none, none, some stencil => .ok (stencil, none)
  | none, none, none => .error (.unknownStencil name)

/-- How an included stencil is filled. -/
abbrev Inclusion :=
  Surroundings → Stencil → Progress → Except Failure Progress

/-- Fills in another stencil, which may be given a body. -/
def fillInclusion
    (filling : Filling)
    (inclusion : Inclusion)
    (around : Surroundings)
    (call : Call)
    (placement : Placement)
    (body : Option Stencil)
    (progress : Progress) :
    Except Failure Progress := do
  let invocation ← invocation filling around.scopes call
  let name := invocation.name
  let progress ← defineDirect filling around (body.getD []) progress
  if progress.current = some name then .error (.includesItself name)
  else
    let (stencil, current) ← stencilNamed filling around name body progress
    let indentsNext :=
      placement.isAlone && (progress.endedLine || placement.indentation.isSome)
    let start :=
      { progress with indentsNext := indentsNext, wrote := false, current := current }
    let inside : Surroundings :=
      { scopes := inclusionScope filling.root around.scopes invocation :: around.scopes
        indentation := inclusionIndentation around.indentation placement.indentation
        bodies := body.toList ++ around.bodies
        passedBodies :=
          if name = bodyName then around.passedBodies + 1 else around.passedBodies - 1 }
    let filled ← inclusion inside stencil start
    .ok ({ filled with current := progress.current }.leaving progress |>.forgetting progress)

mutual

/-- Fills one element. -/
def fillElement
    (filling : Filling)
    (inclusion : Inclusion) :
    Element → Surroundings → Progress → Except Failure Progress
  | .text content, around, progress => .ok (progress.put around.indentation content)
  | .output call, around, progress => fillOutput filling around call progress
  | .inclusion call placement body, around, progress =>
    fillInclusion filling inclusion around call placement body progress
  | .definition call body, around, progress => define filling around call body progress
  | .block call isAlone names body otherwise, around, progress => do
    let { name, arguments, options } ← invocation filling around.scopes call
    let start := progress.entering isAlone
    let filled ←
      match helper? name with
      | none => .error (.unknownHelper name)
      | some (.test helper) => do
        if ← helper.holds filling.strict name arguments then
          fillAll filling inclusion body around start.inBody
        else
          fillOtherwise filling inclusion otherwise around start
      | some (.value helper) => do
        let value ← helper.apply filling.strict name arguments
        .ok (start.put around.indentation (shown value))
      | some (.block .log) => do
        checkWithoutBlock filling.strict name arguments options .log
        .ok start
      | some (.block .raw) => fillAll filling inclusion body around start.inBody
      | some (.block (.condition positive)) => do
        let argument ← required name arguments 0
        let includesZero :=
          match options.lookup "includeZero".toList with
          | some (some (.boolean value)) => value
          | _ => false
        if isTrue includesZero argument.data == positive then
          fillAll filling inclusion body around start.inBody
        else
          fillOtherwise filling inclusion otherwise around start
      | some (.block .each) => do
        let argument ← required name arguments 0
        match turns? otherwise.isSome names argument.data with
        | some scopes => do
          let filled ←
            scopes.foldlM
              (fun progress scope =>
                fillAll filling inclusion body { around with scopes := scope :: around.scopes }
                  progress.inBody)
              start
          .ok (filled.forgetting start)
        | none =>
          if otherwise.isNone && filling.strict then .error .missing
          else fillOtherwise filling inclusion otherwise around start
      | some (.block .within) => do
        let argument ← required name arguments 0
        if isTrue false argument.data then do
          let scope := withinScope names argument
          let filled ←
            fillAll filling inclusion body { around with scopes := scope :: around.scopes }
              start.inBody
          .ok (filled.forgetting start)
        else if otherwise.isNone && filling.strict then
          .error .missing
        else
          fillOtherwise filling inclusion otherwise around start
    .ok (filled.leaving progress)

/-- Fills elements one after the other. -/
def fillAll
    (filling : Filling)
    (inclusion : Inclusion) :
    List Element → Surroundings → Progress → Except Failure Progress
  | [], _, progress => .ok progress
  | element :: elements, around, progress => do
    let progress ← fillElement filling inclusion element around progress
    fillAll filling inclusion elements around progress

/-- Fills the other case of a block, if there is one. -/
def fillOtherwise
    (filling : Filling)
    (inclusion : Inclusion) :
    Option (List Element) → Surroundings → Progress → Except Failure Progress
  | none, _, progress => .ok progress
  | some elements, around, progress => fillAll filling inclusion elements around progress.inBody

end

/-- Fills a stencil whose inclusions are nested less than `depth` deep. Deeper ones fail as
`tooDeep`, which no other part of filling reports. -/
def fillWithin (filling : Filling) : (depth : Nat) → Inclusion
  | 0, _, _, _ => .error .tooDeep
  | depth + 1, around, stencil, progress =>
    fillAll filling (fillWithin filling depth) stencil around progress

/-- The depth beyond which inclusions are taken for endless. An engine that bounds nothing would
still fill stencils that are nested deeper than this and do come to an end. -/
def deepestInclusion : Nat :=
  4096

/-- The text of a stencil filled with data. -/
def fill (filling : Filling) (name : Text) (stencil : Stencil) : Except Failure Text := do
  let around : Surroundings := ⟨[Scope.of (some filling.root)], none, [], 0⟩
  let start : Progress := ⟨[], some name, [], false, false, false⟩
  let filled ← fillWithin filling deepestInclusion around stencil start
  .ok filled.written.reverse

end Scaffold.Stencil
