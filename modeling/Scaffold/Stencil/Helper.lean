import Scaffold.Number.Reading
import Scaffold.Stencil.Scope

/-!
# Helpers

The helpers that a stencil can call. Some test their arguments, and can choose between the two cases
of a block; some compute a value; the others decide what becomes of the body of their block. Values
count as true unless they are null, false, empty, or numbers that are not normal.
-/

namespace Scaffold.Stencil

/-- The helpers that test their arguments. -/
inductive TestHelper where
  | equal
  | different
  | greater
  | greaterOrEqual
  | less
  | lessOrEqual
  | both
  | either
  | negation
  deriving DecidableEq

/-- The helpers that compute a value. -/
inductive ValueHelper where
  | lookup
  | length
  deriving DecidableEq

/-- The helpers that decide about a body. -/
inductive BlockHelper where
  | condition (positive : Bool)
  | each
  | within
  | raw
  | log
  deriving DecidableEq

/-- A helper of any kind. -/
inductive Helper where
  | test (helper : TestHelper)
  | value (helper : ValueHelper)
  | block (helper : BlockHelper)
  deriving DecidableEq

/-- The helpers by name. -/
def helpers : List (Text × Helper) :=
  [("if".toList, .block (.condition true)),
   ("unless".toList, .block (.condition false)),
   ("each".toList, .block .each),
   ("with".toList, .block .within),
   ("raw".toList, .block .raw),
   ("log".toList, .block .log),
   ("lookup".toList, .value .lookup),
   ("len".toList, .value .length),
   ("eq".toList, .test .equal),
   ("ne".toList, .test .different),
   ("gt".toList, .test .greater),
   ("gte".toList, .test .greaterOrEqual),
   ("lt".toList, .test .less),
   ("lte".toList, .test .lessOrEqual),
   ("and".toList, .test .both),
   ("or".toList, .test .either),
   ("not".toList, .test .negation)]

/-- The helper of this name. -/
def helper? (name : Text) : Option Helper :=
  helpers.lookup name

/-- Whether a number counts as true. -/
def isTrueNumber : Number → Bool
  | .integer value => value != 0
  | .double value => value.isNormal

/-- Whether a value counts as true. -/
def isTrue (includeZero : Bool) : Data → Bool
  | .null => false
  | .boolean value => value
  | .number value => includeZero || isTrueNumber value
  | .text value => !value.isEmpty
  | .list items => !items.isEmpty
  | .record entries => !entries.isEmpty

/-- Whether two numbers are the same. An integer is no double. -/
def sameNumber : Number → Number → Bool
  | .integer left, .integer right => left == right
  | .double left, .double right => (Number.double left).compare (.double right) == .eq
  | _, _ => false

mutual

/-- Whether two values are the same. Records are compared by their keys. -/
def same : Data → Data → Bool
  | .null, other => match other with | .null => true | _ => false
  | .boolean value, other => match other with | .boolean right => value == right | _ => false
  | .number value, other => match other with | .number right => sameNumber value right | _ => false
  | .text value, other => match other with | .text right => value == right | _ => false
  | .list items, other => match other with | .list right => sameItems items right | _ => false
  | .record entries, other =>
    match other with
    | .record right => entries.length == right.length && sameEntries entries right
    | _ => false

/-- Whether two lists have the same values in the same order. -/
def sameItems : List Data → List Data → Bool
  | [], right => right.isEmpty
  | item :: items, right =>
    match right with
    | [] => false
    | other :: others => same item other && sameItems items others

/-- Whether every entry is found in a record. -/
def sameEntries : List (Text × Data) → List (Text × Data) → Bool
  | [], _ => true
  | (key, value) :: entries, right =>
    (match Data.entry? key right with
      | some other => same value other
      | none => false) && sameEntries entries right

end

/-- The number of a value that is one or whose text is one. -/
def numberOf? : Data → Option Number
  | .number value => some value
  | .text value => Number.ofText? value
  | _ => none

/-- How two values compare, when they can be compared. -/
def compared? : Data → Data → Option Ordering
  | .text left, .text right =>
    some (if left = right then .eq else if left < right then .lt else .gt)
  | .boolean left, .boolean right => some (Ord.compare left.toNat right.toNat)
  | left, right => do
    let leftNumber ← numberOf? left
    let rightNumber ← numberOf? right
    some (leftNumber.compare rightNumber)

/-- The value that a list or a record has under an index or a key. -/
def looked? (collection index : Data) : Found :=
  match collection, index with
  | .list items, .number (.integer position) =>
    if 0 ≤ position then items[position.toNat]? else none
  | .record entries, .text key => Data.entry? key entries
  | _, _ => none

/-- The size of a list, a record or a text in bytes. -/
def sizeOf : Data → Nat
  | .list items => items.length
  | .record entries => entries.length
  | .text value => Text.byteLength value
  | _ => 0

/-- The argument at a position, which must be there. -/
def required (helper : Text) (arguments : List Found) (position : Nat) : Except Failure Found :=
  match arguments[position]? with
  | some argument => .ok argument
  | none => .error (.missingArgument helper)

/-- The argument at a position, which must be there and have a value if that is demanded. -/
def demanded
    (strict : Bool)
    (helper : Text)
    (arguments : List Found)
    (position : Nat) :
    Except Failure Data := do
  let argument ← required helper arguments position
  if strict && argument.isNone then .error .missing else .ok argument.data

/-- Whether a relation holds between two arguments. -/
def relates
    (strict : Bool)
    (helper : Text)
    (arguments : List Found)
    (relation : Data → Data → Bool) :
    Except Failure Bool := do
  let left ← demanded strict helper arguments 0
  let right ← demanded strict helper arguments 1
  .ok (relation left right)

/-- Whether the test of a helper holds of its arguments. -/
def TestHelper.holds
    (strict : Bool)
    (name : Text)
    (arguments : List Found) :
    TestHelper → Except Failure Bool
  | .equal => relates strict name arguments same
  | .different => relates strict name arguments fun left right => !same left right
  | .greater => relates strict name arguments fun left right => compared? left right == some .gt
  | .greaterOrEqual =>
    relates strict name arguments fun left right => (compared? left right).any (· != .lt)
  | .less => relates strict name arguments fun left right => compared? left right == some .lt
  | .lessOrEqual =>
    relates strict name arguments fun left right => (compared? left right).any (· != .gt)
  | .both => .ok (arguments.all fun argument => isTrue false argument.data)
  | .either => .ok (arguments.any fun argument => isTrue false argument.data)
  | .negation => do
    let value ← demanded strict name arguments 0
    .ok (!isTrue false value)

/-- The value that a helper computes. -/
def ValueHelper.apply
    (strict : Bool)
    (name : Text)
    (arguments : List Found) :
    ValueHelper → Except Failure Data
  | .lookup => do
    let collection ← required name arguments 0
    let index ← required name arguments 1
    match looked? collection.data index.data with
    | some value => .ok value
    | none => if strict then .error .missing else .ok .null
  | .length => do
    let value ← demanded strict name arguments 0
    .ok (.integer (sizeOf value))

mutual

/-- A value as it is written into a hole. -/
def shown : Data → Text
  | .null => []
  | .boolean value => if value then "true".toList else "false".toList
  | .number value => value.toText
  | .text value => value
  | .list items =>
    match items with
    | [] => "[]".toList
    | first :: others => '[' :: shown first ++ shownItems others ++ [']']
  | .record _ => "[object]".toList

/-- The items of a list after the first. -/
def shownItems : List Data → Text
  | [] => []
  | item :: others => ", ".toList ++ shown item ++ shownItems others

end

/-- The levels that a message can be logged at. -/
def logLevels : List Text :=
  ["error".toList, "warn".toList, "info".toList, "debug".toList, "trace".toList]

end Scaffold.Stencil
