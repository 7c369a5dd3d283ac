import Scaffold.Stencil.Literal
import Scaffold.Stencil.Syntax

/-!
# Reading expressions

What is written inside a hole, read from left to right: references such as `../fields.0.name`,
literals, and calls whose arguments may be calls in parentheses. Every reader gives what it read and
the text that follows, or says why it gives nothing. A text that starts with something else may
still suit another reader; a literal without a value suits none.
-/

namespace Scaffold.Stencil

/-- Why a reader gives nothing. -/
inductive Mismatch where
  /-- The text starts with something else. -/
  | other
  /-- The text starts with a literal that has no value. -/
  | badLiteral
  deriving DecidableEq

/-- What a reader gives, or why it gives nothing. -/
abbrev Match (α : Type) :=
  Except Mismatch α

/-- A reader of a word or a mark fails because the text starts with something else. -/
instance : MonadLift Option (Except Mismatch) where
  monadLift
    | some result => .ok result
    | none => .error .other

/-- What a reader gives, or what another one gives if the text starts with something else. -/
def Match.orElse {α : Type} (first : Match α) (second : Unit → Match α) : Match α :=
  match first with
  | .error .other => second ()
  | result => result

/-- What a reader gives, or nothing if the text starts with something else. -/
def Match.optional {α : Type} (result : Match α) : Match (Option α) :=
  match result with
  | .ok result => .ok (some result)
  | .error .other => .ok none
  | .error .badLiteral => .error .badLiteral

/-- Whether a character separates the items of a reference. -/
def isItemSeparator (character : Char) : Bool :=
  character == '/' || character == '.'

/-- The text after a separator. -/
def separator? : Text → Option Text
  | [] => none
  | character :: rest => if isItemSeparator character then some rest else none

/-- One item of a reference: a word, or any text in brackets. -/
def item? (text : Text) : Option (Text × Text) :=
  match text with
  | '[' :: rest =>
    match rest.dropWhile (· != ']') with
    | _ :: after => some (rest.takeWhile (· != ']'), after)
    | [] => none
  | _ => word? text

/-- The items that follow the first one, each after a separator. -/
def moreItems : (fuel : Nat) → Text → List Text × Text
  | 0, text => ([], text)
  | fuel + 1, text =>
    match (separator? text).bind item? with
    | some (item, rest) =>
      let (items, rest) := moreItems fuel rest
      (item :: items, rest)
    | none => ([], text)

/-- The number of steps outwards at the start of a reference. -/
def outwardSteps : (fuel : Nat) → Text → Nat × Text
  | 0, text => (0, text)
  | fuel + 1, text =>
    match (Text.after? "..".toList text).bind separator? with
    | some rest =>
      let (steps, rest) := outwardSteps fuel rest
      (steps + 1, rest)
    | none => (0, text)

/-- The text after `start` and a separator, or the text itself. -/
def withoutStart (start : Text) (text : Text) : Text × Bool :=
  match (Text.after? start text).bind separator? with
  | some rest => (rest, true)
  | none => (text, false)

/-- A reference, with its text as it was written. The item `this` stands for no step. -/
def reference? (text : Text) : Option (Expression × Text) := do
  let start :=
    match Text.after? "./".toList text with
    | some rest => rest
    | none => (withoutStart "this".toList text).1
  let (start, fromRoot) := withoutStart "@root".toList start
  let (start, isVariable) :=
    match start with
    | '@' :: rest => (rest, true)
    | other => (other, false)
  let (steps, start) := outwardSteps text.length start
  let (first, rest) ← item? start
  let (others, rest) := moreItems text.length rest
  let keys := (first :: others).filter (· != "this".toList)
  let written := text.take (text.length - rest.length)
  let target :=
    if isVariable && !fromRoot then
      match keys with
      | name :: _ => Reference.variable steps name
      | [] => Reference.place false 0 []
    else
      Reference.place fromRoot (if fromRoot then 0 else steps) keys
  some (.reference written target, rest)

/-- A literal, which must have a value. -/
def readLiteral (text : Text) : Match (Expression × Text) := do
  let rest ← afterLiteral? (2 * text.length + 2) text
  match literalValue? (text.take (text.length - rest.length)) with
  | some value => .ok (.literal value, rest)
  | none => .error .badLiteral

/-- Whether a text starts with a word that ends the arguments of a call. -/
def startsClosingWord (text : Text) : Bool :=
  ["as".toList, "else".toList].any fun word =>
    match Text.after? word text with
    | some rest => !startsWithSymbol (skipSpace rest)
    | none => false

/-- The arguments and the options of a call. -/
structure Arguments where
  positional : List Expression
  options : List (Text × Expression)

/-- Whether there are no arguments and no options. -/
def Arguments.isEmpty (arguments : Arguments) : Bool :=
  arguments.positional.isEmpty && arguments.options.isEmpty

/-- The arguments after one more argument before them. -/
def Arguments.withArgument (arguments : Arguments) (argument : Expression) : Arguments :=
  { arguments with positional := argument :: arguments.positional }

/-- The options after one more option before them, unless one of them replaces it. -/
def Arguments.withOption (arguments : Arguments) (name : Text) (value : Expression) : Arguments :=
  if arguments.options.any fun (other, _) => other = name then arguments
  else { arguments with options := (name, value) :: arguments.options }

mutual

/-- One argument of a call. -/
def readArgument : (fuel : Nat) → Text → Match (Expression × Text)
  | 0, _ => .error .other
  | fuel + 1, text =>
    if startsClosingWord text then .error .other
    else
      (readLiteral text).orElse fun _ =>
        Match.orElse (liftM (reference? text)) fun _ => readParenthesized fuel text

/-- A call in parentheses. -/
def readParenthesized : (fuel : Nat) → Text → Match (Expression × Text)
  | 0, _ => .error .other
  | fuel + 1, text => do
    let inner := skipSpace (← Text.after? ['('] text)
    let withArguments : Match (Expression × Text) := do
      let (name, rest) ← word? inner
      let (arguments, rest) ← readArguments fuel rest
      let rest ← Text.after? [')'] (skipSpace rest)
      if arguments.isEmpty then .error .other
      else .ok (.call (.word name) arguments.positional arguments.options, rest)
    withArguments.orElse fun _ => do
      let (name, rest) ← reference? inner
      let rest ← Text.after? [')'] (skipSpace rest)
      .ok (.call name [] [], rest)

/-- An option of a call: a word, an equals sign and a value. -/
def readOption : (fuel : Nat) → Text → Match ((Text × Expression) × Text)
  | 0, _ => .error .other
  | fuel + 1, text => do
    let (name, rest) ← word? text
    let rest ← Text.after? ['='] (skipSpace rest)
    let (value, rest) ← readArgument fuel (skipSpace rest)
    .ok ((name, value), rest)

/-- The arguments and options that follow a name, as many as there are. -/
def readArguments : (fuel : Nat) → Text → Match (Arguments × Text)
  | 0, text => .ok (⟨[], []⟩, text)
  | fuel + 1, text => do
    let start := skipSpace text
    match ← (readOption fuel start).optional with
    | some ((name, value), rest) =>
      let (arguments, rest) ← readArguments fuel rest
      .ok (arguments.withOption name value, rest)
    | none =>
      match ← (readArgument fuel start).optional with
      | some (value, rest) =>
        let (arguments, rest) ← readArguments fuel rest
        .ok (arguments.withArgument value, rest)
      | none => .ok (⟨[], []⟩, text)

end

/-- A call with the arguments and options that follow its name. -/
def readCall (head : Expression) (text : Text) : Match (Call × Text) := do
  let (arguments, rest) ← readArguments (3 * text.length + 3) text
  .ok (⟨head, arguments.positional, arguments.options⟩, rest)

/-- A name by itself: a call in parentheses or a reference. -/
def readName (text : Text) : Match (Expression × Text) :=
  (readParenthesized (3 * text.length + 3) text).orElse fun _ => liftM (reference? text)

/-- A helper with at least one argument or option. -/
def readCallWithArguments (text : Text) : Match (Call × Text) := do
  let (word, rest) ← word? text
  let (call, rest) ← readCall (.word word) rest
  if call.isNameOnly then .error .other else .ok (call, rest)

/-- A helper with arguments, or a name by itself. -/
def readOutput (text : Text) : Match (Call × Text) :=
  (readCallWithArguments text).orElse fun _ => do
    let (name, rest) ← readName text
    .ok (⟨name, [], []⟩, rest)

/-- The names that a block binds, between bars. -/
def boundNames? (text : Text) : Option (List Text × Text) := do
  let rest ← Text.after? "as".toList (skipSpace text)
  let rest ← Text.after? "|".toList (skipSpace rest)
  let (first, rest) ← word? (skipSpace rest)
  match word? (skipSpace rest) with
  | some (second, rest) =>
    let rest ← Text.after? "|".toList (skipSpace rest)
    some ([first, second], rest)
  | none =>
    let rest ← Text.after? "|".toList (skipSpace rest)
    some ([first], rest)

/-- A helper with arguments and the names that it binds. -/
def readBlock (text : Text) : Match ((Call × List Text) × Text) := do
  let (word, rest) ← word? text
  let (call, rest) ← readCall (.word word) rest
  match boundNames? rest with
  | some (names, rest) => .ok ((call, names), rest)
  | none => .ok ((call, []), rest)

/-- The name of another stencil with arguments and options. -/
def readInclusion (text : Text) : Match (Call × Text) := do
  match stencilName? text with
  | some (name, rest) => readCall (.word name) rest
  | none =>
    let (name, rest) ← readName text
    readCall name rest

end Scaffold.Stencil
