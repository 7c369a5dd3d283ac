import Scaffold.Command

/-!
# Command lines

A command line is read from left to right. An argument that starts with hyphens is an option, whose
value is attached to it or is the argument after it; two hyphens alone end the options; any other
argument names the command, or is its one operand. The value in the argument after an option is only
looked at when the next option is met or the command line ends, so that an unknown option is
reported before a value that is not acceptable.
-/

namespace Scaffold

/-- Why a command line is not carried out as a command. -/
inductive UsageError where
  /-- Help is asked for. -/
  | help
  /-- The version is asked for. -/
  | version
  /-- Nothing is asked for. -/
  | nothingAsked
  /-- There are options, but no command. -/
  | missingCommand
  /-- There is no such command. -/
  | unknownCommand
  /-- There is no such option or operand. -/
  | unknownArgument
  /-- An option that takes no value has one. -/
  | unexpectedValue
  /-- An option that can be given once is repeated. -/
  | repeatedOption
  /-- A value is missing or not acceptable. -/
  | badValue
  /-- A required option or operand is missing. -/
  | missingArgument
  deriving DecidableEq, Repr

/-- Whether a command line asks for information and so is no mistake. -/
def UsageError.isRequest : UsageError → Bool
  | .help | .version => true
  | _ => false

namespace Arguments

/-- What an option takes and what repeating it means. -/
inductive OptionKind where
  /-- Asks for help. -/
  | help
  /-- Asks for the version. -/
  | version
  /-- Counts how often it is given. -/
  | count
  /-- Can be given once, without a value. -/
  | flag
  /-- Can be given once, with a path. -/
  | path
  /-- Can be given once, with a text. -/
  | text
  /-- Can be given again and again, with texts. -/
  | texts
  /-- The operand that names a shell. -/
  | shell
  deriving DecidableEq

/-- Whether an option of a kind takes a value. -/
def OptionKind.takesValue : OptionKind → Bool
  | .help | .version | .count | .flag => false
  | .path | .text | .texts | .shell => true

/-- Whether an option of a kind can be given again. -/
def OptionKind.isRepeatable : OptionKind → Bool
  | .count | .texts => true
  | _ => false

/-- An option with its names. -/
structure OptionRule where
  long : Text
  short : Option Char
  kind : OptionKind
  deriving DecidableEq

/-- The options of a command and whether it has an operand. -/
structure Grammar where
  options : List OptionRule
  operand : Option OptionRule

/-- The shell of this name. -/
def shellNamed? (name : Text) : Option Shell :=
  [("bash".toList, Shell.bash), ("elvish".toList, .elvish), ("fish".toList, .fish),
    ("powershell".toList, .powershell), ("zsh".toList, .zsh)].lookup name

/-- An option that was given and its value. -/
structure Given where
  rule : OptionRule
  value : Text
  deriving DecidableEq

/-- An option that waits for its value in the next argument, or has it there. -/
structure Awaiting where
  rule : OptionRule
  value : Option Text
  deriving DecidableEq

/-- What has been read of the arguments of a command. -/
structure Reading where
  given : List Given
  awaiting : Option Awaiting
  optionsEnded : Bool
  operandGiven : Bool
  deriving DecidableEq

/-- Nothing has been read. -/
def Reading.start : Reading :=
  ⟨[], none, false, false⟩

/-- Whether a value is acceptable for an option. -/
def isAcceptable (kind : OptionKind) (value : Text) : Bool :=
  match kind with
  | .path => !value.isEmpty
  | .shell => (shellNamed? value).isSome
  | _ => true

/-- The reading with an option and its value. -/
def Reading.recorded (reading : Reading) (rule : OptionRule) (value : Text) :
    Except UsageError Reading :=
  match rule.kind with
  | .help => .error .help
  | .version => .error .version
  | kind =>
    if !kind.isRepeatable && reading.given.any (·.rule == rule) then
      .error .repeatedOption
    else if isAcceptable kind value then
      .ok { reading with given := reading.given ++ [⟨rule, value⟩] }
    else
      .error .badValue

/-- The reading with the option recorded that has its value in the next argument. -/
def Reading.settled (reading : Reading) : Except UsageError Reading :=
  match reading.awaiting with
  | none => .ok reading
  | some ⟨_, none⟩ => .error .badValue
  | some ⟨rule, some value⟩ => { reading with awaiting := none }.recorded rule value

/-- The reading after an option, with the value attached to it if there is one. -/
def Reading.option (reading : Reading) (rule : OptionRule) (attached : Option Text) :
    Except UsageError Reading :=
  match attached with
  | some value =>
    if rule.kind.takesValue then do
      let reading ← reading.settled
      reading.recorded rule value
    else
      .error .unexpectedValue
  | none => do
    let reading ← reading.settled
    if rule.kind.takesValue then
      .ok { reading with awaiting := some ⟨rule, none⟩ }
    else
      reading.recorded rule []

/-- The reading after an option by its long name, with what may be attached after an equals sign. -/
def Reading.longOption (grammar : Grammar) (reading : Reading) (text : Text) :
    Except UsageError Reading :=
  let name := text.takeWhile (· != '=')
  let attached :=
    match text.dropWhile (· != '=') with
    | _ :: value => some value
    | [] => none
  match grammar.options.find? (·.long == name) with
  | some rule => reading.option rule attached
  | none => .error .unknownArgument

/-- The reading after options by their short names. The last may have its value attached. -/
def Reading.shortOptions (grammar : Grammar) :
    (reading : Reading) → Text → Except UsageError Reading
  | reading, [] => .ok reading
  | reading, name :: rest =>
    match grammar.options.find? (·.short == some name) with
    | none => .error .unknownArgument
    | some rule =>
      if rule.kind.takesValue then
        match rest with
        | [] => reading.option rule none
        | '=' :: value => reading.option rule (some value)
        | value => reading.option rule (some value)
      else do
        let reading ← reading.option rule none
        shortOptions grammar reading rest

/-- The reading after an argument that is no option. -/
def Reading.operand (grammar : Grammar) (reading : Reading) (argument : Text) :
    Except UsageError Reading :=
  match grammar.operand with
  | some rule =>
    if reading.operandGiven then
      .error .unknownArgument
    else do
      let reading ← reading.settled
      .ok { reading with awaiting := some ⟨rule, some argument⟩, operandGiven := true }
  | none => .error .unknownArgument

/-- The reading after one argument. -/
def Reading.argument (grammar : Grammar) (reading : Reading) (argument : Text) :
    Except UsageError Reading :=
  if reading.optionsEnded then
    reading.operand grammar argument
  else
    match argument with
    | ['-', '-'] => .ok { reading with optionsEnded := true }
    | '-' :: '-' :: name => reading.longOption grammar name
    | '-' :: first :: names => reading.shortOptions grammar (first :: names)
    | value =>
      match reading.awaiting with
      | some ⟨rule, none⟩ => .ok { reading with awaiting := some ⟨rule, some value⟩ }
      | _ => reading.operand grammar value

/-- The options given by the arguments of a command. -/
def givenBy (grammar : Grammar) (arguments : List Text) : Except UsageError (List Given) := do
  let reading ← arguments.foldlM (Reading.argument grammar) Reading.start
  let reading ← reading.settled
  .ok reading.given

/-- An option with a long name only. -/
def longOnly (kind : OptionKind) (name : Text) : OptionRule :=
  ⟨name, none, kind⟩

/-- The options that every command has. -/
def sharedOptions : List OptionRule :=
  [⟨"verbose".toList, some 'v', .count⟩, ⟨"help".toList, some 'h', .help⟩]

/-- The options for the places of a project. -/
def projectOptions : List OptionRule :=
  [⟨"config".toList, some 'c', .path⟩, longOnly .path "target".toList,
    longOnly .path "migration-file".toList, longOnly .path "templates".toList]

/-- The options that select tables. -/
def selectionOptions : List OptionRule :=
  [⟨"table".toList, some 't', .texts⟩, ⟨"entity".toList, some 'e', .texts⟩]

/-- The option for the directory of a category. -/
def directoryOption (category : Category) : Text :=
  category.label ++ "-dir".toList

/-- The option that skips a category. -/
def skipOption (category : Category) : Text :=
  "skip-".toList ++ category.label

/-- The options of a generation. -/
def generateOptions : List OptionRule :=
  Category.named.map (fun category => longOnly .path (directoryOption category)) ++
    Category.named.map (fun category => longOnly .flag (skipOption category)) ++
    ["keep-existing".toList, "strict".toList, "dry-run".toList].map (longOnly .flag)

/-- The names of the commands. -/
inductive CommandName where
  | generate
  | templates
  | context
  | check
  | completions
  deriving DecidableEq, Repr

/-- The commands by name. -/
def commandNames : List (Text × CommandName) :=
  [("generate".toList, .generate), ("templates".toList, .templates),
    ("context".toList, .context), ("check".toList, .check), ("completions".toList, .completions)]

/-- The word that asks for help on commands. -/
def helpWord : Text :=
  "help".toList

/-- The arguments that a command takes. -/
def grammarOf : CommandName → Grammar
  | .generate =>
    ⟨sharedOptions ++ projectOptions ++ selectionOptions ++ generateOptions, none⟩
  | .templates => ⟨sharedOptions ++ projectOptions, none⟩
  | .context =>
    ⟨sharedOptions ++ projectOptions ++
      [⟨"table".toList, some 't', .text⟩, ⟨"entity".toList, some 'e', .text⟩], none⟩
  | .check => ⟨sharedOptions ++ projectOptions ++ selectionOptions, none⟩
  | .completions => ⟨sharedOptions, some (longOnly .shell "shell".toList)⟩

/-- The arguments before the name of a command. -/
def outerGrammar : Grammar :=
  ⟨sharedOptions ++ [⟨"version".toList, some 'V', .version⟩], none⟩

/-- The values given for an option, in order. -/
def valuesOf (given : List Given) (long : Text) : List Text :=
  (given.filter (·.rule.long == long)).map (·.value)

/-- The value given for an option. -/
def value? (given : List Given) (long : Text) : Option Text :=
  (valuesOf given long).head?

/-- The path given for an option. -/
def path? (given : List Given) (long : Text) : Option Path :=
  (value? given long).map Path.mk

/-- Whether a flag is given. -/
def isGiven (given : List Given) (long : Text) : Bool :=
  !(valuesOf given long).isEmpty

/-- Options with one value per category. -/
def byCategory {α : Type} (value : Category → α) : ByCategory α :=
  ⟨value .entity, value .repository, value .usecase, value .handler, value .payload⟩

/-- The places of a project that options give. -/
def projectOf (given : List Given) : ProjectOptions where
  config := path? given "config".toList
  target := path? given "target".toList
  migration := path? given "migration-file".toList
  templates := path? given "templates".toList

/-- The selection of tables that options give. -/
def selectionOf (given : List Given) : SelectionOptions where
  tables := valuesOf given "table".toList
  entities := valuesOf given "entity".toList

/-- The command of this name with the options given for it. -/
def commandOf (name : CommandName) (given : List Given) : Except UsageError Command :=
  match name with
  | .generate =>
    .ok <| .generate
      { project := projectOf given
        selection := selectionOf given
        directories := byCategory fun category => path? given (directoryOption category)
        skipped := byCategory fun category => isGiven given (skipOption category)
        keepsExisting := isGiven given "keep-existing".toList
        strict := isGiven given "strict".toList
        dryRun := isGiven given "dry-run".toList }
  | .templates => .ok (.templates (projectOf given))
  | .context =>
    match value? given "table".toList with
    | some table => .ok (.context (projectOf given) table (value? given "entity".toList))
    | none => .error .missingArgument
  | .check => .ok (.check (projectOf given) (selectionOf given))
  | .completions =>
    match (value? given "shell".toList).bind shellNamed? with
    | some shell => .ok (.completions shell)
    | none => .error .missingArgument

/-- The greatest verbosity. -/
def greatestVerbosity : Nat :=
  255

/-- How often more is asked to be told. -/
def verbosityOf (given : List Given) : Nat :=
  min (valuesOf given "verbose".toList).length greatestVerbosity

/-- What the arguments after the word for help ask for. -/
def helpOn (arguments : List Text) : UsageError :=
  match arguments with
  | [] => .help
  | [name] =>
    if name = helpWord || (commandNames.lookup name).isSome then .help else .unknownCommand
  | _ => .unknownCommand

/-- The invocation of a command with its arguments, after options that were given before it. -/
def invocationOf (outer : List Given) (name : CommandName) (arguments : List Text) :
    Except UsageError Invocation := do
  let given ← givenBy (grammarOf name) arguments
  let command ← commandOf name given
  let verbosity := if isGiven given "verbose".toList then verbosityOf given else verbosityOf outer
  .ok ⟨command, verbosity⟩

/-- Whether a word stands where a command is named. -/
def isCommandWord (word : Text) : Bool :=
  word = helpWord || (commandNames.lookup word).isSome

/-- What a command line asks for, after what was read before the name of a command. -/
def parseFrom : (reading : Reading) → List Text → Except UsageError Invocation
  | reading, [] => if reading.given.isEmpty then .error .nothingAsked else .error .missingCommand
  | reading, argument :: arguments =>
    if reading.optionsEnded then
      if isCommandWord argument then .error .unknownArgument else .error .unknownCommand
    else if argument = helpWord then
      .error (helpOn arguments)
    else
      match commandNames.lookup argument with
      | some name => invocationOf reading.given name arguments
      | none =>
        match argument with
        | '-' :: _ :: _ => do
          let reading ← reading.argument outerGrammar argument
          parseFrom reading arguments
        | _ => .error .unknownCommand

/-- What a command line asks for. -/
def parse (arguments : List Text) : Except UsageError Invocation :=
  parseFrom Reading.start arguments

end Arguments

end Scaffold
