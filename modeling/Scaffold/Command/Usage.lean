import Scaffold.Command.Arguments

/-!
# Usage

What is told when a command line is not carried out as a command: the version, an overview of the
commands with their options, or what is wrong with the arguments.
-/

namespace Scaffold.UsageError

/-- The name and the version of the program. -/
def versionLine : Text :=
  "crudgen 0.1.0".toList

/-- An option as it is written on a command line. -/
def optionLine (rule : Arguments.OptionRule) : Text :=
  let short :=
    match rule.short with
    | some name => '-' :: name :: ", ".toList
    | none => "    ".toList
  let value := if rule.kind.takesValue then " <VALUE>".toList else []
  "      ".toList ++ short ++ "--".toList ++ rule.long ++ value

/-- A command with its operand and its options. -/
def commandLines (name : Text) (grammar : Arguments.Grammar) : List Text :=
  let operand :=
    match grammar.operand with
    | some rule => " <".toList ++ rule.long ++ ['>']
    | none => []
  ("  ".toList ++ name ++ operand) :: grammar.options.map optionLine

/-- The commands and their options. -/
def overview : List Text :=
  ["Usage: crudgen [OPTIONS] <COMMAND>".toList, [], "Options:".toList] ++
    Arguments.outerGrammar.options.map optionLine ++ [[], "Commands:".toList] ++
    Arguments.commandNames.flatMap fun (name, command) =>
      commandLines name (Arguments.grammarOf command)

/-- What is wrong with a command line. -/
def complaint : UsageError → Text
  | help | version | nothingAsked => []
  | missingCommand => "a command is required".toList
  | unknownCommand => "there is no such command".toList
  | unknownArgument => "unexpected argument".toList
  | unexpectedValue => "an option that takes no value has one".toList
  | repeatedOption => "an option is given more than once".toList
  | badValue => "a value is missing or not acceptable".toList
  | missingArgument => "a required argument is missing".toList

/-- What is told about a command line that is not carried out as a command. -/
def lines (error : UsageError) : List Text :=
  match error with
  | help | nothingAsked => overview
  | version => [versionLine]
  | mistake =>
    ["error: ".toList ++ mistake.complaint, [], "For more information, try '--help'.".toList]

end Scaffold.UsageError
