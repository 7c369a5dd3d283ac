import Scaffold.ByCategory
import Scaffold.Path

/-!
# Commands

What a command line can ask for. Every command works on a project, whose places can be given by
options; the commands that generate or check code also take a selection of tables; and generation
has options that go beyond what a manifest says.
-/

namespace Scaffold

/-- Where a project is, as far as options say. -/
structure ProjectOptions where
  config : Option Path
  target : Option Path
  migration : Option Path
  templates : Option Path
  deriving DecidableEq

/-- The tables that options select, and the names of their entities in the same order. -/
structure SelectionOptions where
  tables : List Text
  entities : List Text
  deriving DecidableEq

/-- The options of a generation. -/
structure GenerateOptions where
  project : ProjectOptions
  selection : SelectionOptions
  directories : ByCategory (Option Path)
  skipped : ByCategory Bool
  keepsExisting : Bool
  strict : Bool
  dryRun : Bool
  deriving DecidableEq

/-- The shells that completions can be written for. -/
inductive Shell where
  | bash
  | elvish
  | fish
  | powershell
  | zsh
  deriving DecidableEq, Repr

/-- What is to be done. -/
inductive Command where
  | generate (options : GenerateOptions)
  | templates (project : ProjectOptions)
  | context (project : ProjectOptions) (table : Text) (entity : Option Text)
  | check (project : ProjectOptions) (selection : SelectionOptions)
  | completions (shell : Shell)
  deriving DecidableEq

/-- What is to be done and how much is told about it. -/
structure Invocation where
  command : Command
  verbosity : Nat
  deriving DecidableEq

end Scaffold
