import Scaffold.Category
import Scaffold.Path
import Scaffold.Table

/-!
# Reports of generation

What a template gave for a table, and what became of every template of a set. A report lists one
outcome per template, in the order of the set.
-/

namespace Scaffold

/-- A rendered template and where it belongs. -/
structure GeneratedFile where
  template : Text
  category : Category
  path : Path
  content : Text
  deriving DecidableEq

/-- What became of a template. -/
inductive Outcome where
  /-- It was rendered and written. -/
  | written (path : Path)
  /-- It was rendered, but an existing file was kept. -/
  | kept (path : Path)
  /-- Its category is skipped. -/
  | skipped
  deriving DecidableEq

/-- A template and what became of it. -/
structure TemplateOutcome where
  template : Text
  category : Category
  outcome : Outcome
  deriving DecidableEq

/-- What became of the templates for a target. -/
structure Report where
  target : Target
  outcomes : List TemplateOutcome
  deriving DecidableEq

namespace Report

/-- The paths of the files that were written. -/
def written (report : Report) : List Path :=
  report.outcomes.filterMap fun entry =>
    match entry.outcome with
    | .written path => some path
    | _ => none

/-- The paths of the files that were kept. -/
def kept (report : Report) : List Path :=
  report.outcomes.filterMap fun entry =>
    match entry.outcome with
    | .kept path => some path
    | _ => none

/-- The templates that were skipped. -/
def skipped (report : Report) : List Text :=
  report.outcomes.filterMap fun entry =>
    match entry.outcome with
    | .skipped => some entry.template
    | _ => none

end Report

end Scaffold
