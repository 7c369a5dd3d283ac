import Scaffold.Category
import Scaffold.Diagnostic
import Scaffold.Template.Header

/-!
# Templates

A template has a name, which announces its category, a body, and the expressions of its directives.
A source without a body is no template.
-/

namespace Scaffold

/-- A template as it was read. -/
structure Template where
  name : Text
  body : Text
  path : Option Text
  fileName : Option Text
  deriving DecidableEq

namespace Template

/-- The category that the name announces. -/
def category (template : Template) : Category :=
  Category.ofTemplateName template.name

/-- The expression of a directive. -/
def directive (template : Template) : Directive → Option Text
  | .path => template.path
  | .fileName => template.fileName

/-- Whether the header gives a directive. -/
def hasDirectives (template : Template) : Bool :=
  template.path.isSome || template.fileName.isSome

/-- The template of this name and source, if the source has a body. -/
def ofSource? (name source : Text) : Option Template :=
  let parts := partsOf source
  if parts.body.isEmpty then
    none
  else
    some ⟨name, parts.body, parts.path, parts.fileName⟩

end Template

end Scaffold
