import Scaffold.Text.Basic

/-!
# Categories

A template belongs to a functional category, which its name announces by a prefix. The category
decides whether the template is skipped and where its output goes when the template does not say.
Five categories have settings of their own; a template whose name announces none of them belongs to
`other`, which has no settings.
-/

namespace Scaffold

/-- The functional category of a template. -/
inductive Category where
  | entity
  | repository
  | usecase
  | handler
  | payload
  | other
  deriving DecidableEq, Repr

namespace Category

/-- The categories that settings can name, in their fixed order. -/
def named : List Category :=
  [entity, repository, usecase, handler, payload]

/-- Every category, in the fixed order. -/
def all : List Category :=
  named ++ [other]

/-- The prefix that announces a category, which is also its key in settings. -/
def label : Category → Text
  | entity => "entity".toList
  | repository => "repository".toList
  | usecase => "usecase".toList
  | handler => "handler".toList
  | payload => "payload".toList
  | other => "other".toList

/-- The category that a template name announces. -/
def ofTemplateName (name : Text) : Category :=
  (named.find? fun category => category.label.isPrefixOf name).getD other

/-- The category with exactly this label. -/
def ofLabel? (label : Text) : Option Category :=
  all.find? fun category => category.label == label

@[simp]
theorem ofLabel?_label
    (category : Category) :
    ofLabel? category.label = some category := by
  cases category <;> decide

end Category

end Scaffold
