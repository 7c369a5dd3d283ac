import Scaffold.Category

/-!
# Values by category

A setting that every named category has for itself: an output directory, a skip flag, or one of
these that may be absent. The category `other` has no such setting; reading it gives nothing and
setting it changes nothing. Setting one category never changes another (`get?_set_of_ne`).
-/

namespace Scaffold

/-- One value for each named category. -/
structure ByCategory (α : Type) where
  entity : α
  repository : α
  usecase : α
  handler : α
  payload : α
  deriving DecidableEq

namespace ByCategory

variable {α β : Type}

/-- The same value for every named category. -/
def constant (value : α) : ByCategory α :=
  ⟨value, value, value, value, value⟩

/-- The value of a category, if it is a named one. -/
def get? (values : ByCategory α) : Category → Option α
  | .entity => some values.entity
  | .repository => some values.repository
  | .usecase => some values.usecase
  | .handler => some values.handler
  | .payload => some values.payload
  | .other => none

/-- The values with the one of a category replaced. -/
def set (values : ByCategory α) (category : Category) (value : α) : ByCategory α :=
  match category with
  | .entity => { values with entity := value }
  | .repository => { values with repository := value }
  | .usecase => { values with usecase := value }
  | .handler => { values with handler := value }
  | .payload => { values with payload := value }
  | .other => values

/-- Two settings combined category by category. -/
def zipWith
    {γ : Type}
    (combine : α → β → γ)
    (left : ByCategory α)
    (right : ByCategory β) :
    ByCategory γ :=
  ⟨combine left.entity right.entity, combine left.repository right.repository,
    combine left.usecase right.usecase, combine left.handler right.handler,
    combine left.payload right.payload⟩

@[simp]
theorem get?_constant
    (value : α)
    (category : Category)
    (named : category ≠ .other) :
    (constant value).get? category = some value := by
  cases category <;> first | rfl | exact absurd rfl named

theorem get?_zipWith
    {γ : Type}
    (combine : α → β → γ)
    (left : ByCategory α)
    (right : ByCategory β)
    (category : Category) :
    (zipWith combine left right).get? category =
      (left.get? category).bind fun first => (right.get? category).map (combine first) := by
  cases category <;> rfl

@[simp]
theorem get?_other
    (values : ByCategory α) :
    values.get? .other = none :=
  rfl

@[simp]
theorem set_other
    (values : ByCategory α)
    (value : α) :
    values.set .other value = values :=
  rfl

theorem get?_set_self
    (values : ByCategory α)
    (category : Category)
    (value : α)
    (named : category ≠ .other) :
    (values.set category value).get? category = some value := by
  cases category <;> first | rfl | exact absurd rfl named

theorem get?_set_of_ne
    (values : ByCategory α)
    (category changed : Category)
    (value : α)
    (different : category ≠ changed) :
    (values.set changed value).get? category = values.get? category := by
  cases changed <;> cases category <;> first | rfl | exact absurd rfl different

end ByCategory

end Scaffold
