import Scaffold.Proofs.GenerationWrites
import Scaffold.Template.Discovery

/-!
# Adding templates to a set

Adding a template registers its body under its name and each of its directives under the name and
the keyword of the directive, and touches no other key. It succeeds when all of them are stencils,
whatever the set holds already. The name of a template never ends in the keyword of a directive, so
templates of different names share no key: after templates of different names were added to a set
one after the other, each of them still has its stencils (`HoldsStencils`), and they stand behind
those of the set in the order in which they were added.
-/

namespace Scaffold

theorem RegisteredStencil.source_of_ofSource?
    {source : Text}
    {stencil : RegisteredStencil}
    (reads : RegisteredStencil.ofSource? source = some stencil) :
    stencil.source = source := by
  rw [ofSource?] at reads
  split at reads
  · cases reads
    rfl
  · cases reads

theorem RegisteredStencil.isSome_ofSource?
    (source : Text) :
    (RegisteredStencil.ofSource? source).isSome = (Stencil.ofSource? source).isSome := by
  rw [ofSource?]
  split
  next reads => exact (congrArg Option.isSome reads).symm
  next fails => exact (congrArg Option.isSome fails).symm

/-- The body and the directives of a template are stencils. -/
structure Template.IsFillable (template : Template) : Prop where
  body : (Stencil.ofSource? template.body).isSome = true
  directive :
    ∀ directive source,
      template.directive directive = some source → (Stencil.ofSource? source).isSome = true

namespace TemplateSet

/-! ## Registering a text -/

variable {set next : TemplateSet}

/-- What registering a text under a key does to a set. -/
structure Registers (set next : TemplateSet) (key source : Text) : Prop where
  templates : next.templates = set.templates
  strict : next.strict = set.strict
  here : (next.registered? key).map (·.source) = some source
  elsewhere : ∀ other, other ≠ key → next.registered? other = set.registered? other

theorem registers_of_register
    {template key source : Text}
    (succeeds : set.register template key source = .ok next) :
    Registers set next key source := by
  rw [register] at succeeds
  split at succeeds
  next stencil reads =>
    cases succeeds
    constructor
    case templates => rfl
    case strict => rfl
    case here =>
      rw [registered?, List.lookup_cons_self, Option.map_some,
        RegisteredStencil.source_of_ofSource? reads]
    case elsewhere =>
      intro other apart
      rw [registered?, List.lookup_cons, beq_eq_false_iff_ne.mpr apart]
      rfl
  · cases succeeds

theorem exists_register_iff
    (set : TemplateSet)
    (template key source : Text) :
    (∃ next, set.register template key source = .ok next) ↔
      (Stencil.ofSource? source).isSome = true := by
  rw [← RegisteredStencil.isSome_ofSource?, register]
  cases RegisteredStencil.ofSource? source with
  | none => simp
  | some stencil => simp

/-- A directive is registered when the template has it. -/
theorem registers_of_registerDirective
    {template : Template}
    {directive : Directive}
    (succeeds : set.registerDirective template directive = .ok next) :
    (template.directive directive = none ∧ next = set) ∨
      ∃ source,
        template.directive directive = some source ∧
          Registers set next (directiveKey template.name directive) source := by
  rw [registerDirective] at succeeds
  split at succeeds
  next source gives => exact Or.inr ⟨source, gives, registers_of_register succeeds⟩
  next none =>
    cases succeeds
    exact Or.inl ⟨none, rfl⟩

theorem exists_registerDirective_iff
    (set : TemplateSet)
    (template : Template)
    (directive : Directive) :
    (∃ next, set.registerDirective template directive = .ok next) ↔
      ∀ source,
        template.directive directive = some source → (Stencil.ofSource? source).isSome = true := by
  rw [registerDirective]
  split
  next source gives =>
    rw [exists_register_iff, gives]
    simp
  next none =>
    rw [none]
    simp

/-! ## The keys of a template -/

/-- A key that the template of a name registers a text under. -/
def IsKeyOf (name key : Text) : Prop :=
  key = name ∨ ∃ directive, key = directiveKey name directive

/-- A name with one of the extensions of templates. -/
def IsTemplateName (name : Text) : Prop :=
  ∃ extension ∈ extensions, (Path.splitAtDot name).2 = some extension

instance (name : Text) : Decidable (IsTemplateName name) :=
  inferInstanceAs (Decidable (∃ extension ∈ extensions, (Path.splitAtDot name).2 = some extension))

theorem isSuffix_of_splitAtDot
    {name extension : Text}
    (parted : (Path.splitAtDot name).2 = some extension) :
    extension <:+ name := by
  rw [Path.splitAtDot] at parted
  split at parted
  · cases parted
  · cases parted
    rw [← List.reverse_prefix, List.reverse_reverse]
    exact List.takeWhile_prefix _

/-- The last character of the keyword of a directive. -/
def lastOfKeyword : Directive → Char
  | .path => 'h'
  | .fileName => 'e'

theorem getLast?_directiveKey
    (template : Text)
    (directive : Directive) :
    (directiveKey template directive).getLast? = some (lastOfKeyword directive) := by
  have ends : directive.keyword.getLast? = some (lastOfKeyword directive) := by
    cases directive with
    | path => decide
    | fileName => decide
  rw [directiveKey, List.getLast?_append, ends, Option.some_or]

/-- A name that does not end in the keyword of a directive. -/
def IsUnmarked (name : Text) : Prop :=
  ∀ directive : Directive, ¬ directive.keyword <:+ name

theorem IsUnmarked.ne_directiveKey
    {name : Text}
    (unmarked : IsUnmarked name)
    (other : Text)
    (directive : Directive) :
    name ≠ directiveKey other directive := by
  rintro rfl
  exact unmarked directive (List.suffix_append other directive.keyword)

/-- The extensions of templates end in other characters than the keywords of directives. -/
theorem IsTemplateName.isUnmarked
    {name : Text}
    (named : IsTemplateName name) :
    IsUnmarked name := by
  rintro directive ⟨other, rfl⟩
  rcases named with ⟨extension, isMember, parted⟩
  rcases isSuffix_of_splitAtDot parted with ⟨before, order⟩
  have ends := congrArg List.getLast? order
  rw [← directiveKey, getLast?_directiveKey, List.getLast?_append] at ends
  have foreign :
      ∀ extension ∈ extensions, ∃ last,
        extension.getLast? = some last ∧ last ≠ 'h' ∧ last ≠ 'e' := by
    intro extension isMember
    rcases List.mem_pair.mp isMember with rfl | rfl
    · exact ⟨'l', by decide⟩
    · exact ⟨'s', by decide⟩
  rcases foreign extension isMember with ⟨last, isLast, notPath, notFileName⟩
  rw [isLast, Option.some_or, Option.some.injEq] at ends
  cases directive with
  | path => exact notPath ends
  | fileName => exact notFileName ends

theorem directiveKey_inj
    {name other : Text}
    {directive otherDirective : Directive}
    (same : directiveKey name directive = directiveKey other otherDirective) :
    name = other ∧ directive = otherDirective := by
  have ends := congrArg List.getLast? same
  rw [getLast?_directiveKey, getLast?_directiveKey, Option.some.injEq] at ends
  have sameDirective : directive = otherDirective := by
    cases directive with
    | path =>
      cases otherDirective with
      | path => rfl
      | fileName => cases ends
    | fileName =>
      cases otherDirective with
      | path => cases ends
      | fileName => rfl
  subst sameDirective
  exact ⟨List.append_cancel_right same, rfl⟩

/-- Templates of different names have no key in common. -/
theorem IsKeyOf.unique
    {name other key : Text}
    (unmarked : IsUnmarked name)
    (otherUnmarked : IsUnmarked other)
    (isKey : IsKeyOf name key)
    (otherIsKey : IsKeyOf other key) :
    name = other := by
  rcases isKey with rfl | ⟨directive, rfl⟩
  · rcases otherIsKey with same | ⟨directive, same⟩
    · exact same
    · exact absurd same (unmarked.ne_directiveKey other directive)
  · rcases otherIsKey with same | ⟨otherDirective, same⟩
    · exact absurd same.symm (otherUnmarked.ne_directiveKey name directive)
    · exact (directiveKey_inj same).1

/-! ## Adding a template -/

/-- The texts of a template are registered under its keys. -/
structure HoldsStencils (set : TemplateSet) (template : Template) : Prop where
  body : (set.registered? template.name).map (·.source) = some template.body
  directive :
    ∀ directive source,
      template.directive directive = some source →
        (set.registered? (directiveKey template.name directive)).map (·.source) = some source

/-- What adding a template does to a set. -/
structure Inserts (set next : TemplateSet) (template : Template) : Prop where
  templates : next.templates = placed template set.templates
  strict : next.strict = set.strict
  holds : next.HoldsStencils template
  elsewhere :
    ∀ key, ¬ IsKeyOf template.name key → next.registered? key = set.registered? key

theorem insert_eq_ok_iff
    (set next : TemplateSet)
    (template : Template) :
    set.insert template = .ok next ↔
      ∃ withBody withPath withFileName,
        set.register template.name template.name template.body = .ok withBody ∧
          withBody.registerDirective template .path = .ok withPath ∧
          withPath.registerDirective template .fileName = .ok withFileName ∧
          next = { withFileName with templates := placed template withFileName.templates } := by
  rw [insert]
  simp only [bind, bind_eq_ok_iff, Except.ok.injEq]
  constructor
  · rintro ⟨withBody, body, withPath, path, withFileName, fileName, rfl⟩
    exact ⟨withBody, withPath, withFileName, body, path, fileName, rfl⟩
  · rintro ⟨withBody, withPath, withFileName, body, path, fileName, rfl⟩
    exact ⟨withBody, body, withPath, path, withFileName, fileName, rfl⟩

/-- What registering a directive does not do. -/
theorem registerDirective_keeps
    {template : Template}
    {directive : Directive}
    (succeeds : set.registerDirective template directive = .ok next) :
    next.templates = set.templates ∧
      next.strict = set.strict ∧
      ∀ key,
        key ≠ directiveKey template.name directive →
          next.registered? key = set.registered? key := by
  rcases registers_of_registerDirective succeeds with ⟨-, rfl⟩ | ⟨source, -, registers⟩
  · exact ⟨rfl, rfl, fun key _ => rfl⟩
  · exact ⟨registers.templates, registers.strict, registers.elsewhere⟩

theorem registered?_directiveKey
    {template : Template}
    {directive : Directive}
    (succeeds : set.registerDirective template directive = .ok next)
    {source : Text}
    (gives : template.directive directive = some source) :
    (next.registered? (directiveKey template.name directive)).map (·.source) = some source := by
  rcases registers_of_registerDirective succeeds with ⟨none, -⟩ | ⟨other, given, registers⟩
  · rw [none] at gives
    cases gives
  · rw [given] at gives
    cases gives
    exact registers.here

theorem inserts_of_insert
    {template : Template}
    (unmarked : IsUnmarked template.name)
    (succeeds : set.insert template = .ok next) :
    Inserts set next template := by
  rcases (insert_eq_ok_iff set next template).mp succeeds with
    ⟨withBody, withPath, withFileName, body, path, fileName, rfl⟩
  have registersBody := registers_of_register body
  rcases registerDirective_keeps path with ⟨pathTemplates, pathStrict, pathElsewhere⟩
  rcases registerDirective_keeps fileName with ⟨templates, strict, elsewhere⟩
  constructor
  case templates => rw [templates, pathTemplates, registersBody.templates]
  case strict => exact strict.trans (pathStrict.trans registersBody.strict)
  case holds =>
    constructor
    case body =>
      have kept : withFileName.registered? template.name = withBody.registered? template.name := by
        rw [elsewhere _ (unmarked.ne_directiveKey _ _),
          pathElsewhere _ (unmarked.ne_directiveKey _ _)]
      exact (congrArg (Option.map (·.source)) kept).trans registersBody.here
    case directive =>
      intro directive source gives
      cases directive with
      | path =>
        have apart :
            directiveKey template.name .path ≠ directiveKey template.name .fileName := by
          intro same
          cases (directiveKey_inj same).2
        have kept := elsewhere _ apart
        exact (congrArg (Option.map (·.source)) kept).trans (registered?_directiveKey path gives)
      | fileName => exact registered?_directiveKey fileName gives
  case elsewhere =>
    intro key foreign
    have apart : ∀ directive, key ≠ directiveKey template.name directive := by
      intro directive same
      exact foreign (Or.inr ⟨directive, same⟩)
    have other : key ≠ template.name := fun same => foreign (Or.inl same)
    exact
      (elsewhere key (apart .fileName)).trans
        ((pathElsewhere key (apart .path)).trans (registersBody.elsewhere key other))

/-- Whether a template can be added does not depend on the set. -/
theorem exists_insert_iff
    (set : TemplateSet)
    (template : Template) :
    (∃ next, set.insert template = .ok next) ↔ template.IsFillable := by
  simp only [insert_eq_ok_iff]
  constructor
  · rintro ⟨next, withBody, withPath, withFileName, body, path, fileName, -⟩
    constructor
    case body => exact (exists_register_iff set _ _ _).mp ⟨withBody, body⟩
    case directive =>
      intro directive
      cases directive with
      | path => exact (exists_registerDirective_iff withBody _ _).mp ⟨withPath, path⟩
      | fileName => exact (exists_registerDirective_iff withPath _ _).mp ⟨withFileName, fileName⟩
  · intro fillable
    rcases (exists_register_iff set template.name template.name _).mpr fillable.body with
      ⟨withBody, body⟩
    rcases
        (exists_registerDirective_iff withBody template .path).mpr (fillable.directive .path) with
      ⟨withPath, path⟩
    rcases
        (exists_registerDirective_iff withPath template .fileName).mpr
          (fillable.directive .fileName) with
      ⟨withFileName, fileName⟩
    exact ⟨_, withBody, withPath, withFileName, body, path, fileName, rfl⟩

/-! ## Adding one template after the other -/

theorem placed_of_fresh
    {template : Template}
    {templates : List Template}
    (fresh : template.name ∉ templates.map (·.name)) :
    placed template templates = templates ++ [template] := by
  induction templates with
  | nil => rfl
  | cons other others hypothesis =>
    rw [List.map_cons, List.mem_cons, not_or] at fresh
    rw [placed, if_neg (Ne.symm fresh.1), hypothesis fresh.2]
    rfl

theorem insertAll_cons_eq_ok_iff
    (set next : TemplateSet)
    (template : Template)
    (templates : List Template) :
    set.insertAll (template :: templates) = .ok next ↔
      ∃ between, set.insert template = .ok between ∧ between.insertAll templates = .ok next := by
  rw [insertAll]
  exact bind_eq_ok_iff _ _ _

theorem exists_insertAll_iff
    (set : TemplateSet)
    (templates : List Template) :
    (∃ next, set.insertAll templates = .ok next) ↔
      ∀ template ∈ templates, template.IsFillable := by
  induction templates generalizing set with
  | nil => simp [insertAll]
  | cons template templates hypothesis =>
    rw [List.forall_mem_cons, ← exists_insert_iff set]
    simp only [insertAll_cons_eq_ok_iff]
    constructor
    · rintro ⟨next, between, inserted, later⟩
      exact ⟨⟨between, inserted⟩, (hypothesis between).mp ⟨next, later⟩⟩
    · rintro ⟨⟨between, inserted⟩, fillable⟩
      rcases (hypothesis between).mpr fillable with ⟨next, later⟩
      exact ⟨next, between, inserted, later⟩

/-- What adding templates of different names to a set that has none of these names does. -/
structure InsertsAll (set next : TemplateSet) (added : List Template) : Prop where
  templates : next.templates = set.templates ++ added
  strict : next.strict = set.strict
  holds : ∀ template ∈ added, next.HoldsStencils template
  elsewhere :
    ∀ key,
      (∀ template ∈ added, ¬ IsKeyOf template.name key) →
        next.registered? key = set.registered? key

/-- What is registered for a template stays registered as long as its keys are not touched. -/
theorem HoldsStencils.kept
    {template : Template}
    (holds : set.HoldsStencils template)
    (kept : ∀ key, IsKeyOf template.name key → next.registered? key = set.registered? key) :
    next.HoldsStencils template := by
  constructor
  case body =>
    rw [kept _ (Or.inl rfl)]
    exact holds.body
  case directive =>
    intro directive source gives
    rw [kept _ (Or.inr ⟨directive, rfl⟩)]
    exact holds.directive directive source gives

theorem insertsAll_of_insertAll
    {templates : List Template}
    (distinct : (set.templates ++ templates).Pairwise (·.name ≠ ·.name))
    (unmarked : ∀ template ∈ templates, IsUnmarked template.name)
    (succeeds : set.insertAll templates = .ok next) :
    InsertsAll set next templates := by
  induction templates generalizing set with
  | nil =>
    cases succeeds
    constructor
    case templates => exact (List.append_nil _).symm
    case strict => rfl
    case holds => simp
    case elsewhere => exact fun key _ => rfl
  | cons template templates hypothesis =>
    rw [List.forall_mem_cons] at unmarked
    rcases (insertAll_cons_eq_ok_iff set next template templates).mp succeeds with
      ⟨between, inserted, later⟩
    have inserts := inserts_of_insert unmarked.1 inserted
    have fresh : template.name ∉ set.templates.map (·.name) := by
      intro isMember
      rcases List.mem_map.mp isMember with ⟨other, isOther, same⟩
      exact (List.pairwise_append.mp distinct).2.2 other isOther template List.mem_cons_self same
    have placedLast : between.templates = set.templates ++ [template] := by
      rw [inserts.templates, placed_of_fresh fresh]
    have others :=
      hypothesis (by rw [placedLast, List.append_assoc]; exact distinct) unmarked.2 later
    have apart : ∀ other ∈ templates, template.name ≠ other.name :=
      (List.pairwise_cons.mp (List.pairwise_append.mp distinct).2.1).1
    constructor
    case templates => rw [others.templates, placedLast, List.append_assoc, List.singleton_append]
    case strict => rw [others.strict, inserts.strict]
    case holds =>
      rw [List.forall_mem_cons]
      -- the later templates have other names, so they touch none of the keys of this one
      refine ⟨inserts.holds.kept ?_, others.holds⟩
      intro key isKey
      apply others.elsewhere
      intro other isMember otherIsKey
      exact apart other isMember (isKey.unique unmarked.1 (unmarked.2 other isMember) otherIsKey)
    case elsewhere =>
      intro key foreign
      rw [List.forall_mem_cons] at foreign
      rw [others.elsewhere key foreign.2, inserts.elsewhere key foreign.1]

end TemplateSet

end Scaffold
