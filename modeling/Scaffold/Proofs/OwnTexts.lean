import Scaffold.Proofs.TemplateLoading

/-!
# Templates render from their own texts

A set keeps its templates and its stencils apart. A template that is added again takes the place of
the one of its name, while the stencils of both stay among the registered ones, and the keys of
bodies and directives are made from the same names. Still every template of a set is rendered from
its own texts, as long as no name ends in the keyword of a directive: each name has one template,
and what is registered under the keys of that template are its body and the directives it has
(`IsConsistent`). Adding a template keeps this, because the keys of other names are other keys. A
directive that only a replaced template had remains registered, but is not asked for.
-/

namespace Scaffold.TemplateSet

variable {set next : TemplateSet}

/-! ## The last entry of a name -/

section Latest

variable {α : Type} (name : α → Text)

/-- An entry of a list that no other entry of its name follows. -/
def IsLatest (entries : List α) (entry : α) : Prop :=
  ∃ before after, entries = before ++ entry :: after ∧ name entry ∉ after.map name

theorem isLatest_cons_iff
    (first : α)
    (entries : List α)
    (entry : α) :
    IsLatest name (first :: entries) entry ↔
      IsLatest name entries entry ∨ entry = first ∧ name entry ∉ entries.map name := by
  constructor
  · rintro ⟨before, after, order, last⟩
    cases before with
    | nil =>
      cases order
      exact Or.inr ⟨rfl, last⟩
    | cons head before =>
      rw [List.cons_append, List.cons.injEq] at order
      exact Or.inl ⟨before, after, order.2, last⟩
  · rintro (⟨before, after, rfl, last⟩ | ⟨rfl, last⟩)
    · exact ⟨first :: before, after, rfl, last⟩
    · exact ⟨[], entries, rfl, last⟩

theorem isLatest_iff_getLast?_filter
    (entries : List α)
    (entry : α) :
    IsLatest name entries entry ↔
      (entries.filter (name · == name entry)).getLast? = some entry := by
  rw [List.getLast?_eq_head?_reverse, ← List.filter_reverse, List.head?_filter,
    List.find?_eq_some_iff_append]
  simp only [BEq.rfl, true_and, Bool.not_eq_true', beq_eq_false_iff_ne]
  constructor
  · rintro ⟨before, after, rfl, last⟩
    exact ⟨after.reverse, before.reverse, by simp, by simpa using last⟩
  · rintro ⟨after, before, order, last⟩
    refine ⟨before.reverse, after.reverse, ?_, by simpa using last⟩
    rw [← List.reverse_inj, order]
    simp

/-- Every name in a list has a last entry. -/
theorem exists_isLatest
    {entries : List α}
    {entry : α}
    (isMember : entry ∈ entries) :
    ∃ latest, IsLatest name entries latest ∧ name latest = name entry := by
  have named : entry ∈ entries.filter (name · == name entry) :=
    List.mem_filter.mpr ⟨isMember, BEq.rfl⟩
  cases ends : (entries.filter (name · == name entry)).getLast? with
  | none =>
    rw [List.getLast?_eq_none_iff] at ends
    exact absurd (ends ▸ named) List.not_mem_nil
  | some latest =>
    have same : name latest = name entry := by
      simpa using (List.mem_filter.mp (List.mem_of_getLast? ends)).2
    refine ⟨latest, (isLatest_iff_getLast?_filter name entries latest).mpr ?_, same⟩
    rw [same]
    exact ends

end Latest

/-- Sorting by name does not change which template of a name is the last. -/
theorem isLatest_ordered_iff
    (templates : List Template)
    (template : Template) :
    IsLatest Template.name (ordered templates) template ↔
      IsLatest Template.name templates template := by
  have named :
      (templates.filter (·.name == template.name)).Sublist
        ((ordered templates).filter (·.name == template.name)) := by
    have inOrder :
        (templates.filter (·.name == template.name)).Pairwise
          fun left right => Text.precedes left.name right.name := by
      apply List.pairwise_of_forall_mem_list
      intro left isLeft right isRight
      rw [List.mem_filter, beq_iff_eq] at isLeft isRight
      rw [precedes_iff, isLeft.2, isRight.2]
      exact List.lt_irrefl template.name
    have kept : (templates.filter (·.name == template.name)).Sublist (ordered templates) := by
      apply List.sublist_mergeSort ?_ ?_ inOrder List.filter_sublist
      · intro first second third
        exact precedes_trans
      · intro first second
        exact precedes_total first.name second.name
    simpa using kept.filter (·.name == template.name)
  have complete :
      ((ordered templates).filter (·.name == template.name)).length =
        (templates.filter (·.name == template.name)).length :=
    ((List.mergeSort_perm templates _).filter _).length_eq
  rw [isLatest_iff_getLast?_filter, isLatest_iff_getLast?_filter,
    named.eq_of_length complete.symm]

/-- The last template of a name is that of the last source of this name. -/
theorem isLatest_iff_of_parses
    {sources : List (Text × Text)}
    {templates : List Template}
    (parsed : List.Forall₂ Parses sources templates)
    (template : Template) :
    IsLatest Template.name templates template ↔
      ∃ source, IsLatest Prod.fst sources source ∧ Parses source template := by
  induction parsed with
  | nil => simp [IsLatest]
  | @cons source first sources templates parses parsed hypothesis =>
    simp only [isLatest_cons_iff, hypothesis]
    constructor
    · rintro (⟨later, isLatest, parsesLater⟩ | ⟨rfl, last⟩)
      · exact ⟨later, Or.inl isLatest, parsesLater⟩
      · rw [map_name_of_parses parsed, name_of_ofSource? parses] at last
        exact ⟨source, Or.inr ⟨rfl, last⟩, parses⟩
    · rintro ⟨later, isLatest | ⟨rfl, last⟩, parsesLater⟩
      · exact Or.inl ⟨later, isLatest, parsesLater⟩
      · rw [← map_name_of_parses parsed, ← name_of_ofSource? parsesLater] at last
        rw [Parses] at parses parsesLater
        rw [parses, Option.some.injEq] at parsesLater
        exact Or.inr ⟨parsesLater.symm, last⟩

/-- All files of a name have one text, so the last template of a name is any. -/
theorem isLatest_iff_of_reads
    {disk : Disk}
    {directory : Path}
    {names : List Text}
    {templates : List Template}
    (reads : List.Forall₂ (Reads disk directory) names templates)
    (template : Template) :
    IsLatest Template.name templates template ↔
      ∃ name ∈ names, Reads disk directory name template := by
  have named {name : Text} {template : Template} (read : Reads disk directory name template) :
      template.name = name := by
    rcases read with ⟨source, -, parses⟩
    exact name_of_ofSource? parses
  constructor
  · rintro ⟨before, after, rfl, -⟩
    exact exists_mem_of_forall₂ reads.flip (List.mem_append_right before List.mem_cons_self)
  · rintro ⟨name, isListed, read⟩
    rcases exists_mem_of_forall₂ reads isListed with ⟨other, isMember, readOther⟩
    rcases exists_isLatest Template.name isMember with ⟨latest, isLatest, same⟩
    rcases isLatest with ⟨before, after, rfl, last⟩
    rcases exists_mem_of_forall₂ reads.flip (List.mem_append_right before List.mem_cons_self) with
      ⟨again, -, readLatest⟩
    rw [← named readLatest, same, named readOther] at readLatest
    rw [reads_unique read readLatest]
    exact ⟨before, after, rfl, last⟩

/-! ## Adding a template in the place of another -/

theorem names_placed
    (template : Template)
    (templates : List Template) :
    (placed template templates).map (·.name) =
      if template.name ∈ templates.map (·.name) then
        templates.map (·.name)
      else
        templates.map (·.name) ++ [template.name] := by
  induction templates with
  | nil => rfl
  | cons other others hypothesis =>
    rw [placed, List.map_cons]
    split
    next same => simp [same]
    next differ =>
      rw [List.map_cons, hypothesis]
      by_cases isMember : template.name ∈ others.map (·.name)
      · rw [if_pos isMember, if_pos (List.mem_cons_of_mem _ isMember)]
      · rw [if_neg isMember, if_neg]
        · rfl
        · rw [List.mem_cons, not_or]
          exact ⟨Ne.symm differ, isMember⟩

/-- The template that is added comes in the place of the one of its name. -/
theorem mem_placed_iff
    {templates : List Template}
    (once : (templates.map (·.name)).Nodup)
    (template other : Template) :
    other ∈ placed template templates ↔
      other = template ∨ other ∈ templates ∧ other.name ≠ template.name := by
  induction templates with
  | nil => simp [placed]
  | cons first others hypothesis =>
    rw [List.map_cons, List.nodup_cons] at once
    rw [placed]
    split
    next same =>
      have apart : other ∈ others → other.name ≠ template.name := by
        intro isMember equal
        apply once.1
        rw [same, ← equal]
        exact List.mem_map_of_mem isMember
      rw [List.mem_cons, List.mem_cons]
      constructor
      · rintro (rfl | isMember)
        · exact Or.inl rfl
        · exact Or.inr ⟨Or.inr isMember, apart isMember⟩
      · rintro (rfl | ⟨rfl | isMember, differ⟩)
        · exact Or.inl rfl
        · exact absurd same differ
        · exact Or.inr isMember
    next differ =>
      rw [List.mem_cons, List.mem_cons, hypothesis once.2]
      constructor
      · rintro (rfl | rfl | ⟨isMember, apart⟩)
        · exact Or.inr ⟨Or.inl rfl, differ⟩
        · exact Or.inl rfl
        · exact Or.inr ⟨Or.inr isMember, apart⟩
      · rintro (rfl | ⟨rfl | isMember, apart⟩)
        · exact Or.inr (Or.inl rfl)
        · exact Or.inl rfl
        · exact Or.inr (Or.inr ⟨isMember, apart⟩)

/-! ## Sets whose templates have their stencils -/

/-- Each name has one template, and what is registered under its keys are the texts of it. -/
structure IsConsistent (set : TemplateSet) : Prop where
  once : (set.templates.map (·.name)).Nodup
  unmarked : ∀ template ∈ set.templates, IsUnmarked template.name
  holds : ∀ template ∈ set.templates, set.HoldsStencils template

theorem isConsistent_empty
    (strict : Bool) :
    (empty strict).IsConsistent where
  once := List.nodup_nil
  unmarked := by simp [empty]
  holds := by simp [empty]

theorem IsConsistent.insert
    (consistent : set.IsConsistent)
    {template : Template}
    (unmarked : IsUnmarked template.name)
    (succeeds : set.insert template = .ok next) :
    next.IsConsistent := by
  have inserts := inserts_of_insert unmarked succeeds
  have members (other : Template) :
      other ∈ next.templates ↔
        other = template ∨ other ∈ set.templates ∧ other.name ≠ template.name := by
    rw [inserts.templates]
    exact mem_placed_iff consistent.once template other
  constructor
  case once =>
    rw [inserts.templates, names_placed]
    split
    · exact consistent.once
    next fresh => exact List.concat_eq_append ▸ consistent.once.concat fresh
  case unmarked =>
    intro other isMember
    rcases (members other).mp isMember with rfl | ⟨known, -⟩
    · exact unmarked
    · exact consistent.unmarked other known
  case holds =>
    intro other isMember
    rcases (members other).mp isMember with rfl | ⟨known, apart⟩
    · exact inserts.holds
    · apply (consistent.holds other known).kept
      intro key isKey
      apply inserts.elsewhere
      intro alsoKey
      exact apart (isKey.unique (consistent.unmarked other known) unmarked alsoKey)

theorem IsConsistent.insertAll
    (consistent : set.IsConsistent)
    {templates : List Template}
    (unmarked : ∀ template ∈ templates, IsUnmarked template.name)
    (succeeds : set.insertAll templates = .ok next) :
    next.IsConsistent := by
  induction templates generalizing set with
  | nil =>
    cases succeeds
    exact consistent
  | cons template templates hypothesis =>
    rw [List.forall_mem_cons] at unmarked
    rcases (insertAll_cons_eq_ok_iff set next template templates).mp succeeds with
      ⟨between, inserted, later⟩
    exact hypothesis (consistent.insert unmarked.1 inserted) unmarked.2 later

/-- After templates were added, a name has the last of them, or else the template it had. -/
theorem mem_insertAll_iff
    (consistent : set.IsConsistent)
    {templates : List Template}
    (unmarked : ∀ template ∈ templates, IsUnmarked template.name)
    (succeeds : set.insertAll templates = .ok next)
    (template : Template) :
    template ∈ next.templates ↔
      IsLatest Template.name templates template ∨
        template ∈ set.templates ∧ template.name ∉ templates.map (·.name) := by
  induction templates generalizing set with
  | nil =>
    cases succeeds
    simp [IsLatest]
  | cons first templates hypothesis =>
    rw [List.forall_mem_cons] at unmarked
    rcases (insertAll_cons_eq_ok_iff set next first templates).mp succeeds with
      ⟨between, inserted, later⟩
    have members := mem_placed_iff consistent.once first template
    rw [← (inserts_of_insert unmarked.1 inserted).templates] at members
    rw [hypothesis (consistent.insert unmarked.1 inserted) unmarked.2 later, members,
      isLatest_cons_iff, List.map_cons, List.mem_cons, not_or]
    constructor
    · rintro (isLatest | ⟨rfl | ⟨known, apart⟩, last⟩)
      · exact Or.inl (Or.inl isLatest)
      · exact Or.inl (Or.inr ⟨rfl, last⟩)
      · exact Or.inr ⟨known, apart, last⟩
    · rintro ((isLatest | ⟨rfl, last⟩) | ⟨known, apart, last⟩)
      · exact Or.inl isLatest
      · exact Or.inr ⟨Or.inl rfl, last⟩
      · exact Or.inr ⟨Or.inr ⟨known, apart⟩, last⟩

/-! ## Rendering -/

/-- Behind the key of a registered text stands its stencil, and the key is filled with it. -/
theorem fillKey_of_registered
    {key source : Text}
    (registered : (set.registered? key).map (·.source) = some source) :
    ∃ entry,
      set.registered? key = some entry ∧
        entry.source = source ∧
        Stencil.ofSource? source = some entry.stencil ∧
        ∀ data, set.fillKey data key = Stencil.fill (set.filling data) key entry.stencil := by
  rcases Option.map_eq_some_iff.mp registered with ⟨entry, found, rfl⟩
  refine ⟨entry, found, rfl, entry.isReading, ?_⟩
  intro data
  rw [fillKey, found]

theorem renderBody_eq_mapError
    (set : TemplateSet)
    (template : Template)
    (data : TableData) :
    set.renderBody template data =
      (set.fillKey data template.name).mapError
        (.bodyFailed template.name data.tableName) := by
  rw [renderBody]
  cases set.fillKey data template.name with
  | ok text => rfl
  | error cause => rfl

theorem renderDirective_eq_mapError
    {template : Template}
    {directive : Directive}
    {source : Text}
    (gives : template.directive directive = some source)
    (data : TableData) :
    set.renderDirective template directive data =
      ((set.fillKey data (directiveKey template.name directive)).map some).mapError
        (.directiveFailed template.name directive) := by
  rw [renderDirective, gives]
  dsimp only
  cases set.fillKey data (directiveKey template.name directive) with
  | ok text => rfl
  | error cause => rfl

/-- What a template of a set is rendered from. Its body stands registered under its name and is
rendered from the stencil of this entry, which is the one of the body. A directive that it has
stands registered under the key of the directive and is rendered from the stencil of the expression
that it gives. No other directive is rendered. -/
structure RendersOwnTexts (set : TemplateSet) (template : Template) : Prop where
  body :
    ∃ entry,
      set.registered? template.name = some entry ∧
        entry.source = template.body ∧
        Stencil.ofSource? template.body = some entry.stencil ∧
        ∀ data,
          set.renderBody template data =
            (Stencil.fill (set.filling data) template.name entry.stencil).mapError
              (.bodyFailed template.name data.tableName)
  absent :
    ∀ directive,
      template.directive directive = none →
        ∀ data, set.renderDirective template directive data = .ok none
  given :
    ∀ directive source,
      template.directive directive = some source →
        ∃ entry,
          set.registered? (directiveKey template.name directive) = some entry ∧
            entry.source = source ∧
            Stencil.ofSource? source = some entry.stencil ∧
            ∀ data,
              set.renderDirective template directive data =
                ((Stencil.fill (set.filling data) (directiveKey template.name directive)
                    entry.stencil).map some).mapError
                  (.directiveFailed template.name directive)

theorem HoldsStencils.rendersOwnTexts
    {template : Template}
    (holds : set.HoldsStencils template) :
    set.RendersOwnTexts template := by
  constructor
  case body =>
    rcases fillKey_of_registered holds.body with ⟨entry, found, isOwn, reads, fills⟩
    refine ⟨entry, found, isOwn, reads, ?_⟩
    intro data
    rw [renderBody_eq_mapError, fills]
  case absent =>
    intro directive none data
    rw [renderDirective, none]
  case given =>
    intro directive source gives
    rcases fillKey_of_registered (holds.directive directive source gives) with
      ⟨entry, found, isOwn, reads, fills⟩
    refine ⟨entry, found, isOwn, reads, ?_⟩
    intro data
    rw [renderDirective_eq_mapError gives, fills]

/-- Templates that are added to an empty set render from their own texts. -/
theorem rendersOwnTexts_of_insertAll
    {strict : Bool}
    {templates : List Template}
    (unmarked : ∀ template ∈ templates, IsUnmarked template.name)
    (succeeds : (empty strict).insertAll templates = .ok set) :
    (∀ template, template ∈ set.templates ↔ IsLatest Template.name templates template) ∧
      ∀ template ∈ set.templates, set.RendersOwnTexts template := by
  have consistent := isConsistent_empty strict
  constructor
  · intro template
    rw [mem_insertAll_iff consistent unmarked succeeds]
    simp [empty]
  · intro template isMember
    apply HoldsStencils.rendersOwnTexts
    exact (consistent.insertAll unmarked succeeds).holds template isMember

/--
Every template of a set renders from its own texts, which are what stands registered under its
keys, as long as no name ends in the keyword of a directive: whatever templates were added, in
whatever order, and whichever of them took the place of others. The templates of the set are the
last ones of their names. So it is for named sources, which are sorted by name first, and for the
files of a directory.
-/
theorem templates_render_from_own_texts
    (strict : Bool) :
    (∀ templates set,
      (∀ template ∈ templates, IsUnmarked template.name) →
        (empty strict).insertAll templates = .ok set →
          (∀ template, template ∈ set.templates ↔ IsLatest Template.name templates template) ∧
            ∀ template ∈ set.templates, set.RendersOwnTexts template) ∧
      (∀ sources set,
        (∀ source ∈ sources, IsUnmarked source.1) →
          ofSources strict sources = .ok set →
            (∀ template,
              template ∈ set.templates ↔
                ∃ source, IsLatest Prod.fst sources source ∧ Parses source template) ∧
              ∀ template ∈ set.templates, set.RendersOwnTexts template) ∧
      ∀ disk directory set,
        (∀ name ∈ templateNames disk directory, IsUnmarked name) →
          load disk directory strict = .ok set →
            (∀ template,
              template ∈ set.templates ↔
                ∃ name ∈ templateNames disk directory, Reads disk directory name template) ∧
              ∀ template ∈ set.templates, set.RendersOwnTexts template := by
  refine ⟨fun _ _ => rendersOwnTexts_of_insertAll, ?_, ?_⟩
  · intro sources set unmarked succeeds
    rcases (ofSources_eq_ok_iff strict sources set).mp succeeds with ⟨templates, parsed, inserted⟩
    have orderedUnmarked : ∀ template ∈ ordered templates, IsUnmarked template.name := by
      intro template isMember
      rw [mem_ordered_iff] at isMember
      rcases exists_mem_of_forall₂ parsed.flip isMember with ⟨source, isSource, parses⟩
      exact name_of_ofSource? parses ▸ unmarked source isSource
    rcases rendersOwnTexts_of_insertAll orderedUnmarked inserted with ⟨members, renders⟩
    refine ⟨?_, renders⟩
    intro template
    rw [members, isLatest_ordered_iff, isLatest_iff_of_parses parsed]
  · intro disk directory set unmarked succeeds
    rcases (load_eq_ok_iff disk directory strict set).mp succeeds with
      ⟨-, -, templates, reads, inserted⟩
    have readUnmarked : ∀ template ∈ templates, IsUnmarked template.name := by
      intro template isMember
      rcases exists_mem_of_forall₂ reads.flip isMember with ⟨name, isListed, source, -, parses⟩
      exact name_of_ofSource? parses ▸ unmarked name isListed
    rcases rendersOwnTexts_of_insertAll readUnmarked inserted with ⟨members, renders⟩
    refine ⟨?_, renders⟩
    intro template
    rw [members, isLatest_iff_of_reads reads]

/-- A template whose header gives a directory. -/
def outdated : Template :=
  ⟨"entity.tmpl".toList, "old\n".toList, some "old".toList, none⟩

/-- A template of the same name that gives no directory. -/
def revised : Template :=
  ⟨"entity.tmpl".toList, "new \x7b\x7bentity_name\x7d\x7d\n".toList, none,
    some "\x7b\x7btable_name\x7d\x7d.go".toList⟩

/-- The text of the revised template. -/
def revisedText : Text :=
  "#fileName: \x7b\x7btable_name\x7d\x7d.go\nnew \x7b\x7bentity_name\x7d\x7d".toList

/-- The text of the one after the text of the other. -/
def revisedSources : List (Text × Text) :=
  [("entity.tmpl".toList, "#path = old\nold\n".toList), ("entity.tmpl".toList, revisedText)]

/-- A directory with the text of the revised template. -/
def revisedDisk : Disk where
  nodes :=
    [(["templates".toList], .directory),
      (["templates".toList, "entity.tmpl".toList], .file (.text revisedText))]
  working := []

theorem isFillable_outdated : outdated.IsFillable := by
  constructor
  case body => decide +kernel
  case directive =>
    intro directive source gives
    cases directive with
    | path =>
      cases gives
      decide +kernel
    | fileName => cases gives

theorem isFillable_revised : revised.IsFillable := by
  constructor
  case body => decide +kernel
  case directive =>
    intro directive source gives
    cases directive with
    | path => cases gives
    | fileName =>
      cases gives
      decide +kernel

theorem isUnmarked_entity : IsUnmarked "entity.tmpl".toList :=
  IsTemplateName.isUnmarked (by decide)

theorem parses_outdated : Parses ("entity.tmpl".toList, "#path = old\nold\n".toList) outdated := by
  show Template.ofSource? _ _ = _
  decide +kernel

theorem parses_revised : Parses ("entity.tmpl".toList, revisedText) revised := by
  show Template.ofSource? _ _ = _
  decide +kernel

theorem templateNames_revisedDisk :
    templateNames revisedDisk (Path.of "templates") = ["entity.tmpl".toList] := by
  have found :
      ((revisedDisk.namesIn (Path.of "templates")).filter fun name =>
          isTemplate revisedDisk ((Path.of "templates").child name)) = ["entity.tmpl".toList] := by
    decide +kernel
  rw [templateNames, found, List.mergeSort_singleton]

theorem reads_revisedDisk :
    Reads revisedDisk (Path.of "templates") "entity.tmpl".toList revised :=
  ⟨revisedText, by decide +kernel, parses_revised⟩

theorem exists_load_revisedDisk : ∃ set, load revisedDisk (Path.of "templates") false = .ok set := by
  have fillable : ∀ template ∈ [revised], template.IsFillable := by
    simpa using isFillable_revised
  rcases (exists_insertAll_iff (empty false) [revised]).mpr fillable with ⟨set, inserted⟩
  refine ⟨set, (load_eq_ok_iff _ _ _ _).mpr ⟨by decide +kernel, ?_, [revised], ?_, inserted⟩⟩
  · simp [templateNames_revisedDisk]
  · rw [templateNames_revisedDisk]
    exact .cons reads_revisedDisk .nil

theorem revised_template_replaces_outdated :
    (∃ set,
      (empty false).insertAll [outdated, revised] = .ok set ∧
        revised ∈ set.templates ∧ outdated ∉ set.templates ∧ set.RendersOwnTexts revised) ∧
      (∃ set,
        ofSources false revisedSources = .ok set ∧
          revised ∈ set.templates ∧ set.RendersOwnTexts revised) ∧
      ∃ set,
        load revisedDisk (Path.of "templates") false = .ok set ∧
          revised ∈ set.templates ∧ ∀ template ∈ set.templates, set.RendersOwnTexts template := by
  rcases templates_render_from_own_texts false with ⟨added, given, loaded⟩
  refine ⟨?_, ?_, ?_⟩
  · have fillable : ∀ template ∈ [outdated, revised], template.IsFillable := by
      simpa using ⟨isFillable_outdated, isFillable_revised⟩
    have unmarked : ∀ template ∈ [outdated, revised], IsUnmarked template.name := by
      simpa using ⟨isUnmarked_entity, isUnmarked_entity⟩
    rcases (exists_insertAll_iff (empty false) _).mpr fillable with ⟨set, inserted⟩
    rcases added _ set unmarked inserted with ⟨members, renders⟩
    have isMember : revised ∈ set.templates :=
      (members revised).mpr ⟨[outdated], [], rfl, List.not_mem_nil⟩
    refine ⟨set, inserted, isMember, ?_, renders revised isMember⟩
    rw [members, isLatest_iff_getLast?_filter]
    decide
  · have accepted : ∀ source ∈ revisedSources, IsAccepted source := by
      intro source isSource
      rcases List.mem_pair.mp isSource with rfl | rfl
      · exact ⟨outdated, parses_outdated, isFillable_outdated⟩
      · exact ⟨revised, parses_revised, isFillable_revised⟩
    have unmarked : ∀ source ∈ revisedSources, IsUnmarked source.1 := by
      simpa [revisedSources] using isUnmarked_entity
    rcases (exists_ofSources_iff false revisedSources).mpr accepted with ⟨set, succeeds⟩
    rcases given revisedSources set unmarked succeeds with ⟨members, renders⟩
    have isMember : revised ∈ set.templates := by
      rw [members]
      exact ⟨_, ⟨[_], [], rfl, List.not_mem_nil⟩, parses_revised⟩
    exact ⟨set, succeeds, isMember, renders revised isMember⟩
  · have unmarked : ∀ name ∈ templateNames revisedDisk (Path.of "templates"), IsUnmarked name := by
      rw [templateNames_revisedDisk]
      simpa using isUnmarked_entity
    rcases exists_load_revisedDisk with ⟨set, succeeds⟩
    rcases loaded revisedDisk (Path.of "templates") set unmarked succeeds with ⟨members, renders⟩
    have isMember : revised ∈ set.templates := by
      rw [members, templateNames_revisedDisk]
      exact ⟨"entity.tmpl".toList, List.mem_singleton_self _, reads_revisedDisk⟩
    exact ⟨set, succeeds, isMember, renders⟩

end Scaffold.TemplateSet
