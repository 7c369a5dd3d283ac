import Scaffold.Proofs.GenerationWrites

/-!
# Skipping templates

The skip flags of a generator say which templates it passes over, and they say nothing else. A
skipped template is neither rendered nor written, so a generator previews and generates as if it did
not have the template at all (`preview_withoutSkipped`, `generateAll_withoutSkipped`), whatever its
body and its directives are; its stencils stay registered for the templates that include them. A
report has an outcome for it all the same. With more flags a preview that succeeds gives the same
files without those of the newly skipped categories (`renderAll_withSkipped`).
-/

namespace Scaffold

/-! ## Flags -/

namespace ByCategory

/-- Whether the flag of a category is set. The category `other` has none. -/
def isSet (flags : ByCategory Bool) (category : Category) : Bool :=
  (flags.get? category).getD false

/-- Whether every flag of the first is a flag of the second. -/
def IsWithin (flags more : ByCategory Bool) : Prop :=
  ∀ category, flags.isSet category = true → more.isSet category = true

/-- The flags with those of some categories set, one after the other. -/
def inserting (flags : ByCategory Bool) (categories : List Category) : ByCategory Bool :=
  categories.foldl (fun flags category => flags.set category true) flags

theorem isSet_set_true
    (flags : ByCategory Bool)
    (inserted category : Category) :
    (flags.set inserted true).isSet category = true ↔
      flags.isSet category = true ∨ (category = inserted ∧ category ≠ .other) := by
  by_cases same : category = inserted
  · subst same
    by_cases named : category = .other
    · subst named
      simp [isSet]
    · simp [isSet, get?_set_self flags category true named, named]
  · rw [isSet, get?_set_of_ne flags category inserted true same]
    simp [isSet, same]

/-- A flag is set when it was before or when its category is inserted, unless that is `other`. -/
theorem isSet_inserting
    (flags : ByCategory Bool)
    (categories : List Category)
    (category : Category) :
    (flags.inserting categories).isSet category = true ↔
      flags.isSet category = true ∨ (category ∈ categories ∧ category ≠ .other) := by
  induction categories generalizing flags with
  | nil => simp [inserting]
  | cons inserted others hypothesis =>
    have later := hypothesis (flags.set inserted true)
    rw [inserting] at later ⊢
    rw [List.foldl_cons, later, isSet_set_true, List.mem_cons]
    tauto

end ByCategory

/-- A report without the outcomes of skipped templates. -/
def Report.withoutSkipped (report : Report) : Report :=
  { report with outcomes := report.outcomes.filter fun entry => entry.outcome != .skipped }

namespace Generator

/-- The generator with other skip flags. -/
def withSkipped (generator : Generator) (flags : ByCategory Bool) : Generator :=
  { generator with settings := { generator.settings with skipped := flags } }

/-- The templates that a generator does not skip. -/
def used (generator : Generator) : List Template :=
  generator.templates.templates.filter fun template => !generator.skips template

/-- The generator without the templates that it skips. Their stencils stay registered. -/
def withoutSkipped (generator : Generator) : Generator :=
  { generator with templates := { generator.templates with templates := generator.used } }

variable {generator : Generator} {data : TableData}

theorem withSkipped_of
    (settings : Settings)
    (templates : TemplateSet)
    (flags : ByCategory Bool) :
    (of settings templates).withSkipped flags = of { settings with skipped := flags } templates :=
  rfl

@[simp]
theorem skips_withSkipped
    (flags : ByCategory Bool)
    (template : Template) :
    (generator.withSkipped flags).skips template = flags.isSet template.category :=
  rfl

/-! ## More flags -/

/-- A rendered file says which template it comes from. -/
theorem category_of_render
    {template : Template}
    {file : GeneratedFile}
    (rendered : generator.render data template = .ok file) :
    file.category = template.category := by
  simp only [render, bind, bind_eq_ok_iff] at rendered
  rcases rendered with ⟨content, -, path, -, fileName, -, location, -, done⟩
  cases done
  rfl

/-- With more flags, rendering gives the same files without those of skipped categories. -/
theorem renderAll_withSkipped
    {flags : ByCategory Bool}
    (more : generator.settings.skipped.IsWithin flags)
    {templates : List Template}
    {files : List GeneratedFile}
    (renders : generator.renderAll data templates = .ok files) :
    (generator.withSkipped flags).renderAll data templates =
      .ok (files.filter fun file => !flags.isSet file.category) := by
  induction templates generalizing files with
  | nil =>
    cases renders
    rfl
  | cons template templates hypothesis =>
    by_cases skips : generator.skips template = true
    · rw [renderAll_cons_of_skips skips] at renders
      have skipsToo : (generator.withSkipped flags).skips template = true :=
        more template.category skips
      rw [renderAll_cons_of_skips skipsToo, hypothesis renders]
    · have isUsed : generator.skips template = false := Bool.eq_false_iff.mpr skips
      rcases (renderAll_cons_eq_ok_iff isUsed templates files).mp renders with
        ⟨file, others, rendered, later, rfl⟩
      have category := category_of_render rendered
      by_cases flagged : flags.isSet template.category = true
      · rw [renderAll_cons_of_skips (by rw [skips_withSkipped, flagged]), hypothesis later,
          List.filter_cons_of_neg (by simp [category, flagged])]
      · have unflagged : flags.isSet template.category = false := Bool.eq_false_iff.mpr flagged
        have isUsedToo : (generator.withSkipped flags).skips template = false := unflagged
        rw [List.filter_cons_of_pos (by simp [category, unflagged])]
        exact (renderAll_cons_eq_ok_iff isUsedToo templates _).mpr
          ⟨file, _, rendered, hypothesis later, rfl⟩

/-- No file that is rendered belongs to a skipped category, whether all of them are rendered or
not. -/
theorem isSkipped_of_mem_renderedFiles
    {templates : List Template}
    {file : GeneratedFile}
    (isMember : file ∈ generator.renderedFiles data templates) :
    generator.settings.isSkipped file.category = false := by
  induction templates with
  | nil => cases isMember
  | cons template templates hypothesis =>
    rw [renderedFiles] at isMember
    split at isMember
    · exact hypothesis isMember
    next isUsed =>
      split at isMember
      next first rendered =>
        rcases List.mem_cons.mp isMember with rfl | later
        · rw [category_of_render rendered]
          exact Bool.eq_false_iff.mpr isUsed
        · exact hypothesis later
      · cases isMember

theorem isSkipped_of_mem_filesFor
    {disk : Disk}
    {target : Target}
    {file : GeneratedFile}
    (isMember : file ∈ generator.filesFor disk target) :
    generator.settings.isSkipped file.category = false := by
  rw [filesFor] at isMember
  split at isMember
  · exact isSkipped_of_mem_renderedFiles isMember
  · cases isMember

/-! ## Without the skipped templates -/

theorem renderAll_filter
    (templates : List Template) :
    generator.withoutSkipped.renderAll data
        (templates.filter fun template => !generator.skips template) =
      generator.renderAll data templates := by
  induction templates with
  | nil => rfl
  | cons template templates hypothesis =>
    by_cases skips : generator.skips template = true
    · rw [List.filter_cons_of_neg (by simp [skips]), hypothesis, renderAll_cons_of_skips skips]
    · rw [List.filter_cons_of_pos (by simp [skips]), renderAll, renderAll, hypothesis]
      rfl

/-- A generator previews as if it did not have the templates that it skips. -/
theorem preview_withoutSkipped
    (disk : Disk)
    (target : Target) :
    generator.withoutSkipped.preview disk target = generator.preview disk target := by
  rw [preview, preview]
  exact congrArg (generator.data disk target).bind (funext fun data => renderAll_filter _)

theorem produceAll_filter
    (disk : Disk)
    (templates : List Template) :
    generator.withoutSkipped.produceAll data disk
        (templates.filter fun template => !generator.skips template) =
      ((generator.produceAll data disk templates).1,
        (generator.produceAll data disk templates).2.map fun outcomes =>
          outcomes.filter fun entry => entry.outcome != .skipped) := by
  induction templates generalizing disk with
  | nil => rfl
  | cons template templates hypothesis =>
    by_cases skips : generator.skips template = true
    · rw [List.filter_cons_of_neg (by simp [skips]), hypothesis,
        produceAll_cons_of_ok (produce_of_skips skips disk)]
      cases (generator.produceAll data disk templates).2 with
      | error error => rfl
      | ok outcomes => rfl
    · rw [List.filter_cons_of_pos (by simp [skips])]
      have same :
          generator.withoutSkipped.produce data disk template =
            generator.produce data disk template :=
        rfl
      rcases produces : generator.produce data disk template with ⟨next, error | outcome⟩
      · rw [produceAll_cons_of_error produces, produceAll_cons_of_error (same.trans produces)]
        rfl
      · rw [produceAll_cons_of_ok produces, produceAll_cons_of_ok (same.trans produces), hypothesis]
        have given : outcome ≠ .skipped := by
          rcases (produce_eq_ok_iff disk next template outcome).mp produces with
            ⟨skipped, -, -⟩ | ⟨-, file, result, -, -, becomes⟩
          · exact absurd skipped skips
          · exact outcomeOf?_ne_skipped becomes
        cases (generator.produceAll data next templates).2 with
        | error error => rfl
        | ok outcomes => simp [Except.map, given]

/-- A generator generates for a target as if it did not have the templates that it skips, except
that it reports them. -/
theorem generate_withoutSkipped
    (disk : Disk)
    (target : Target) :
    generator.withoutSkipped.generate disk target =
      ((generator.generate disk target).1,
        (generator.generate disk target).2.map Report.withoutSkipped) := by
  have same : generator.withoutSkipped.data disk target = generator.data disk target := rfl
  rw [generate, generate, same]
  cases generator.data disk target with
  | error error => rfl
  | ok data =>
    have produces :
        generator.withoutSkipped.produceAll data disk generator.withoutSkipped.templates.templates =
          _ :=
      produceAll_filter disk generator.templates.templates
    dsimp only
    rw [produces]
    rcases generator.produceAll data disk generator.templates.templates with
      ⟨final, error | outcomes⟩
    · rfl
    · rfl

/-- Whole runs go on as if a generator did not have the templates that it skips. -/
theorem generateAll_withoutSkipped
    (disk : Disk)
    (targets : List Target) :
    generator.withoutSkipped.generateAll disk targets =
      ((generator.generateAll disk targets).1,
        (generator.generateAll disk targets).2.map (List.map Report.withoutSkipped)) := by
  induction targets generalizing disk with
  | nil => rfl
  | cons target targets hypothesis =>
    have first : generator.withoutSkipped.generate disk target = _ :=
      generate_withoutSkipped disk target
    rcases generates : generator.generate disk target with ⟨next, error | report⟩
    · rw [generates] at first
      rw [generateAll_cons_of_error generates, generateAll_cons_of_error first]
      rfl
    · rw [generates] at first
      rw [generateAll_cons_of_ok generates, generateAll_cons_of_ok first, hypothesis]
      cases (generator.generateAll next targets).2 with
      | error error => rfl
      | ok reports => rfl

/-! ## Reports -/

/-- A report tells of the skipped templates by name, in order. -/
theorem names_of_pairs
    {templates : List Template}
    {outcomes : List TemplateOutcome}
    (pairs : List.Forall₂ generator.Answers templates outcomes)
    (target : Target) :
    Report.skipped ⟨target, outcomes⟩ =
      (templates.filter generator.skips).map Template.name := by
  induction pairs with
  | nil => rfl
  | @cons template entry templates outcomes answers others hypothesis =>
    rcases answers with ⟨named, -, reported⟩
    rw [Report.skipped] at hypothesis ⊢
    by_cases skips : generator.skips template = true
    · rw [List.filter_cons_of_pos skips, List.map_cons, ← hypothesis,
        List.filterMap_cons_some (by rw [reported.mpr skips]), named]
    · rw [List.filter_cons_of_neg skips, ← hypothesis, List.filterMap_cons_none]
      split
      next outcome => exact absurd (reported.mp outcome) skips
      · rfl

/-! ## The laws of skipping -/

/--
With more flags, a preview that succeeds gives its files without those of the skipped categories. No
file that is previewed or handed to the disk belongs to a skipped category. Previews, the disks that
are left, the outcomes of the other templates and every error are those of the generator without the
skipped templates, so none of these can make anything fail. A report covers the templates and tells
exactly the skipped ones to be skipped. The category `other` is never skipped: the flags that are set
are those of the inserted categories, but inserting `other` sets none.
-/
theorem skipping_only_removes_files
    (generator : Generator) :
    (∀ disk target flags files,
        generator.settings.skipped.IsWithin flags →
          generator.preview disk target = .ok files →
            (generator.withSkipped flags).preview disk target =
              .ok (files.filter fun file => !flags.isSet file.category)) ∧
      (∀ disk target,
        (∀ files,
          generator.preview disk target = .ok files → files = generator.filesFor disk target) ∧
          (generator.generate disk target).1 =
            (writeAll generator.settings.overwrite disk (generator.filesFor disk target)).1 ∧
          ∀ file ∈ generator.filesFor disk target,
            generator.settings.isSkipped file.category = false) ∧
      (∀ disk target,
        generator.withoutSkipped.preview disk target = generator.preview disk target ∧
          generator.withoutSkipped.generate disk target =
            ((generator.generate disk target).1,
              (generator.generate disk target).2.map Report.withoutSkipped)) ∧
      (∀ disk targets,
        generator.withoutSkipped.generateAll disk targets =
          ((generator.generateAll disk targets).1,
            (generator.generateAll disk targets).2.map (List.map Report.withoutSkipped))) ∧
      (∀ disk target report,
        (generator.generate disk target).2 = .ok report →
          generator.Covers report.outcomes ∧
            report.skipped =
              (generator.templates.templates.filter generator.skips).map Template.name) ∧
      generator.settings.isSkipped .other = false ∧
      ∀ (flags : ByCategory Bool) categories category,
        (flags.inserting categories).isSet category = true ↔
          flags.isSet category = true ∨ (category ∈ categories ∧ category ≠ .other) := by
  refine
    ⟨?more, ?files, ?without, ?runs, ?reports, generator.settings.isSkipped_other,
      ByCategory.isSet_inserting⟩
  case more =>
    intro disk target flags files within previews
    rcases (preview_eq_ok_iff disk target files).mp previews with ⟨data, loads, renders⟩
    exact (preview_eq_ok_iff disk target _).mpr
      ⟨data, loads, renderAll_withSkipped within renders⟩
  case files =>
    intro disk target
    exact
      ⟨fun files previews => (filesFor_eq_of_preview previews).symm,
        generate_disk generator disk target,
        fun file isMember => isSkipped_of_mem_filesFor isMember⟩
  case without =>
    intro disk target
    exact ⟨preview_withoutSkipped disk target, generate_withoutSkipped disk target⟩
  case runs => exact generateAll_withoutSkipped
  case reports =>
    intro disk target report succeeds
    rcases generates : generator.generate disk target with ⟨final, result⟩
    rw [generates] at succeeds
    cases succeeds
    have covers := ((generate_eq_iff_targetRun disk final target _).mp generates).report.2
    exact ⟨covers, names_of_pairs covers report.target⟩

/-- A template for entities, one for handlers that mentions a stencil which is not registered, and
a greeting. -/
def brokenTemplates : TemplateSet :=
  match
    (TemplateSet.empty false).insertAll
      [{ greeting [] [] with name := "entity.tmpl".toList },
        { greeting [] [] with
          name := "handler.tmpl".toList
          body := "\x7b\x7b> nowhere\x7d\x7d\n".toList },
        greeting "notes".toList "note.txt".toList]
  with
  | .ok set => set
  | .error _ => TemplateSet.empty false

/-- A generator with these templates and skip flags. -/
def brokenHandler (flags : ByCategory Bool) : Generator :=
  of { Settings.of (Path.of ".") (Path.of "schema.sql") (Path.of "templates") with skipped := flags }
    brokenTemplates

/-- The flag of handlers. -/
def handlerFlag : ByCategory Bool :=
  (ByCategory.constant false).inserting [.handler]

/-- The file of the template of entities. -/
def entityFile : GeneratedFile :=
  ⟨"entity.tmpl".toList, .entity, Path.of "./core/entity/user.go", "new User\n".toList⟩

/-- The file of the greeting. -/
def greetingFile : GeneratedFile :=
  ⟨"note.tmpl".toList, .other, Path.of "./notes/note.txt", "new User\n".toList⟩

/-- What becomes of the templates when handlers are skipped. -/
def handlerReport : Report :=
  ⟨users,
    [⟨"entity.tmpl".toList, .entity, .written entityFile.path⟩,
      ⟨"handler.tmpl".toList, .handler, .skipped⟩,
      ⟨"note.tmpl".toList, .other, .written greetingFile.path⟩]⟩

/-- The broken template fails until handlers are skipped. Then skipping entities and `other` as well
leaves the greeting, which belongs to `other`. -/
theorem broken_handler_is_skipped :
    (brokenHandler (ByCategory.constant false)).preview noted users =
        .error
          (.bodyFailed "handler.tmpl".toList "users".toList (.unknownStencil "nowhere".toList)) ∧
      (brokenHandler handlerFlag).preview noted users = .ok [entityFile, greetingFile] ∧
      handlerFlag.IsWithin (handlerFlag.inserting [.entity, .other]) ∧
      (brokenHandler (handlerFlag.inserting [.entity, .other])).preview noted users =
        .ok [greetingFile] ∧
      (brokenHandler (handlerFlag.inserting [.entity, .other])).settings.isSkipped .other = false ∧
      ((brokenHandler handlerFlag).generate noted users).2 = .ok handlerReport ∧
      handlerReport.skipped = ["handler.tmpl".toList] := by
  rcases skipping_only_removes_files (brokenHandler handlerFlag) with
    ⟨more, -, -, -, reports, -, inserts⟩
  rcases skipping_only_removes_files (brokenHandler (handlerFlag.inserting [.entity, .other])) with
    ⟨-, -, -, -, -, otherRemains, -⟩
  have previews :
      (brokenHandler handlerFlag).preview noted users = .ok [entityFile, greetingFile] := by
    decide +kernel
  have within : handlerFlag.IsWithin (handlerFlag.inserting [.entity, .other]) :=
    fun category flagged => (inserts handlerFlag _ category).mpr (Or.inl flagged)
  have generates : ((brokenHandler handlerFlag).generate noted users).2 = .ok handlerReport := by
    decide +kernel
  have removed := more noted users _ _ within previews
  have rest :
      [entityFile, greetingFile].filter
          (fun file => !(handlerFlag.inserting [.entity, .other]).isSet file.category) =
        [greetingFile] := by
    decide +kernel
  have same :
      (brokenHandler handlerFlag).withSkipped (handlerFlag.inserting [.entity, .other]) =
        brokenHandler (handlerFlag.inserting [.entity, .other]) :=
    withSkipped_of _ _ _
  rw [rest, same] at removed
  refine ⟨by decide +kernel, previews, within, removed, otherRemains, generates, ?_⟩
  rw [(reports noted users handlerReport generates).2]
  decide +kernel

end Generator

end Scaffold
