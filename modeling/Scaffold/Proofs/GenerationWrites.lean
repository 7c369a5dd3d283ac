import Mathlib.Data.List.Forall2
import Scaffold.Generator

/-!
# Generating is previewing and writing

A preview renders the files of a target without touching the disk, and generating writes each file
as soon as it is rendered. The two agree because rendering depends on the data of the table alone,
which is read once for every target: writing a file cannot change how the next one of the target is
rendered.

`Produces` describes how the files of templates are written one after the other, `TargetRun` how one
target ends, and `Run` how targets follow one another on the disk that the earlier ones left.
Generating follows these rules and no others. Whether it succeeds or fails, a target changes the
disk by the writes of the files that are rendered before its first failure, and a target whose
preview gives files has the effect and the result of writing them in order until the first write
that fails.
-/

namespace Scaffold

/-! ## Steps that may fail -/

/-- A chain of two steps succeeds when both do. -/
theorem bind_eq_ok_iff
    {ε α β : Type}
    (first : Except ε α)
    (second : α → Except ε β)
    (result : β) :
    first.bind second = .ok result ↔ ∃ value, first = .ok value ∧ second value = .ok result := by
  cases first with
  | error error => simp [Except.bind]
  | ok value => simp [Except.bind]

/-- A chain of two steps fails when one of them does. -/
theorem bind_eq_error_iff
    {ε α β : Type}
    (first : Except ε α)
    (second : α → Except ε β)
    (error : ε) :
    first.bind second = .error error ↔
      first = .error error ∨ ∃ value, first = .ok value ∧ second value = .error error := by
  cases first with
  | error other => simp [Except.bind]
  | ok value => simp [Except.bind]

namespace Generator

/-! ## Writing the files of templates -/

/-- What becomes of a template whose file was handed to the disk, unless writing it fails. -/
def outcomeOf? (path : Path) : Disk.WriteResult → Option Outcome
  | .written => some (.written path)
  | .kept => some (.kept path)
  | .failed => none

@[simp]
theorem outcomeOf?_written
    (path : Path) :
    outcomeOf? path .written = some (.written path) :=
  rfl

@[simp]
theorem outcomeOf?_kept
    (path : Path) :
    outcomeOf? path .kept = some (.kept path) :=
  rfl

@[simp]
theorem outcomeOf?_failed
    (path : Path) :
    outcomeOf? path .failed = none :=
  rfl

/--
The files of templates are written one after the other, each where it belongs. Every template has
one outcome, in order: a skipped one gives no file, and any other gives the next file of the list,
which is written or kept.
-/
inductive Produces (generator : Generator) :
    Disk → List Template → List GeneratedFile → Disk → List TemplateOutcome → Prop where
  | done (disk : Disk) :
      Produces generator disk [] [] disk []
  | skipped
      {template : Template} {templates : List Template}
      (skips : generator.skips template = true)
      (others : Produces generator disk templates files final outcomes) :
      Produces generator disk (template :: templates) files final
        (⟨template.name, template.category, .skipped⟩ :: outcomes)
  | produced
      {template : Template} {templates : List Template}
      (used : generator.skips template = false)
      (writes :
        disk.write generator.settings.overwrite file.path file.content = (next, result))
      (becomes : outcomeOf? file.path result = some outcome)
      (others : Produces generator next templates files final outcomes) :
      Produces generator disk (template :: templates) (file :: files) final
        (⟨template.name, template.category, outcome⟩ :: outcomes)

/--
The first failure among templates. The templates before it were rendered and their files written;
then the template cannot be rendered, or its file cannot be written.
-/
inductive StopsAt
    (generator : Generator)
    (data : TableData)
    (disk : Disk)
    (templates : List Template) :
    Disk → GenerationError → Prop where
  | notRendered
      (order : templates = before ++ template :: after)
      (renders : generator.renderAll data before = .ok files)
      (produces : Produces generator disk before files reached outcomes)
      (used : generator.skips template = false)
      (fails : generator.render data template = .error error) :
      StopsAt generator data disk templates reached error
  | notWritten
      (order : templates = before ++ template :: after)
      (renders : generator.renderAll data before = .ok files)
      (produces : Produces generator disk before files reached outcomes)
      (used : generator.skips template = false)
      (rendered : generator.render data template = .ok file)
      (fails :
        reached.write generator.settings.overwrite file.path file.content = (final, .failed)) :
      StopsAt generator data disk templates final (.writeFailed file.template file.path)

/-- How generating for a target may end, on the disk as it is when the target's turn comes. -/
inductive TargetRun
    (generator : Generator)
    (disk : Disk)
    (target : Target) :
    Disk → Except GenerationError Report → Prop where
  | notLoaded
      (fails : generator.loadTable disk target.table = .error error) :
      TargetRun generator disk target disk (.error error)
  | finished
      (previews : generator.preview disk target = .ok files)
      (produces : Produces generator disk generator.templates.templates files final outcomes) :
      TargetRun generator disk target final (.ok ⟨target, outcomes⟩)
  | stopped
      {data : TableData}
      (loads : generator.data disk target = .ok data)
      (stops : StopsAt generator data disk generator.templates.templates final error) :
      TargetRun generator disk target final (.error error)

/-- How generating for targets may end. Every target starts from the disk that the earlier ones
left, and the first failure ends the run. -/
inductive Run (generator : Generator) :
    Disk → List Target → Disk → Except GenerationError (List Report) → Prop where
  | done (disk : Disk) :
      Run generator disk [] disk (.ok [])
  | finished
      (this : TargetRun generator disk target next (.ok report))
      (others : Run generator next targets final (.ok reports)) :
      Run generator disk (target :: targets) final (.ok (report :: reports))
  | stoppedLater
      (this : TargetRun generator disk target next (.ok report))
      (others : Run generator next targets final (.error error)) :
      Run generator disk (target :: targets) final (.error error)
  | stopped
      (this : TargetRun generator disk target final (.error error)) :
      Run generator disk (target :: targets) final (.error error)

/-- The disk after files were written in order until the first write that fails, and what became of
them. -/
def writeAll (policy : OverwritePolicy) :
    Disk → List GeneratedFile → Disk × Except GenerationError (List Outcome)
  | disk, [] => (disk, .ok [])
  | disk, file :: files =>
    let (disk, result) := disk.write policy file.path file.content
    match outcomeOf? file.path result with
    | some outcome =>
      ((writeAll policy disk files).1, (writeAll policy disk files).2.map (outcome :: ·))
    | none => (disk, .error (.writeFailed file.template file.path))

/-- The files of templates before the first one that cannot be rendered. -/
def renderedFiles (generator : Generator) (data : TableData) :
    List Template → List GeneratedFile
  | [] => []
  | template :: templates =>
    if generator.skips template then
      generator.renderedFiles data templates
    else
      match generator.render data template with
      | .ok file => file :: generator.renderedFiles data templates
      | .error _ => []

/-- The files of a target before the first one that cannot be rendered. -/
def filesFor (generator : Generator) (disk : Disk) (target : Target) : List GeneratedFile :=
  match generator.data disk target with
  | .ok data => generator.renderedFiles data generator.templates.templates
  | .error _ => []

/-- What became of files, without the templates that were skipped. -/
def filesOf (outcomes : List TemplateOutcome) : List Outcome :=
  (outcomes.map TemplateOutcome.outcome).filter (· != .skipped)

/-- An outcome is told for a template. It is that the template was skipped exactly when the category
of the template is. -/
def Answers (generator : Generator) (template : Template) (entry : TemplateOutcome) : Prop :=
  entry.template = template.name ∧
    entry.category = template.category ∧
    (entry.outcome = .skipped ↔ generator.skips template = true)

/-- There is one outcome for each template of a generator, in the order of the set. -/
def Covers (generator : Generator) (outcomes : List TemplateOutcome) : Prop :=
  List.Forall₂ generator.Answers generator.templates.templates outcomes

/-! ## One template -/

variable {generator : Generator} {data : TableData}

theorem renderAll_cons_of_skips
    {template : Template}
    (skips : generator.skips template = true)
    (templates : List Template) :
    generator.renderAll data (template :: templates) = generator.renderAll data templates := by
  simp [renderAll, skips]

theorem renderAll_cons_eq_ok_iff
    {template : Template}
    (used : generator.skips template = false)
    (templates : List Template)
    (files : List GeneratedFile) :
    generator.renderAll data (template :: templates) = .ok files ↔
      ∃ file others,
        generator.render data template = .ok file ∧
          generator.renderAll data templates = .ok others ∧
          files = file :: others := by
  rw [renderAll, if_neg (by simp [used])]
  simp only [bind, bind_eq_ok_iff, Except.ok.injEq, exists_and_left, eq_comm (a := files)]

/-- Storing a file is writing it under the policy of the generator. -/
theorem store_eq_of_write
    {disk next : Disk}
    {file : GeneratedFile}
    {result : Disk.WriteResult}
    (writes :
      disk.write generator.settings.overwrite file.path file.content = (next, result)) :
    generator.store disk file =
      (next,
        match outcomeOf? file.path result with
        | some outcome => .ok outcome
        | none => .error (.writeFailed file.template file.path)) := by
  rw [store, writes]
  cases result with
  | written => rfl
  | kept => rfl
  | failed => rfl

/-- A file that is handed to the disk is not a skipped template. -/
theorem outcomeOf?_ne_skipped
    {path : Path}
    {result : Disk.WriteResult}
    {outcome : Outcome}
    (becomes : outcomeOf? path result = some outcome) :
    outcome ≠ .skipped := by
  rintro rfl
  cases result with
  | written => cases becomes
  | kept => cases becomes
  | failed => cases becomes

theorem filesOf_cons_of_ne_skipped
    {entry : TemplateOutcome}
    {outcomes : List TemplateOutcome}
    (given : entry.outcome ≠ .skipped) :
    filesOf (entry :: outcomes) = entry.outcome :: filesOf outcomes := by
  rw [filesOf, List.map_cons, List.filter_cons_of_pos (by simpa using given)]
  rfl

/-- A template succeeds when it is skipped, or when it is rendered and its file is written. -/
theorem produce_eq_ok_iff
    (disk next : Disk)
    (template : Template)
    (outcome : Outcome) :
    generator.produce data disk template = (next, .ok outcome) ↔
      (generator.skips template = true ∧ next = disk ∧ outcome = .skipped) ∨
        generator.skips template = false ∧
          ∃ file result,
            generator.render data template = .ok file ∧
              disk.write generator.settings.overwrite file.path file.content = (next, result) ∧
              outcomeOf? file.path result = some outcome := by
  rw [produce]
  by_cases skips : generator.skips template = true
  · simp [skips, eq_comm]
  · rw [if_neg skips]
    cases generator.render data template with
    | error error => simp [skips]
    | ok file =>
      rcases writes : disk.write generator.settings.overwrite file.path file.content with
        ⟨reached, result⟩
      simp only [store_eq_of_write writes]
      cases result with
      | written => simp [writes, skips, and_assoc]
      | kept => simp [writes, skips, and_assoc]
      | failed => simp [writes, skips, and_assoc]

/-- A template fails when it cannot be rendered, or when its file cannot be written. -/
theorem produce_eq_error_iff
    (disk next : Disk)
    (template : Template)
    (error : GenerationError) :
    generator.produce data disk template = (next, .error error) ↔
      generator.skips template = false ∧
        ((generator.render data template = .error error ∧ next = disk) ∨
          ∃ file,
            generator.render data template = .ok file ∧
              disk.write generator.settings.overwrite file.path file.content = (next, .failed) ∧
              error = .writeFailed file.template file.path) := by
  rw [produce]
  by_cases skips : generator.skips template = true
  · simp [skips]
  · rw [if_neg skips]
    cases generator.render data template with
    | error error => simp [skips, eq_comm, and_comm]
    | ok file =>
      rcases writes : disk.write generator.settings.overwrite file.path file.content with
        ⟨reached, result⟩
      simp only [store_eq_of_write writes]
      cases result with
      | written => simp [writes]
      | kept => simp [writes]
      | failed => simp [writes, skips, eq_comm]

theorem produce_of_skips
    {template : Template}
    (skips : generator.skips template = true)
    (disk : Disk) :
    generator.produce data disk template = (disk, .ok .skipped) := by
  rw [produce, if_pos skips]

theorem produce_of_written
    {disk next : Disk}
    {template : Template}
    {file : GeneratedFile}
    {result : Disk.WriteResult}
    {outcome : Outcome}
    (used : generator.skips template = false)
    (rendered : generator.render data template = .ok file)
    (writes :
      disk.write generator.settings.overwrite file.path file.content = (next, result))
    (becomes : outcomeOf? file.path result = some outcome) :
    generator.produce data disk template = (next, .ok outcome) :=
  (produce_eq_ok_iff disk next template outcome).mpr
    (Or.inr ⟨used, file, result, rendered, writes, becomes⟩)

theorem produce_of_unwritten
    {disk next : Disk}
    {template : Template}
    {file : GeneratedFile}
    {result : Disk.WriteResult}
    (used : generator.skips template = false)
    (rendered : generator.render data template = .ok file)
    (writes :
      disk.write generator.settings.overwrite file.path file.content = (next, result))
    (becomes : outcomeOf? file.path result = none) :
    generator.produce data disk template =
      (next, .error (.writeFailed file.template file.path)) := by
  cases result with
  | written => cases becomes
  | kept => cases becomes
  | failed =>
    exact (produce_eq_error_iff disk next template _).mpr
      ⟨used, Or.inr ⟨file, rendered, writes, rfl⟩⟩

/-- A template that succeeds leaves the others to the disk after it. -/
theorem produceAll_cons_of_ok
    {disk next : Disk}
    {template : Template}
    {templates : List Template}
    {outcome : Outcome}
    (produces : generator.produce data disk template = (next, .ok outcome)) :
    generator.produceAll data disk (template :: templates) =
      ((generator.produceAll data next templates).1,
        (generator.produceAll data next templates).2.map
          (⟨template.name, template.category, outcome⟩ :: ·)) := by
  rw [produceAll, produces]
  dsimp only
  rcases generator.produceAll data next templates with ⟨final, error | outcomes⟩
  · rfl
  · rfl

/-- A template that fails ends the work. -/
theorem produceAll_cons_of_error
    {disk next : Disk}
    {template : Template}
    {templates : List Template}
    {error : GenerationError}
    (fails : generator.produce data disk template = (next, .error error)) :
    generator.produceAll data disk (template :: templates) = (next, .error error) := by
  rw [produceAll, fails]

theorem produceAll_nil
    (disk : Disk) :
    generator.produceAll data disk [] = (disk, .ok []) := by
  rw [produceAll]

/-- Templates succeed when the first one does and the others do on the disk after it. -/
theorem produceAll_cons_eq_ok_iff
    (disk final : Disk)
    (template : Template)
    (templates : List Template)
    (outcomes : List TemplateOutcome) :
    generator.produceAll data disk (template :: templates) = (final, .ok outcomes) ↔
      ∃ next outcome others,
        generator.produce data disk template = (next, .ok outcome) ∧
          generator.produceAll data next templates = (final, .ok others) ∧
          outcomes = ⟨template.name, template.category, outcome⟩ :: others := by
  constructor
  · intro succeeds
    rcases first : generator.produce data disk template with ⟨next, error | outcome⟩
    · rw [produceAll_cons_of_error first] at succeeds
      cases succeeds
    · rw [produceAll_cons_of_ok first] at succeeds
      rcases rest : generator.produceAll data next templates with ⟨last, error | others⟩
      · rw [rest] at succeeds
        cases succeeds
      · rw [rest] at succeeds
        cases succeeds
        exact ⟨next, outcome, others, rfl, rest, rfl⟩
  · rintro ⟨next, outcome, others, first, rest, rfl⟩
    rw [produceAll_cons_of_ok first, rest]
    rfl

/-- Templates fail when the first one does, or when the others do on the disk after it. -/
theorem produceAll_cons_eq_error_iff
    (disk final : Disk)
    (template : Template)
    (templates : List Template)
    (error : GenerationError) :
    generator.produceAll data disk (template :: templates) = (final, .error error) ↔
      generator.produce data disk template = (final, .error error) ∨
        ∃ next outcome,
          generator.produce data disk template = (next, .ok outcome) ∧
            generator.produceAll data next templates = (final, .error error) := by
  constructor
  · intro fails
    rcases first : generator.produce data disk template with ⟨next, other | outcome⟩
    · rw [produceAll_cons_of_error first] at fails
      cases fails
      exact Or.inl rfl
    · rw [produceAll_cons_of_ok first] at fails
      rcases rest : generator.produceAll data next templates with ⟨last, other | others⟩
      · rw [rest] at fails
        cases fails
        exact Or.inr ⟨next, outcome, rfl, rest⟩
      · rw [rest] at fails
        cases fails
  · rintro (fails | ⟨next, outcome, first, rest⟩)
    · exact produceAll_cons_of_error fails
    · rw [produceAll_cons_of_ok first, rest]
      rfl

/-! ## The templates of one target -/

/-- Templates succeed exactly when all of them are rendered and all the files are written. -/
theorem produceAll_eq_ok_iff
    (disk final : Disk)
    (templates : List Template)
    (outcomes : List TemplateOutcome) :
    generator.produceAll data disk templates = (final, .ok outcomes) ↔
      ∃ files,
        generator.renderAll data templates = .ok files ∧
          Produces generator disk templates files final outcomes := by
  constructor
  · intro produces
    induction templates generalizing disk outcomes with
    | nil =>
      rw [produceAll_nil] at produces
      cases produces
      exact ⟨[], rfl, .done final⟩
    | cons template templates hypothesis =>
      rcases (produceAll_cons_eq_ok_iff disk final template templates outcomes).mp produces with
        ⟨next, outcome, others, first, rest, rfl⟩
      rcases hypothesis next others rest with ⟨files, renders, later⟩
      rcases (produce_eq_ok_iff disk next template outcome).mp first with
        ⟨skips, rfl, rfl⟩ | ⟨used, file, result, rendered, writes, becomes⟩
      · exact ⟨files, (renderAll_cons_of_skips skips templates).trans renders,
          .skipped skips later⟩
      · exact ⟨file :: files,
          (renderAll_cons_eq_ok_iff used templates _).mpr ⟨file, files, rendered, renders, rfl⟩,
          .produced used writes becomes later⟩
  · rintro ⟨files, renders, produces⟩
    induction produces with
    | done disk => exact produceAll_nil disk
    | @skipped disk files final outcomes template templates skips others hypothesis =>
      rw [renderAll_cons_of_skips skips] at renders
      exact (produceAll_cons_eq_ok_iff disk final template templates _).mpr
        ⟨disk, .skipped, outcomes,
          (produce_eq_ok_iff disk disk template _).mpr (Or.inl ⟨skips, rfl, rfl⟩),
          hypothesis renders, rfl⟩
    | produced used writes becomes others hypothesis =>
      rcases (renderAll_cons_eq_ok_iff used _ _).mp renders with
        ⟨first, rest, rendered, renders, same⟩
      cases same
      exact (produceAll_cons_eq_ok_iff _ _ _ _ _).mpr
        ⟨_, _, _,
          (produce_eq_ok_iff _ _ _ _).mpr (Or.inr ⟨used, _, _, rendered, writes, becomes⟩),
          hypothesis renders, rfl⟩

/-- A failure after templates that succeed is the failure of all of them. -/
theorem produceAll_append_of_error
    {disk reached final : Disk}
    {before after : List Template}
    {outcomes : List TemplateOutcome}
    {error : GenerationError}
    (produces : generator.produceAll data disk before = (reached, .ok outcomes))
    (fails : generator.produceAll data reached after = (final, .error error)) :
    generator.produceAll data disk (before ++ after) = (final, .error error) := by
  induction before generalizing disk outcomes with
  | nil =>
    rw [produceAll_nil] at produces
    cases produces
    exact fails
  | cons template before hypothesis =>
    rcases (produceAll_cons_eq_ok_iff disk reached template before outcomes).mp produces with
      ⟨next, outcome, others, first, rest, -⟩
    exact (produceAll_cons_eq_error_iff disk final template (before ++ after) error).mpr
      (Or.inr ⟨next, outcome, first, hypothesis rest⟩)

/-- A template that succeeds before a failure is one of the templates before it. -/
theorem StopsAt.cons
    {disk next final : Disk}
    {template : Template}
    {templates : List Template}
    {outcome : Outcome}
    {error : GenerationError}
    (first : generator.produce data disk template = (next, .ok outcome))
    (stops : StopsAt generator data next templates final error) :
    StopsAt generator data disk (template :: templates) final error := by
  -- The templates before the failure, with this one in front of them, still succeed.
  have precede {before files outcomes reached}
      (renders : generator.renderAll data before = .ok files)
      (produces : Produces generator next before files reached outcomes) :
      ∃ files outcomes,
        generator.renderAll data (template :: before) = .ok files ∧
          Produces generator disk (template :: before) files reached outcomes := by
    have rest : generator.produceAll data next before = (reached, .ok outcomes) :=
      (produceAll_eq_ok_iff next reached before outcomes).mpr ⟨files, renders, produces⟩
    rcases (produceAll_eq_ok_iff disk reached (template :: before) _).mp
        ((produceAll_cons_eq_ok_iff disk reached template before _).mpr
          ⟨next, outcome, outcomes, first, rest, rfl⟩) with
      ⟨all, renders, produces⟩
    exact ⟨all, _, renders, produces⟩
  cases stops with
  | notRendered order renders produces used fails =>
    rcases precede renders produces with ⟨files, outcomes, renders, produces⟩
    exact .notRendered (congrArg (template :: ·) order) renders produces used fails
  | notWritten order renders produces used rendered fails =>
    rcases precede renders produces with ⟨files, outcomes, renders, produces⟩
    exact .notWritten (congrArg (template :: ·) order) renders produces used rendered fails

/-- Templates fail exactly at the first one that cannot be rendered or written. -/
theorem produceAll_eq_error_iff
    (disk final : Disk)
    (templates : List Template)
    (error : GenerationError) :
    generator.produceAll data disk templates = (final, .error error) ↔
      StopsAt generator data disk templates final error := by
  constructor
  · intro fails
    induction templates generalizing disk with
    | nil =>
      rw [produceAll_nil] at fails
      cases fails
    | cons template templates hypothesis =>
      rcases (produceAll_cons_eq_error_iff disk final template templates error).mp fails with
        here | ⟨next, outcome, first, later⟩
      · rcases (produce_eq_error_iff disk final template error).mp here with
          ⟨used, ⟨unrendered, rfl⟩ | ⟨file, rendered, unwritten, rfl⟩⟩
        · exact .notRendered (List.nil_append _).symm rfl (.done final) used unrendered
        · exact .notWritten (List.nil_append _).symm rfl (.done disk) used rendered unwritten
      · exact (hypothesis next later).cons first
  · intro stops
    cases stops with
    | notRendered order renders produces used fails =>
      have before := (produceAll_eq_ok_iff _ _ _ _).mpr ⟨_, renders, produces⟩
      have here := (produce_eq_error_iff final final _ error).mpr ⟨used, Or.inl ⟨fails, rfl⟩⟩
      rw [order]
      exact produceAll_append_of_error before
        ((produceAll_cons_eq_error_iff _ _ _ _ _).mpr (Or.inl here))
    | notWritten order renders produces used rendered fails =>
      have before := (produceAll_eq_ok_iff _ _ _ _).mpr ⟨_, renders, produces⟩
      have here := (produce_eq_error_iff _ final _ _).mpr
        ⟨used, Or.inr ⟨_, rendered, fails, rfl⟩⟩
      rw [order]
      exact produceAll_append_of_error before
        ((produceAll_cons_eq_error_iff _ _ _ _ _).mpr (Or.inl here))

/-- Templates that are all rendered give their files. -/
theorem renderedFiles_eq_of_renderAll
    {templates : List Template}
    {files : List GeneratedFile}
    (renders : generator.renderAll data templates = .ok files) :
    generator.renderedFiles data templates = files := by
  induction templates generalizing files with
  | nil =>
    cases renders
    rfl
  | cons template templates hypothesis =>
    rw [renderedFiles]
    by_cases skips : generator.skips template = true
    · rw [if_pos skips]
      exact hypothesis ((renderAll_cons_of_skips skips templates).symm.trans renders)
    · rw [if_neg skips]
      have used : generator.skips template = false := Bool.eq_false_iff.mpr skips
      rcases (renderAll_cons_eq_ok_iff used templates files).mp renders with
        ⟨file, others, rendered, later, rfl⟩
      rw [rendered]
      exact congrArg (file :: ·) (hypothesis later)

/-- Producing templates writes the files that are rendered before the first failure. -/
theorem produceAll_disk
    (disk : Disk)
    (templates : List Template) :
    (generator.produceAll data disk templates).1 =
      (writeAll generator.settings.overwrite disk (generator.renderedFiles data templates)).1 := by
  induction templates generalizing disk with
  | nil => rfl
  | cons template templates hypothesis =>
    rw [renderedFiles]
    by_cases skips : generator.skips template = true
    · rw [if_pos skips, produceAll_cons_of_ok (produce_of_skips skips disk)]
      exact hypothesis disk
    · have used : generator.skips template = false := Bool.eq_false_iff.mpr skips
      rw [if_neg skips]
      cases rendered : generator.render data template with
      | error error =>
        rw [produceAll_cons_of_error
          ((produce_eq_error_iff disk disk template error).mpr ⟨used, Or.inl ⟨rendered, rfl⟩⟩)]
        rfl
      | ok file =>
        rcases writes : disk.write generator.settings.overwrite file.path file.content with
          ⟨next, result⟩
        simp only [writeAll, writes]
        cases becomes : outcomeOf? file.path result with
        | none => rw [produceAll_cons_of_error (produce_of_unwritten used rendered writes becomes)]
        | some outcome =>
          rw [produceAll_cons_of_ok (produce_of_written used rendered writes becomes)]
          exact hypothesis next

/-- When all templates are rendered, their outcomes are those of writing the files in order. -/
theorem produceAll_outcomes
    {templates : List Template}
    {files : List GeneratedFile}
    (renders : generator.renderAll data templates = .ok files)
    (disk : Disk) :
    (generator.produceAll data disk templates).2.map filesOf =
      (writeAll generator.settings.overwrite disk files).2 := by
  induction templates generalizing disk files with
  | nil =>
    cases renders
    rfl
  | cons template templates hypothesis =>
    by_cases skips : generator.skips template = true
    · rw [renderAll_cons_of_skips skips] at renders
      rw [produceAll_cons_of_ok (produce_of_skips skips disk), ← hypothesis renders disk]
      cases (generator.produceAll data disk templates).2 with
      | error error => rfl
      | ok outcomes => rfl
    · have used : generator.skips template = false := Bool.eq_false_iff.mpr skips
      rcases (renderAll_cons_eq_ok_iff used templates files).mp renders with
        ⟨file, others, rendered, later, rfl⟩
      rcases writes : disk.write generator.settings.overwrite file.path file.content with
        ⟨next, result⟩
      simp only [writeAll, writes]
      cases becomes : outcomeOf? file.path result with
      | none =>
        rw [produceAll_cons_of_error (produce_of_unwritten used rendered writes becomes)]
        rfl
      | some outcome =>
        rw [produceAll_cons_of_ok (produce_of_written used rendered writes becomes)]
        dsimp only
        rw [← hypothesis later next]
        cases (generator.produceAll data next templates).2 with
        | error error => rfl
        | ok outcomes =>
          exact congrArg Except.ok (filesOf_cons_of_ne_skipped (outcomeOf?_ne_skipped becomes))

/-- Written files have one outcome for each template. -/
theorem Produces.pairs
    {disk final : Disk}
    {templates : List Template}
    {files : List GeneratedFile}
    {outcomes : List TemplateOutcome}
    (produces : Produces generator disk templates files final outcomes) :
    List.Forall₂ generator.Answers templates outcomes := by
  induction produces with
  | done disk => exact .nil
  | skipped skips others hypothesis =>
    exact .cons ⟨rfl, rfl, iff_of_true rfl skips⟩ hypothesis
  | produced used writes becomes others hypothesis =>
    exact .cons
      ⟨rfl, rfl, iff_of_false (outcomeOf?_ne_skipped becomes) (Bool.eq_false_iff.mp used)⟩
      hypothesis

/-! ## One target -/

theorem preview_eq_ok_iff
    (disk : Disk)
    (target : Target)
    (files : List GeneratedFile) :
    generator.preview disk target = .ok files ↔
      ∃ data,
        generator.data disk target = .ok data ∧
          generator.renderAll data generator.templates.templates = .ok files := by
  rw [preview]
  exact bind_eq_ok_iff _ _ _

theorem loadTable_eq_ok_iff
    (disk : Disk)
    (table : Text)
    (found : Table) :
    generator.loadTable disk table = .ok found ↔
      ∃ migration,
        disk.read? generator.settings.migration = some migration ∧
          tableOf migration table = .ok found := by
  rw [loadTable]
  cases disk.read? generator.settings.migration with
  | none => simp
  | some migration => simp

theorem data_eq_ok_iff
    (disk : Disk)
    (target : Target)
    (data : TableData) :
    generator.data disk target = .ok data ↔
      ∃ table,
        generator.loadTable disk target.table = .ok table ∧
          data = TableData.of table target.entity generator.naming generator.language := by
  rw [Generator.data]
  simp only [bind, bind_eq_ok_iff, Except.ok.injEq, eq_comm (a := data)]

theorem data_eq_error_iff
    (disk : Disk)
    (target : Target)
    (error : GenerationError) :
    generator.data disk target = .error error ↔
      generator.loadTable disk target.table = .error error := by
  rw [Generator.data]
  simp only [bind, bind_eq_error_iff, reduceCtorEq, and_false, exists_false, or_false]

/-- The data of a target depends on the text of the migration alone. -/
theorem data_eq_of_read?
    {disk other : Disk}
    (same :
      other.read? generator.settings.migration = disk.read? generator.settings.migration)
    (target : Target) :
    generator.data other target = generator.data disk target := by
  rw [Generator.data, Generator.data, loadTable, loadTable, same]

/-- Generating for a target follows the rules of a target. -/
theorem generate_eq_iff_targetRun
    (disk final : Disk)
    (target : Target)
    (result : Except GenerationError Report) :
    generator.generate disk target = (final, result) ↔
      TargetRun generator disk target final result := by
  constructor
  · intro generates
    rw [generate] at generates
    cases loads : generator.data disk target with
    | error error =>
      rw [loads] at generates
      cases generates
      exact .notLoaded ((data_eq_error_iff disk target error).mp loads)
    | ok data =>
      simp only [loads] at generates
      rcases produces : generator.produceAll data disk generator.templates.templates with
        ⟨reached, error | outcomes⟩
      · rw [produces] at generates
        cases generates
        exact .stopped loads ((produceAll_eq_error_iff disk final _ error).mp produces)
      · rw [produces] at generates
        cases generates
        rcases (produceAll_eq_ok_iff disk final _ outcomes).mp produces with
          ⟨files, renders, produces⟩
        exact .finished ((preview_eq_ok_iff disk target files).mpr ⟨data, loads, renders⟩) produces
  · intro run
    rw [generate]
    cases run with
    | notLoaded fails => rw [(data_eq_error_iff disk target _).mpr fails]
    | finished previews produces =>
      rcases (preview_eq_ok_iff disk target _).mp previews with ⟨data, loads, renders⟩
      simp only [loads, (produceAll_eq_ok_iff disk final _ _).mpr ⟨_, renders, produces⟩]
    | stopped loads stops =>
      simp only [loads, (produceAll_eq_error_iff disk final _ _).mpr stops]

/-- A target whose files are all rendered gives the files of its preview. -/
theorem filesFor_eq_of_preview
    {disk : Disk}
    {target : Target}
    {files : List GeneratedFile}
    (previews : generator.preview disk target = .ok files) :
    generator.filesFor disk target = files := by
  rcases (preview_eq_ok_iff disk target files).mp previews with ⟨data, loads, renders⟩
  rw [filesFor, loads]
  exact renderedFiles_eq_of_renderAll renders

/-- Generating for a target writes the files that are rendered before the first failure. -/
theorem generate_disk
    (generator : Generator)
    (disk : Disk)
    (target : Target) :
    (generator.generate disk target).1 =
      (writeAll generator.settings.overwrite disk (generator.filesFor disk target)).1 := by
  rw [generate, filesFor]
  cases generator.data disk target with
  | error error => rfl
  | ok data =>
    dsimp only
    rw [← produceAll_disk disk generator.templates.templates]
    rcases generator.produceAll data disk generator.templates.templates with
      ⟨final, error | outcomes⟩
    · rfl
    · rfl

/-- A target whose preview gives files has the outcomes of writing them in order. -/
theorem generate_outcomes
    {disk : Disk}
    {target : Target}
    {files : List GeneratedFile}
    (previews : generator.preview disk target = .ok files) :
    (generator.generate disk target).2.map (filesOf ·.outcomes) =
      (writeAll generator.settings.overwrite disk files).2 := by
  rcases (preview_eq_ok_iff disk target files).mp previews with ⟨data, loads, renders⟩
  rw [← produceAll_outcomes renders disk, generate, loads]
  dsimp only
  rcases generator.produceAll data disk generator.templates.templates with
    ⟨final, error | outcomes⟩
  · rfl
  · rfl

/-! ## Whole runs -/

/-- A target that succeeds leaves the others to the disk after it. -/
theorem generateAll_cons_of_ok
    {disk next : Disk}
    {target : Target}
    {targets : List Target}
    {report : Report}
    (generates : generator.generate disk target = (next, .ok report)) :
    generator.generateAll disk (target :: targets) =
      ((generator.generateAll next targets).1,
        (generator.generateAll next targets).2.map (report :: ·)) := by
  rw [generateAll, generates]
  dsimp only
  rcases generator.generateAll next targets with ⟨final, error | reports⟩
  · rfl
  · rfl

/-- A target that fails ends the run. -/
theorem generateAll_cons_of_error
    {disk next : Disk}
    {target : Target}
    {targets : List Target}
    {error : GenerationError}
    (generates : generator.generate disk target = (next, .error error)) :
    generator.generateAll disk (target :: targets) = (next, .error error) := by
  rw [generateAll, generates]

/-- Generating for targets follows the rules of a run. -/
theorem generateAll_follows_run
    (disk final : Disk)
    (targets : List Target)
    (result : Except GenerationError (List Report)) :
    generator.generateAll disk targets = (final, result) ↔
      Run generator disk targets final result := by
  constructor
  · intro generates
    induction targets generalizing disk result with
    | nil =>
      rw [generateAll] at generates
      cases generates
      exact .done final
    | cons target targets hypothesis =>
      rw [generateAll] at generates
      rcases first : generator.generate disk target with ⟨next, error | report⟩
      · rw [first] at generates
        cases generates
        exact .stopped ((generate_eq_iff_targetRun disk final target _).mp first)
      · have this := (generate_eq_iff_targetRun disk next target _).mp first
        simp only [first] at generates
        rcases rest : generator.generateAll next targets with ⟨last, error | reports⟩
        · rw [rest] at generates
          cases generates
          exact .stoppedLater this (hypothesis next _ rest)
        · rw [rest] at generates
          cases generates
          exact .finished this (hypothesis next _ rest)
  · intro run
    induction run with
    | done disk => rw [generateAll]
    | finished this others hypothesis =>
      rw [generateAll]
      simp only [(generate_eq_iff_targetRun _ _ _ _).mpr this, hypothesis]
    | stoppedLater this others hypothesis =>
      rw [generateAll]
      simp only [(generate_eq_iff_targetRun _ _ _ _).mpr this, hypothesis]
    | stopped this =>
      rw [generateAll]
      simp only [(generate_eq_iff_targetRun _ _ _ _).mpr this]

/-- The report of a target names the target and covers the templates. -/
theorem TargetRun.report
    {disk final : Disk}
    {target : Target}
    {report : Report}
    (run : TargetRun generator disk target final (.ok report)) :
    report.target = target ∧ generator.Covers report.outcomes := by
  cases run with
  | finished previews produces => exact ⟨rfl, produces.pairs⟩

/-- A run that succeeds has one report for each target, in order. -/
theorem Run.reports
    {disk final : Disk}
    {targets : List Target}
    {reports : List Report}
    (run : Run generator disk targets final (.ok reports)) :
    reports.map Report.target = targets ∧
      ∀ report ∈ reports, generator.Covers report.outcomes := by
  generalize ends : Except.ok reports = result at run
  induction run generalizing reports with
  | done disk =>
    cases ends
    exact ⟨rfl, fun report isMember => nomatch isMember⟩
  | finished this others hypothesis =>
    cases ends
    rcases this.report with ⟨same, covers⟩
    rcases hypothesis rfl with ⟨sameTargets, coverOthers⟩
    exact
      ⟨congrArg₂ List.cons same sameTargets, List.forall_mem_cons.mpr ⟨covers, coverOthers⟩⟩
  | stoppedLater this others hypothesis => cases ends
  | stopped this => cases ends

/--
Generating for targets follows the rules of a run and nothing else. A run that succeeds has a report
for each target that covers the templates. A target changes the disk by the writes of the files that
are rendered before its first failure, and when its preview gives files its effect and its outcomes
are those of writing them in order until the first write that fails.
-/
theorem generateAll_previews_and_writes
    (generator : Generator) :
    (∀ disk targets final result,
        generator.generateAll disk targets = (final, result) ↔
          Run generator disk targets final result) ∧
      (∀ disk targets reports,
        (generator.generateAll disk targets).2 = .ok reports →
          reports.map Report.target = targets ∧
            ∀ report ∈ reports, generator.Covers report.outcomes) ∧
      (∀ disk target,
        (generator.generate disk target).1 =
          (writeAll generator.settings.overwrite disk (generator.filesFor disk target)).1) ∧
      ∀ disk target files,
        generator.preview disk target = .ok files →
          (generator.generate disk target).1 =
              (writeAll generator.settings.overwrite disk files).1 ∧
            (generator.generate disk target).2.map (filesOf ·.outcomes) =
              (writeAll generator.settings.overwrite disk files).2 := by
  refine ⟨?rules, ?reports, generate_disk generator, ?writes⟩
  case rules =>
    intro disk targets final result
    exact generateAll_follows_run disk final targets result
  case reports =>
    intro disk targets reports succeeds
    rcases generates : generator.generateAll disk targets with ⟨final, result⟩
    rw [generates] at succeeds
    cases succeeds
    exact ((generateAll_follows_run disk final targets (.ok reports)).mp generates).reports
  case writes =>
    intro disk target files previews
    refine ⟨?_, generate_outcomes previews⟩
    rw [generate_disk generator disk target, filesFor_eq_of_preview previews]

/-- A template that greets an entity, with directives. -/
def greeting (path fileName : Text) : Template where
  name := "note.tmpl".toList
  body := "new \x7b\x7bentity_name\x7d\x7d\n".toList
  path := some path
  fileName := some fileName

/-- A disk with a migration and a file. -/
def noted : Disk where
  nodes :=
    [(["schema.sql".toList],
        .file (.text "CREATE TABLE users (\n    id bigint NOT NULL\n);\n".toList)),
      (["keep.txt".toList], .file (.text "precious".toList))]
  working := []

/-- The table of that migration and its entity. -/
def users : Target :=
  ⟨"users".toList, "User".toList⟩

/-- A disk with a migration of two tables and a note for one of them. -/
def ledger : Disk where
  nodes :=
    [(["schema.sql".toList],
        .file
          (.text
            ("CREATE TABLE users (\n    id bigint NOT NULL\n);\n".toList ++
              "CREATE TABLE orders (\n    id bigint NOT NULL\n);\n".toList))),
      (["notes".toList], .directory),
      (["notes".toList, "User.txt".toList], .file (.text "precious".toList))]
  working := []

/-- The other table of that migration and its entity. -/
def orders : Target :=
  ⟨"orders".toList, "Order".toList⟩

/-- A generator that skips entities and keeps existing files. It has a template for entities, one
whose file all tables share, and one with a note for each table. -/
def herald : Generator :=
  of
    { Settings.of (Path.of ".") (Path.of "schema.sql") (Path.of "templates") with
      overwrite := .ifMissing
      skipped := (ByCategory.constant false).set .entity true }
    (match
      (TemplateSet.empty false).insertAll
        [{ greeting [] [] with name := "entity.tmpl".toList },
          { greeting "drafts/..".toList "last.txt".toList with name := "last.tmpl".toList },
          greeting "notes".toList "\x7b\x7bentity_name\x7d\x7d.txt".toList]
    with
    | .ok set => set
    | .error _ => TemplateSet.empty false)

/-- The files of the first table. -/
def userFiles : List GeneratedFile :=
  [⟨"last.tmpl".toList, .other, Path.of "./drafts/../last.txt", "new User\n".toList⟩,
    ⟨"note.tmpl".toList, .other, Path.of "./notes/User.txt", "new User\n".toList⟩]

/-- The files of the second table. -/
def orderFiles : List GeneratedFile :=
  [⟨"last.tmpl".toList, .other, Path.of "./drafts/../last.txt", "new Order\n".toList⟩,
    ⟨"note.tmpl".toList, .other, Path.of "./notes/Order.txt", "new Order\n".toList⟩]

/-- What becomes of the templates for the first table, whose note is there already. -/
def userReport : Report :=
  ⟨users,
    [⟨"entity.tmpl".toList, .entity, .skipped⟩,
      ⟨"last.tmpl".toList, .other, .written (Path.of "./drafts/../last.txt")⟩,
      ⟨"note.tmpl".toList, .other, .kept (Path.of "./notes/User.txt")⟩]⟩

/-- What becomes of the templates for the second table, after the first has the shared file. -/
def orderReport : Report :=
  ⟨orders,
    [⟨"entity.tmpl".toList, .entity, .skipped⟩,
      ⟨"last.tmpl".toList, .other, .kept (Path.of "./drafts/../last.txt")⟩,
      ⟨"note.tmpl".toList, .other, .written (Path.of "./notes/Order.txt")⟩]⟩

/-- The disk after the first table. -/
def afterUsers : Disk where
  nodes :=
    ledger.nodes ++
      [(["drafts".toList], .directory),
        (["last.txt".toList], .file (.text "new User\n".toList))]
  working := []

/-- The disk after both tables. -/
def afterOrders : Disk where
  nodes :=
    afterUsers.nodes ++ [(["notes".toList, "Order.txt".toList], .file (.text "new Order\n".toList))]
  working := []

theorem generateAll_herald :
    herald.generateAll ledger [users, orders] = (afterOrders, .ok [userReport, orderReport]) := by
  decide +kernel

theorem previews_herald :
    herald.preview ledger users = .ok userFiles ∧
      herald.preview afterUsers orders = .ok orderFiles := by
  decide +kernel

theorem writeAll_userFiles :
    writeAll herald.settings.overwrite ledger userFiles =
      (afterUsers,
        .ok [.written (Path.of "./drafts/../last.txt"), .kept (Path.of "./notes/User.txt")]) := by
  decide +kernel

theorem writeAll_orderFiles :
    writeAll herald.settings.overwrite afterUsers orderFiles =
      (afterOrders,
        .ok [.kept (Path.of "./drafts/../last.txt"), .written (Path.of "./notes/Order.txt")]) := by
  decide +kernel

/-- The file that two tables share is written for the first of them and kept for the second, and no
table gets a file from the template that is skipped. -/
theorem greeting_previews_and_writes :
    herald.generateAll ledger [users, orders] = (afterOrders, .ok [userReport, orderReport]) ∧
      Run herald ledger [users, orders] afterOrders (.ok [userReport, orderReport]) ∧
      herald.Covers userReport.outcomes ∧
      herald.Covers orderReport.outcomes ∧
      herald.preview ledger users = .ok userFiles ∧
      (herald.generate ledger users).1 = afterUsers ∧
      (herald.generate ledger users).2.map (filesOf ·.outcomes) =
        .ok [.written (Path.of "./drafts/../last.txt"), .kept (Path.of "./notes/User.txt")] ∧
      herald.preview afterUsers orders = .ok orderFiles ∧
      (herald.generate afterUsers orders).1 = afterOrders ∧
      (herald.generate afterUsers orders).2.map (filesOf ·.outcomes) =
        .ok [.kept (Path.of "./drafts/../last.txt"), .written (Path.of "./notes/Order.txt")] := by
  rcases generateAll_previews_and_writes herald with ⟨rules, reports, -, writes⟩
  have run := (rules ledger [users, orders] _ _).mp generateAll_herald
  have succeeds := congrArg Prod.snd generateAll_herald
  have covers := (reports ledger [users, orders] _ succeeds).2
  rw [List.forall_mem_cons, List.forall_mem_singleton] at covers
  rcases previews_herald with ⟨previewsUsers, previewsOrders⟩
  rcases writes ledger users _ previewsUsers with ⟨usersDisk, usersOutcomes⟩
  rcases writes afterUsers orders _ previewsOrders with ⟨ordersDisk, ordersOutcomes⟩
  rw [writeAll_userFiles] at usersDisk usersOutcomes
  rw [writeAll_orderFiles] at ordersDisk ordersOutcomes
  exact
    ⟨generateAll_herald, run, covers.1, covers.2, previewsUsers, usersDisk, usersOutcomes,
      previewsOrders, ordersDisk, ordersOutcomes⟩

end Generator

end Scaffold
