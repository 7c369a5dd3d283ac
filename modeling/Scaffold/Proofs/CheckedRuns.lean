import Scaffold.Command.Operation
import Scaffold.Proofs.DiskGrowth
import Scaffold.Proofs.KeptFiles

/-!
# Checks, dry runs and runs

A check loads and renders every target and counts, a dry run renders every target and lists the
files, and a run renders and writes one target after the other while the disk changes. They accept
the same targets: a check succeeds exactly when a dry run does, with the counts of what the dry run
lists (`Agree`). A run reads the migration anew for every target, so it gives the files of the dry
run as long as it does not write to the migration (`SparesMigration`). Then only a failure to write
can end it early, and a run that ends well has written or kept the listed files, in order.
-/

namespace Scaffold

/-- The path of the file of a template, unless the template was skipped. -/
def Outcome.path? : Outcome → Option Path
  | .written path | .kept path => some path
  | .skipped => none

/-- The paths of the files that were written or kept, in the order of the templates. -/
def Report.paths (report : Report) : List Path :=
  report.outcomes.filterMap (·.outcome.path?)

namespace Generator

variable {generator : Generator}

/-! ## What a check and a dry run find -/

@[simp]
theorem whileDoing_eq_ok_iff
    {α : Type}
    (wrap : GenerationError → CommandError)
    (result : Except GenerationError α)
    (value : α) :
    whileDoing wrap result = .ok value ↔ result = .ok value := by
  cases result with
  | error error => simp [whileDoing]
  | ok other => simp [whileDoing]

/-- What a dry run tells about a target. -/
def Previews
    (generator : Generator)
    (disk : Disk)
    (target : Target)
    (preview : TablePreview) :
    Prop :=
  preview.table = target.table ∧ generator.preview disk target = .ok preview.files

/-- A dry run succeeds with what it tells about every target. -/
theorem previewAll_eq_ok_iff
    (disk : Disk)
    (targets : List Target)
    (previews : List TablePreview) :
    generator.previewAll disk targets = .ok previews ↔
      List.Forall₂ (Previews generator disk) targets previews := by
  induction targets generalizing previews with
  | nil => simp [previewAll, eq_comm]
  | cons target targets hypothesis =>
    simp only [previewAll, bind, bind_eq_ok_iff, whileDoing_eq_ok_iff, hypothesis,
      List.forall₂_cons_left_iff, Except.ok.injEq]
    constructor
    · rintro ⟨files, rendered, others, later, rfl⟩
      exact ⟨⟨target.table, files⟩, others, ⟨rfl, rendered⟩, later, rfl⟩
    · rintro ⟨⟨table, files⟩, others, ⟨rfl, rendered⟩, later, rfl⟩
      exact ⟨files, rendered, others, later, rfl⟩

/-- What a check tells about a target. -/
def Summarises
    (generator : Generator)
    (disk : Disk)
    (target : Target)
    (summary : TableSummary) :
    Prop :=
  summary.target = target ∧
    ∃ table files,
      generator.loadTable disk target.table = .ok table ∧
        generator.preview disk target = .ok files ∧
        summary.columns = table.columns.length ∧
        summary.files = files.length

/-- A check succeeds with what it tells about every target. -/
theorem runCheck_eq_ok_iff
    (disk : Disk)
    (targets : List Target)
    (summaries : List TableSummary) :
    generator.runCheck disk targets = .ok summaries ↔
      List.Forall₂ (Summarises generator disk) targets summaries := by
  induction targets generalizing summaries with
  | nil => simp [runCheck, eq_comm]
  | cons target targets hypothesis =>
    simp only [runCheck, bind, bind_eq_ok_iff, whileDoing_eq_ok_iff, hypothesis,
      List.forall₂_cons_left_iff, Except.ok.injEq]
    constructor
    · rintro ⟨table, loaded, files, rendered, others, later, rfl⟩
      exact ⟨⟨target, table.columns.length, files.length⟩, others,
        ⟨rfl, table, files, loaded, rendered, rfl, rfl⟩, later, rfl⟩
    · rintro ⟨⟨_, _, _⟩, others, ⟨rfl, table, files, loaded, rendered, rfl, rfl⟩, later, rfl⟩
      exact ⟨table, loaded, files, rendered, others, later, rfl⟩

/-- The files of a target are as many as the templates that are not skipped. -/
theorem length_of_renderAll
    {data : TableData}
    {templates : List Template}
    {files : List GeneratedFile}
    (renders : generator.renderAll data templates = .ok files) :
    files.length = templates.countP fun template => !generator.skips template := by
  induction templates generalizing files with
  | nil =>
    cases renders
    rfl
  | cons template templates hypothesis =>
    by_cases skips : generator.skips template = true
    · rw [renderAll_cons_of_skips skips] at renders
      rw [List.countP_cons_of_neg (by simp [skips])]
      exact hypothesis renders
    · have used : generator.skips template = false := Bool.eq_false_iff.mpr skips
      rcases (renderAll_cons_eq_ok_iff used templates files).mp renders with
        ⟨file, others, -, rest, rfl⟩
      rw [List.countP_cons_of_pos (by simp [used]), List.length_cons, hypothesis rest]

/--
What a check and a dry run tell about the same targets fits together: they tell of the targets in
order, with one file for each template that is not skipped and one column for each field.
-/
structure Agree
    (generator : Generator)
    (disk : Disk)
    (targets : List Target)
    (summaries : List TableSummary)
    (previews : List TablePreview) :
    Prop where
  summarised : summaries.map TableSummary.target = targets
  previewed : previews.map TablePreview.table = targets.map Target.table
  counted : summaries.map TableSummary.files = previews.map (·.files.length)
  used :
    ∀ preview ∈ previews,
      preview.files.length =
        generator.templates.templates.countP fun template =>
          !generator.settings.isSkipped template.category
  columns :
    List.Forall₂
      (fun target summary =>
        ∃ data, generator.data disk target = .ok data ∧ summary.columns = data.fields.length)
      targets summaries

/-- What a check tells about targets comes with what a dry run tells about them. -/
theorem exists_previews_of_summarises
    {disk : Disk}
    {targets : List Target}
    {summaries : List TableSummary}
    (summarised : List.Forall₂ (Summarises generator disk) targets summaries) :
    ∃ previews,
      List.Forall₂ (Previews generator disk) targets previews ∧
        Agree generator disk targets summaries previews := by
  induction summarised with
  | nil =>
    exact
      ⟨[], .nil,
        { summarised := rfl
          previewed := rfl
          counted := rfl
          used := fun _ isMember => nomatch isMember
          columns := .nil }⟩
  | @cons target summary targets summaries here later hypothesis =>
    rcases hypothesis with ⟨previews, previewed, agree⟩
    rcases here with ⟨named, table, files, loaded, rendered, columns, counted⟩
    have loads :=
      (data_eq_ok_iff disk target _).mpr ⟨table, loaded, rfl⟩
    have used : files.length = generator.templates.templates.countP (!generator.skips ·) := by
      rcases (preview_eq_ok_iff disk target files).mp rendered with ⟨data, -, renders⟩
      exact length_of_renderAll renders
    exact
      ⟨⟨target.table, files⟩ :: previews, .cons ⟨rfl, rendered⟩ previewed,
        { summarised := congrArg₂ List.cons named agree.summarised
          previewed := congrArg₂ List.cons rfl agree.previewed
          counted := congrArg₂ List.cons counted agree.counted
          used := List.forall_mem_cons.mpr ⟨used, agree.used⟩
          columns :=
            .cons ⟨_, loads, by rw [columns, TableData.fields_of, List.length_map]⟩
              agree.columns }⟩

/-- What a dry run tells about targets comes with what a check tells about them. -/
theorem exists_summaries_of_previews
    {disk : Disk}
    {targets : List Target}
    {previews : List TablePreview}
    (previewed : List.Forall₂ (Previews generator disk) targets previews) :
    ∃ summaries, List.Forall₂ (Summarises generator disk) targets summaries := by
  induction previewed with
  | nil => exact ⟨[], .nil⟩
  | @cons target preview targets previews here later hypothesis =>
    rcases hypothesis with ⟨summaries, summarised⟩
    rcases (preview_eq_ok_iff disk target _).mp here.2 with ⟨data, loads, -⟩
    rcases (data_eq_ok_iff disk target data).mp loads with ⟨table, loaded, -⟩
    exact
      ⟨⟨target, table.columns.length, preview.files.length⟩ :: summaries,
        .cons ⟨rfl, table, preview.files, loaded, here.2, rfl, rfl⟩ summarised⟩

/-! ## Runs that leave the migration alone -/

/-- No file of a run is written at a place. -/
def Spares (generator : Generator) (place : Place) (disk : Disk) (targets : List Target) : Prop :=
  ∀ write ∈ generator.handedBy disk targets,
    write.found.written? generator.settings.overwrite write.file.path ≠ some place

/-- No file of a run is written where the migration is. -/
def SparesMigration (generator : Generator) (disk : Disk) (targets : List Target) : Prop :=
  ∀ place,
    disk.place? generator.settings.migration = some place → generator.Spares place disk targets

/-- A file stays as it is when no file is written at its place. -/
theorem at?_writeAll_of_spared
    {policy : OverwritePolicy}
    {disk : Disk}
    {place : Place}
    {content : Content}
    {files : List GeneratedFile}
    (stands : disk.at? place = some (.file content))
    (spared :
      ∀ write ∈ handed policy disk files,
        write.found.written? policy write.file.path ≠ some place) :
    (writeAll policy disk files).1.at? place = some (.file content) := by
  induction files generalizing disk with
  | nil => exact stands
  | cons file files hypothesis =>
    rw [handed] at spared
    rcases List.forall_mem_cons.mp spared with ⟨here, later⟩
    have stays := Disk.at?_write stands policy file.path file.content
    rw [if_neg here] at stays
    rcases writes : disk.write policy file.path file.content with ⟨next, result⟩
    rw [writes] at stays later
    simp only [writeAll, writes]
    cases result with
    | written => exact hypothesis stays later
    | kept => exact hypothesis stays later
    | failed => exact stays

/-- A disk grows while files are written. -/
theorem grown_writeAll
    (policy : OverwritePolicy)
    (disk : Disk)
    (files : List GeneratedFile) :
    Disk.Grown disk (writeAll policy disk files).1 := by
  induction files generalizing disk with
  | nil => exact .refl disk
  | cons file files hypothesis =>
    rcases writes : disk.write policy file.path file.content with ⟨next, result⟩
    have grown := Disk.grown_of_write writes
    simp only [writeAll, writes]
    cases result with
    | written => exact grown.trans (hypothesis next)
    | kept => exact grown.trans (hypothesis next)
    | failed => exact grown

/-- Files that are written in order have their paths as outcomes, or the first failure is one to
write. -/
theorem writeAll_result
    (policy : OverwritePolicy)
    (disk : Disk)
    (files : List GeneratedFile) :
    (∃ cause, (writeAll policy disk files).2 = .error cause ∧ cause.kind = .io) ∨
      ∃ outcomes,
        (writeAll policy disk files).2 = .ok outcomes ∧
          outcomes.filterMap Outcome.path? = files.map GeneratedFile.path := by
  induction files generalizing disk with
  | nil => exact Or.inr ⟨[], rfl, rfl⟩
  | cons file files hypothesis =>
    rcases writes : disk.write policy file.path file.content with ⟨next, result⟩
    simp only [writeAll, writes]
    cases becomes : outcomeOf? file.path result with
    | none => exact Or.inl ⟨_, rfl, rfl⟩
    | some outcome =>
      have path : outcome.path? = some file.path := by
        cases result with
        | written =>
          cases becomes
          rfl
        | kept =>
          cases becomes
          rfl
        | failed => cases becomes
      rcases hypothesis next with ⟨cause, fails, kind⟩ | ⟨outcomes, succeeds, paths⟩
      · exact Or.inl ⟨cause, by rw [fails]; rfl, kind⟩
      · refine Or.inr ⟨outcome :: outcomes, by rw [succeeds]; rfl, ?_⟩
        rw [List.filterMap_cons_some path, paths, List.map_cons]

theorem paths_eq_filterMap_filesOf
    (report : Report) :
    report.paths = (filesOf report.outcomes).filterMap Outcome.path? := by
  rw [Report.paths, filesOf, List.filterMap_filter, List.filterMap_map]
  apply List.filterMap_congr
  intro entry _
  rw [Function.comp_apply]
  cases entry.outcome with
  | written path => rfl
  | kept path => rfl
  | skipped => rfl

/-- A target whose files can all be rendered has their paths in its report, or fails to write. -/
theorem generate_of_preview
    {disk : Disk}
    {target : Target}
    {files : List GeneratedFile}
    (previews : generator.preview disk target = .ok files) :
    (∃ cause, (generator.generate disk target).2 = .error cause ∧ cause.kind = .io) ∨
      ∃ report,
        (generator.generate disk target).2 = .ok report ∧
          report.target = target ∧
          report.paths = files.map GeneratedFile.path := by
  have results := generate_outcomes previews
  rcases generates : generator.generate disk target with ⟨next, error | report⟩
  · rw [generates] at results
    rcases writeAll_result generator.settings.overwrite disk files with
      ⟨cause, fails, kind⟩ | ⟨outcomes, succeeds, -⟩
    · rw [fails] at results
      cases results
      exact Or.inl ⟨_, rfl, kind⟩
    · rw [succeeds] at results
      cases results
  · rw [generates] at results
    rcases writeAll_result generator.settings.overwrite disk files with
      ⟨cause, fails, -⟩ | ⟨outcomes, succeeds, paths⟩
    · rw [fails] at results
      cases results
    · rw [succeeds] at results
      cases results
      refine Or.inr ⟨report, rfl, ?_, (paths_eq_filterMap_filesOf report).trans paths⟩
      exact ((generate_eq_iff_targetRun disk next target _).mp generates).report.1

/-- Files can only be rendered when the migration can be read. -/
theorem exists_read?_of_preview
    {disk : Disk}
    {target : Target}
    {files : List GeneratedFile}
    (previews : generator.preview disk target = .ok files) :
    ∃ text, disk.read? generator.settings.migration = some text := by
  rcases (preview_eq_ok_iff disk target files).mp previews with ⟨data, loads, -⟩
  rcases (data_eq_ok_iff disk target data).mp loads with ⟨table, loaded, -⟩
  rcases (loadTable_eq_ok_iff disk target.table table).mp loaded with ⟨text, reads, -⟩
  exact ⟨text, reads⟩

/-- A target that leaves the migration alone leaves it where it is and as it is. -/
theorem migration_stays
    {disk next : Disk}
    {target : Target}
    {targets : List Target}
    {place : Place}
    {text : Text}
    {result : Except GenerationError Report}
    (leads : disk.place? generator.settings.migration = some place)
    (stands : disk.at? place = some (.file (.text text)))
    (spared : generator.Spares place disk (target :: targets))
    (generates : generator.generate disk target = (next, result)) :
    next.place? generator.settings.migration = some place ∧
      next.at? place = some (.file (.text text)) := by
  have writes := generate_disk generator disk target
  rw [generates] at writes
  have grown :=
    grown_writeAll generator.settings.overwrite disk (generator.filesFor disk target)
  rw [← writes] at grown
  have stays :=
    at?_writeAll_of_spared stands fun write isMember =>
      spared write (by rw [handedBy]; exact List.mem_append_left _ isMember)
  rw [← writes] at stays
  exact ⟨grown.place?_eq_some leads, stays⟩

/--
A run that leaves the migration alone gives the files of a dry run, or fails to write one of them.
The induction is on the targets, for every disk on which the migration is where it was and as it
was.
-/
theorem generateAll_of_previews
    {start : Disk}
    {text : Text}
    (reads : start.read? generator.settings.migration = some text)
    {targets : List Target}
    {previews : List TablePreview}
    (previewed : List.Forall₂ (Previews generator start) targets previews)
    {disk : Disk}
    {place : Place}
    (leads : disk.place? generator.settings.migration = some place)
    (stands : disk.at? place = some (.file (.text text)))
    (spared : generator.Spares place disk targets) :
    (∃ cause, (generator.generateAll disk targets).2 = .error cause ∧ cause.kind = .io) ∨
      ∃ reports,
        (generator.generateAll disk targets).2 = .ok reports ∧
          reports.map Report.target = targets ∧
          reports.map Report.paths =
            previews.map fun preview => preview.files.map GeneratedFile.path := by
  induction previewed generalizing disk with
  | nil => exact Or.inr ⟨[], rfl, rfl, rfl⟩
  | @cons target preview targets previews here later hypothesis =>
    have readsSame := (Disk.read?_eq_some_iff disk _ text).mpr ⟨place, leads, stands⟩
    have rendered : generator.preview disk target = .ok preview.files := by
      rw [Generator.preview, data_eq_of_read? (readsSame.trans reads.symm)]
      exact here.2
    have first := generate_of_preview rendered
    rcases generates : generator.generate disk target with ⟨next, result⟩
    rw [generates] at first
    rcases first with ⟨cause, rfl, kind⟩ | ⟨report, rfl, named, paths⟩
    · exact Or.inl ⟨cause, by rw [generateAll_cons_of_error generates], kind⟩
    · rcases migration_stays leads stands spared generates with ⟨leadsNext, standsNext⟩
      have sparedNext : generator.Spares place next targets := by
        intro write isMember
        refine spared write ?_
        rw [handedBy, generates]
        exact List.mem_append_right _ isMember
      rw [generateAll_cons_of_ok generates]
      rcases hypothesis leadsNext standsNext sparedNext with
        ⟨cause, fails, kind⟩ | ⟨reports, succeeds, namedRest, pathsRest⟩
      · exact Or.inl ⟨cause, by rw [fails]; rfl, kind⟩
      · exact
          Or.inr
            ⟨report :: reports, by rw [succeeds]; rfl, congrArg₂ List.cons named namedRest,
              congrArg₂ List.cons paths pathsRest⟩

/--
A check succeeds exactly when a dry run does, and then both agree. A run on the same disk that
leaves the migration alone then fails to write a file, or succeeds with a report for each target
whose written and kept files are those of the dry run, in order.
-/
theorem check_agrees_with_runs
    (generator : Generator)
    (disk : Disk)
    (targets : List Target) :
    ((∃ summaries, generator.runCheck disk targets = .ok summaries) ↔
        ∃ summary, (generator.runGenerate disk targets true).2 = .ok summary) ∧
      ∀ summaries,
        generator.runCheck disk targets = .ok summaries →
          ∃ previews,
            generator.runGenerate disk targets true = (disk, .ok (.preview previews)) ∧
              Agree generator disk targets summaries previews ∧
              (generator.SparesMigration disk targets →
                (∃ cause,
                    (generator.runGenerate disk targets false).2 = .error (.generating cause) ∧
                      cause.kind = .io) ∨
                  ∃ reports,
                    (generator.runGenerate disk targets false).2 = .ok (.written reports) ∧
                      reports.map Report.target = targets ∧
                      reports.map Report.paths =
                        previews.map fun preview => preview.files.map GeneratedFile.path) := by
  constructor
  · constructor
    · rintro ⟨summaries, checks⟩
      have summarised := (runCheck_eq_ok_iff disk targets summaries).mp checks
      rcases exists_previews_of_summarises summarised with ⟨previews, previewed, -⟩
      have renders := (previewAll_eq_ok_iff disk targets previews).mpr previewed
      exact ⟨.preview previews, by rw [runGenerate, if_pos rfl, renders]; rfl⟩
    · rintro ⟨summary, runs⟩
      rw [runGenerate, if_pos rfl] at runs
      cases renders : generator.previewAll disk targets with
      | error error =>
        rw [renders] at runs
        cases runs
      | ok previews =>
        have previewed := (previewAll_eq_ok_iff disk targets previews).mp renders
        rcases exists_summaries_of_previews previewed with ⟨summaries, summarised⟩
        exact ⟨summaries, (runCheck_eq_ok_iff disk targets summaries).mpr summarised⟩
  · intro summaries checks
    have summarised := (runCheck_eq_ok_iff disk targets summaries).mp checks
    rcases exists_previews_of_summarises summarised with ⟨previews, previewed, agree⟩
    have renders := (previewAll_eq_ok_iff disk targets previews).mpr previewed
    refine ⟨previews, by rw [runGenerate, if_pos rfl, renders]; rfl, agree, ?_⟩
    intro spared
    have run :
        (∃ cause, (generator.generateAll disk targets).2 = .error cause ∧ cause.kind = .io) ∨
          ∃ reports,
            (generator.generateAll disk targets).2 = .ok reports ∧
              reports.map Report.target = targets ∧
              reports.map Report.paths =
                previews.map fun preview => preview.files.map GeneratedFile.path := by
      cases previewed with
      | nil => exact Or.inr ⟨[], rfl, rfl, rfl⟩
      | cons here later =>
        rcases exists_read?_of_preview here.2 with ⟨text, reads⟩
        rcases (Disk.read?_eq_some_iff disk _ text).mp reads with ⟨place, leads, stands⟩
        exact generateAll_of_previews reads (.cons here later) leads stands (spared place leads)
    rw [runGenerate, if_neg Bool.false_ne_true]
    rcases generates : generator.generateAll disk targets with ⟨final, result⟩
    rw [generates] at run
    rcases run with ⟨cause, rfl, kind⟩ | ⟨reports, rfl, named, paths⟩
    · exact Or.inl ⟨cause, rfl, kind⟩
    · exact Or.inr ⟨reports, rfl, named, paths⟩

/-- What a check tells about that table. -/
def usersSummary : TableSummary :=
  ⟨users, 1, 1⟩

theorem greeting_agrees :
    (greeter .ifMissing "missing/..".toList "keep.txt".toList).runCheck noted [users, users] =
        .ok [usersSummary, usersSummary] ∧
      (greeter .ifMissing "missing/..".toList "keep.txt".toList).SparesMigration noted
        [users, users] ∧
      ((∃ cause,
          ((greeter .ifMissing "missing/..".toList "keep.txt".toList).runGenerate noted
                [users, users] false).2 =
              .error (.generating cause) ∧
            cause.kind = .io) ∨
        ∃ reports,
          ((greeter .ifMissing "missing/..".toList "keep.txt".toList).runGenerate noted
                [users, users] false).2 =
              .ok (.written reports) ∧
            reports.map Report.target = [users, users]) := by
  have checks :
      (greeter .ifMissing "missing/..".toList "keep.txt".toList).runCheck noted [users, users] =
        .ok [usersSummary, usersSummary] := by
    decide +kernel
  have spared :
      (greeter .ifMissing "missing/..".toList "keep.txt".toList).SparesMigration noted
        [users, users] := by
    intro place leads
    have found :
        noted.place?
            (greeter .ifMissing "missing/..".toList "keep.txt".toList).settings.migration =
          some ["schema.sql".toList] := by
      decide +kernel
    rw [found] at leads
    cases leads
    rw [Spares]
    decide +kernel
  rcases
      (check_agrees_with_runs (greeter .ifMissing "missing/..".toList "keep.txt".toList) noted
            [users, users]).2
        _ checks with
    ⟨previews, -, -, run⟩
  refine ⟨checks, spared, ?_⟩
  rcases run spared with failed | ⟨reports, succeeds, named, -⟩
  · exact Or.inl failed
  · exact Or.inr ⟨reports, succeeds, named⟩

end Generator

end Scaffold
