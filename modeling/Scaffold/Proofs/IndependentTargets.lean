import Scaffold.Proofs.ApartWrites
import Scaffold.Proofs.CheckedRuns
import Scaffold.Proofs.RepeatedRuns

/-!
# Targets in another order

Two targets are independent when their files go to places apart from each other, by paths that do
not turn back, and none of them is the migration (`Independent`). Then it does not matter which one
comes first. Both find the same text of the migration, so they have the same files, and each write
of the one can be moved past all writes of the other. Hence a run over targets that are pairwise
independent ends in the same disk with the same reports in any order.

Disks are compared by what stands at each place (`Disk.Same`). Which order the nodes were added in
can be told from the list of them, but from nothing that a run reads.
-/

namespace Scaffold.Generator

open Disk (AreApart)

variable {generator : Generator}

/-! ## Files on disks that are the same -/

/-- Files are written to disks that are the same with the same outcomes. -/
theorem Produces.same
    {disk final listed : Disk}
    {templates : List Template}
    {files : List GeneratedFile}
    {outcomes : List TemplateOutcome}
    (produces : Produces generator disk templates files final outcomes)
    (same : listed.Same disk) :
    ∃ last, Produces generator listed templates files last outcomes ∧ last.Same final := by
  induction produces generalizing listed with
  | done disk => exact ⟨listed, .done listed, same⟩
  | skipped skips others hypothesis =>
    rcases hypothesis same with ⟨last, produces, sameLast⟩
    exact ⟨last, .skipped skips produces, sameLast⟩
  | @produced next result outcome files final outcomes disk file _ _ used writes becomes others
      hypothesis =>
    have both := same.write generator.settings.overwrite file.path file.content
    rcases writesListed :
        listed.write generator.settings.overwrite file.path file.content with ⟨listedNext, _⟩
    rw [writesListed, writes] at both
    rcases both with ⟨sameNext, rfl⟩
    rcases hypothesis sameNext with ⟨last, produces, sameLast⟩
    exact ⟨last, .produced used writesListed becomes produces, sameLast⟩

/-- Files that are written to a file tree leave one. -/
theorem Produces.fileTree
    {disk final : Disk}
    {templates : List Template}
    {files : List GeneratedFile}
    {outcomes : List TemplateOutcome}
    (produces : Produces generator disk templates files final outcomes)
    (fileTree : disk.IsFileTree) :
    final.IsFileTree := by
  induction produces with
  | done disk => exact fileTree
  | skipped skips others hypothesis => exact hypothesis fileTree
  | produced used writes becomes others hypothesis => exact hypothesis (fileTree.write writes)

/-! ## Moving files past each other -/

theorem ne_failed_of_outcomeOf?
    {path : Path}
    {result : Disk.WriteResult}
    {outcome : Outcome}
    (becomes : outcomeOf? path result = some outcome) :
    result ≠ .failed := by
  rintro rfl
  cases becomes

/-- A write comes to the same before and after files whose places are apart from its own. The
induction is on the files, for every disk that the write starts from. -/
theorem Produces.after_write
    {disk final start next : Disk}
    {templates : List Template}
    {files : List GeneratedFile}
    {outcomes : List TemplateOutcome}
    {path : Path}
    {text : Text}
    {result : Disk.WriteResult}
    (produces : Produces generator disk templates files final outcomes)
    (fileTree : start.IsFileTree)
    (straight : .parent ∉ path.components)
    (straightFiles : ∀ file ∈ files, .parent ∉ file.path.components)
    (apart :
      ∀ file ∈ files, AreApart (start.placeNamed path) (start.placeNamed file.path))
    (writes : start.write generator.settings.overwrite path text = (next, result))
    (went : result ≠ .failed)
    (same : next.Same disk) :
    ∃ between last : Disk,
      Produces generator start templates files between outcomes ∧
        between.write generator.settings.overwrite path text = (last, result) ∧
        last.Same final := by
  induction produces generalizing start next with
  | done disk => exact ⟨start, next, .done start, writes, same⟩
  | skipped skips others hypothesis =>
    rcases hypothesis fileTree straightFiles apart writes same with
      ⟨between, last, produces, writesLast, sameLast⟩
    exact ⟨between, last, .skipped skips produces, writesLast, sameLast⟩
  | @produced reached fileResult outcome files final outcomes disk file _ _ used writesFile becomes
      others hypothesis =>
    rw [List.forall_mem_cons] at straightFiles apart
    have both := same.write generator.settings.overwrite file.path file.content
    rcases writesNext :
        next.write generator.settings.overwrite file.path file.content with ⟨nextReached, _⟩
    rw [writesNext, writesFile] at both
    rcases both with ⟨sameReached, rfl⟩
    rcases
        fileTree.write_comm straight straightFiles.1 apart.1 writes went writesNext
          (ne_failed_of_outcomeOf? becomes) with
      ⟨startReached, swapped, writesStart, writesSwapped, sameSwapped⟩
    have working := (Disk.grown_of_write writesStart).working
    have apartLater :
        ∀ other ∈ files,
          AreApart (startReached.placeNamed path) (startReached.placeNamed other.path) := by
      intro other isMember
      rw [Disk.placeNamed_of_working working, Disk.placeNamed_of_working working]
      exact apart.2 other isMember
    rcases
        hypothesis (fileTree.write writesStart) straightFiles.2 apartLater writesSwapped
          (sameSwapped.trans sameReached) with
      ⟨between, last, produces, writesLast, sameLast⟩
    exact ⟨between, last, .produced used writesStart becomes produces, writesLast, sameLast⟩

/-- Files whose places are apart can be written in any order. The induction is on those that came
first: each of them is moved past all of the others. -/
theorem Produces.comm
    {disk next final : Disk}
    {templates otherTemplates : List Template}
    {files otherFiles : List GeneratedFile}
    {outcomes otherOutcomes : List TemplateOutcome}
    (produces : Produces generator disk templates files next outcomes)
    (producesOther : Produces generator next otherTemplates otherFiles final otherOutcomes)
    (fileTree : disk.IsFileTree)
    (straight : ∀ file ∈ files, .parent ∉ file.path.components)
    (straightOther : ∀ file ∈ otherFiles, .parent ∉ file.path.components)
    (apart :
      ∀ file ∈ files, ∀ other ∈ otherFiles,
        AreApart (disk.placeNamed file.path) (disk.placeNamed other.path)) :
    ∃ between last : Disk,
      Produces generator disk otherTemplates otherFiles between otherOutcomes ∧
        Produces generator between templates files last outcomes ∧
        last.Same final := by
  induction produces with
  | done disk => exact ⟨final, final, producesOther, .done final, .refl final⟩
  | skipped skips others hypothesis =>
    rcases hypothesis producesOther fileTree straight apart with
      ⟨between, last, first, second, same⟩
    exact ⟨between, last, first, .skipped skips second, same⟩
  | @produced reached result outcome files next outcomes disk file _ _ used writes becomes others
      hypothesis =>
    rw [List.forall_mem_cons] at straight apart
    have working := (Disk.grown_of_write writes).working
    have apartLater :
        ∀ later ∈ files, ∀ other ∈ otherFiles,
          AreApart (reached.placeNamed later.path) (reached.placeNamed other.path) := by
      intro later isMember other isOther
      rw [Disk.placeNamed_of_working working, Disk.placeNamed_of_working working]
      exact apart.2 later isMember other isOther
    rcases hypothesis producesOther (fileTree.write writes) straight.2 apartLater with
      ⟨reachedBetween, reachedLast, first, second, sameReached⟩
    rcases
        first.after_write fileTree straight.1 straightOther apart.1 writes
          (ne_failed_of_outcomeOf? becomes) (.refl reached) with
      ⟨between, written, producesBetween, writesWritten, sameWritten⟩
    rcases second.same sameWritten with ⟨last, producesLast, sameLast⟩
    exact
      ⟨between, last, producesBetween, .produced used writesWritten becomes producesLast,
        sameLast.trans sameReached⟩

/-! ## The migration -/

/-- Files that are not written to a place leave the file there. -/
theorem Produces.file_stays
    {disk final : Disk}
    {templates : List Template}
    {files : List GeneratedFile}
    {outcomes : List TemplateOutcome}
    {place : Place}
    {content : Content}
    (produces : Produces generator disk templates files final outcomes)
    (straight : ∀ file ∈ files, .parent ∉ file.path.components)
    (spares : ∀ file ∈ files, place ≠ disk.placeNamed file.path)
    (stands : disk.at? place = some (.file content)) :
    final.at? place = some (.file content) := by
  induction produces with
  | done disk => exact stands
  | skipped skips others hypothesis => exact hypothesis straight spares stands
  | @produced reached result outcome files next outcomes disk file _ _ used writes becomes others
      hypothesis =>
    rw [List.forall_mem_cons] at straight spares
    have stays := Disk.at?_write stands generator.settings.overwrite file.path file.content
    rw [writes, if_neg fun lands =>
      spares.1 (Disk.place_of_written? straight.1 lands)] at stays
    refine hypothesis straight.2 ?_ stays
    intro later isMember
    rw [Disk.placeNamed_of_working (Disk.grown_of_write writes).working]
    exact spares.2 later isMember

/-- Files that do not go where the migration is leave its text. -/
theorem Produces.read?_migration
    {disk final : Disk}
    {templates : List Template}
    {files : List GeneratedFile}
    {outcomes : List TemplateOutcome}
    {text : Text}
    (produces : Produces generator disk templates files final outcomes)
    (straight : ∀ file ∈ files, .parent ∉ file.path.components)
    (spares :
      ∀ file ∈ files,
        disk.place? generator.settings.migration ≠ some (disk.placeNamed file.path))
    (reads : disk.read? generator.settings.migration = some text) :
    final.read? generator.settings.migration = some text := by
  rcases (Disk.read?_eq_some_iff disk _ text).mp reads with ⟨place, leads, stands⟩
  refine
    (Disk.read?_eq_some_iff final _ text).mpr
      ⟨place, produces.grown.place?_eq_some leads, produces.file_stays straight ?_ stands⟩
  intro file isMember same
  exact spares file isMember (leads.trans (congrArg some same))

/-! ## Independent targets -/

/-- The paths of the files in the preview of a target. -/
def outputs (generator : Generator) (disk : Disk) (target : Target) : List Path :=
  match generator.preview disk target with
  | .ok files => files.map GeneratedFile.path
  | .error _ => []

/-- The files of a target go to paths that do not turn back and are not the migration. -/
structure KeepsClear (generator : Generator) (disk : Disk) (target : Target) : Prop where
  straight : ∀ path ∈ generator.outputs disk target, .parent ∉ path.components
  spares :
    ∀ path ∈ generator.outputs disk target,
      disk.place? generator.settings.migration ≠ some (disk.placeNamed path)

/-- Two targets keep clear of the migration and of each other: no file of the one goes where a file
of the other does, or to a place above that. -/
structure Independent (generator : Generator) (disk : Disk) (first second : Target) : Prop where
  clearFirst : generator.KeepsClear disk first
  clearSecond : generator.KeepsClear disk second
  apart :
    ∀ path ∈ generator.outputs disk first, ∀ other ∈ generator.outputs disk second,
      AreApart (disk.placeNamed path) (disk.placeNamed other)

theorem Independent.symm
    {disk : Disk}
    {first second : Target}
    (independent : generator.Independent disk first second) :
    generator.Independent disk second first where
  clearFirst := independent.clearSecond
  clearSecond := independent.clearFirst
  apart := fun other isOther path isMember => (independent.apart path isMember other isOther).symm

theorem outputs_of_preview
    {disk : Disk}
    {target : Target}
    {files : List GeneratedFile}
    (previews : generator.preview disk target = .ok files) :
    generator.outputs disk target = files.map GeneratedFile.path := by
  rw [outputs, previews]

/-- A target succeeds when its files are rendered and none of them fails to be written. -/
theorem generate_eq_ok_iff
    (disk final : Disk)
    (target : Target)
    (report : Report) :
    generator.generate disk target = (final, .ok report) ↔
      ∃ files,
        generator.preview disk target = .ok files ∧
          Produces generator disk generator.templates.templates files final report.outcomes ∧
          report.target = target := by
  rw [generate_eq_iff_targetRun]
  constructor
  · intro run
    cases run with
    | finished previews produces => exact ⟨_, previews, produces, rfl⟩
  · rintro ⟨files, previews, produces, rfl⟩
    exact .finished previews produces

/-- The files of a target depend on the text of the migration alone. -/
theorem preview_eq_of_read?
    {disk other : Disk}
    (same : other.read? generator.settings.migration = disk.read? generator.settings.migration)
    (target : Target) :
    generator.preview other target = generator.preview disk target := by
  rw [preview, preview, data_eq_of_read? same]

section AfterTarget

variable
  {disk next : Disk}
  {target : Target}
  {report : Report}
  (clear : generator.KeepsClear disk target)
  (generates : generator.generate disk target = (next, .ok report))

include clear generates

/-- A target that keeps clear of the migration leaves its text and where it is. -/
theorem KeepsClear.migration_stays :
    next.working = disk.working ∧
      next.place? generator.settings.migration = disk.place? generator.settings.migration ∧
      next.read? generator.settings.migration = disk.read? generator.settings.migration := by
  rcases (generate_eq_ok_iff disk next target report).mp generates with
    ⟨files, previews, produces, -⟩
  rcases clear with ⟨straight, spares⟩
  rw [outputs_of_preview previews, List.forall_mem_map] at straight spares
  rcases exists_read?_of_preview previews with ⟨text, reads⟩
  rcases (Disk.read?_eq_some_iff disk _ text).mp reads with ⟨place, leads, -⟩
  refine ⟨produces.grown.working, ?_, ?_⟩
  · rw [leads]
    exact produces.grown.place?_eq_some leads
  · rw [reads]
    exact produces.read?_migration straight spares reads

theorem KeepsClear.preview_after
    (other : Target) :
    generator.preview next other = generator.preview disk other :=
  preview_eq_of_read? (clear.migration_stays generates).2.2 other

/-- Targets that are independent stay so. -/
theorem KeepsClear.independent_after
    {first second : Target}
    (independent : generator.Independent disk first second) :
    generator.Independent next first second := by
  rcases clear.migration_stays generates with ⟨working, leads, -⟩
  have outputs (other : Target) : generator.outputs next other = generator.outputs disk other := by
    rw [Generator.outputs, Generator.outputs, clear.preview_after generates]
  have places := Disk.placeNamed_of_working working
  have clearAfter
      {other : Target}
      (clearBefore : generator.KeepsClear disk other) :
      generator.KeepsClear next other := by
    rcases clearBefore with ⟨straight, spares⟩
    constructor
    · rw [outputs]
      exact straight
    · rw [outputs, leads]
      simp only [places]
      exact spares
  refine ⟨clearAfter independent.clearFirst, clearAfter independent.clearSecond, ?_⟩
  rw [outputs, outputs]
  simp only [places]
  exact independent.apart

end AfterTarget

/-- Two independent targets that succeed one after the other do so in the other order as well, with
the same reports and the same disk. -/
theorem Independent.generate_comm
    {disk next final : Disk}
    {first second : Target}
    {report otherReport : Report}
    (independent : generator.Independent disk first second)
    (fileTree : disk.IsFileTree)
    (generates : generator.generate disk first = (next, .ok report))
    (generatesOther : generator.generate next second = (final, .ok otherReport)) :
    ∃ between last : Disk,
      generator.generate disk second = (between, .ok otherReport) ∧
        generator.generate between first = (last, .ok report) ∧
        last.Same final := by
  rcases (generate_eq_ok_iff disk next first report).mp generates with
    ⟨files, previews, produces, named⟩
  rcases (generate_eq_ok_iff next final second otherReport).mp generatesOther with
    ⟨otherFiles, otherPreviews, otherProduces, otherNamed⟩
  rw [independent.clearFirst.preview_after generates] at otherPreviews
  have straight := independent.clearFirst.straight
  have straightOther := independent.clearSecond.straight
  have apart := independent.apart
  rw [outputs_of_preview previews] at straight apart
  rw [outputs_of_preview otherPreviews] at straightOther apart
  simp only [List.forall_mem_map] at straight straightOther apart
  rcases produces.comm otherProduces fileTree straight straightOther apart with
    ⟨between, last, producesBetween, producesLast, same⟩
  have generatesBetween : generator.generate disk second = (between, .ok otherReport) :=
    (generate_eq_ok_iff disk between second otherReport).mpr
      ⟨otherFiles, otherPreviews, producesBetween, otherNamed⟩
  refine ⟨between, last, generatesBetween, ?_, same⟩
  refine (generate_eq_ok_iff between last first report).mpr ⟨files, ?_, producesLast, named⟩
  rw [independent.clearSecond.preview_after generatesBetween]
  exact previews

/-! ## Runs in any order -/

theorem generate_of_same
    {disk final listed : Disk}
    {target : Target}
    {report : Report}
    (same : listed.Same disk)
    (generates : generator.generate disk target = (final, .ok report)) :
    ∃ last, generator.generate listed target = (last, .ok report) ∧ last.Same final := by
  rcases (generate_eq_ok_iff disk final target report).mp generates with
    ⟨files, previews, produces, named⟩
  rcases produces.same same with ⟨last, producesLast, sameLast⟩
  refine ⟨last, (generate_eq_ok_iff listed last target report).mpr ⟨files, ?_, producesLast, named⟩,
    sameLast⟩
  rw [preview_eq_of_read? (same.read? _)]
  exact previews

theorem generateAll_cons_eq_ok_iff
    (disk final : Disk)
    (target : Target)
    (targets : List Target)
    (reports : List Report) :
    generator.generateAll disk (target :: targets) = (final, .ok reports) ↔
      ∃ next report others,
        generator.generate disk target = (next, .ok report) ∧
          generator.generateAll next targets = (final, .ok others) ∧
          reports = report :: others := by
  rcases generates : generator.generate disk target with ⟨next, error | report⟩
  · rw [generateAll_cons_of_error generates]
    simp
  · rw [generateAll_cons_of_ok generates]
    rcases generates : generator.generateAll next targets with ⟨last, error | others⟩
    · simp [Except.map, generates]
    · simp [Except.map, generates, eq_comm]

theorem generateAll_of_same
    {disk final listed : Disk}
    {targets : List Target}
    {reports : List Report}
    (same : listed.Same disk)
    (generates : generator.generateAll disk targets = (final, .ok reports)) :
    ∃ last, generator.generateAll listed targets = (last, .ok reports) ∧ last.Same final := by
  induction targets generalizing disk listed reports with
  | nil =>
    cases generates
    exact ⟨listed, rfl, same⟩
  | cons target targets hypothesis =>
    rcases (generateAll_cons_eq_ok_iff disk final target targets reports).mp generates with
      ⟨next, report, others, here, later, rfl⟩
    rcases generate_of_same same here with ⟨listedNext, hereListed, sameNext⟩
    rcases hypothesis sameNext later with ⟨last, laterListed, sameLast⟩
    exact
      ⟨last,
        (generateAll_cons_eq_ok_iff listed last target targets _).mpr
          ⟨listedNext, report, others, hereListed, laterListed, rfl⟩,
        sameLast⟩

/-- A run over targets that are pairwise independent succeeds in any order of them, with the same
reports and the same disk. The induction is on the rearrangement, for every disk. -/
theorem generateAll_of_perm
    {targets arranged : List Target}
    (order : targets.Perm arranged)
    {disk final : Disk}
    {reports : List Report}
    (fileTree : disk.IsFileTree)
    (independent : targets.Pairwise (generator.Independent disk))
    (generates : generator.generateAll disk targets = (final, .ok reports)) :
    ∃ last others,
      generator.generateAll disk arranged = (last, .ok others) ∧
        last.Same final ∧
        others.Perm reports := by
  induction order generalizing disk final reports with
  | nil => exact ⟨final, reports, generates, .refl final, .refl reports⟩
  | @cons target targets arranged _ hypothesis =>
    rcases (generateAll_cons_eq_ok_iff disk final target targets reports).mp generates with
      ⟨next, report, later, here, rest, rfl⟩
    rcases (generate_eq_ok_iff disk next target report).mp here with ⟨files, -, produces, -⟩
    rw [List.pairwise_cons] at independent
    have independentAfter : targets.Pairwise (generator.Independent next) :=
      independent.2.imp_of_mem fun isMember _ others =>
        (independent.1 _ isMember).clearFirst.independent_after here others
    rcases hypothesis (produces.fileTree fileTree) independentAfter rest with
      ⟨last, others, arrangedRest, same, reordered⟩
    exact
      ⟨last, report :: others,
        (generateAll_cons_eq_ok_iff disk last target arranged _).mpr
          ⟨next, report, others, here, arrangedRest, rfl⟩,
        same, reordered.cons report⟩
  | swap second first targets =>
    rcases (generateAll_cons_eq_ok_iff disk final first _ reports).mp generates with
      ⟨next, report, _, here, onward, rfl⟩
    rcases (generateAll_cons_eq_ok_iff next final second targets _).mp onward with
      ⟨reached, otherReport, later, there, rest, rfl⟩
    rw [List.pairwise_cons, List.forall_mem_cons] at independent
    rcases independent.1.1.generate_comm fileTree here there with
      ⟨between, swapped, thereFirst, hereSecond, sameSwapped⟩
    rcases generateAll_of_same sameSwapped rest with ⟨last, restSwapped, same⟩
    refine ⟨last, otherReport :: report :: later, ?_, same, .swap _ _ _⟩
    exact
      (generateAll_cons_eq_ok_iff disk last second _ _).mpr
        ⟨between, otherReport, report :: later, thereFirst,
          (generateAll_cons_eq_ok_iff between last first targets _).mpr
            ⟨swapped, report, later, hereSecond, restSwapped, rfl⟩,
          rfl⟩
  | trans order _ hypothesis hypothesisLater =>
    rcases hypothesis fileTree independent generates with
      ⟨reached, between, generatesBetween, same, reordered⟩
    have independentBetween :=
      (order.pairwise_iff fun others => others.symm).mp independent
    rcases hypothesisLater fileTree independentBetween generatesBetween with
      ⟨last, others, generatesLast, sameLast, reorderedLast⟩
    exact ⟨last, others, generatesLast, sameLast.trans same, reorderedLast.trans reordered⟩

/--
On a file tree, two independent targets that succeed one after the other succeed in the other order
as well, and each of them with the report it had, and the disk is the same in the end. So a run over
targets that are pairwise independent, if it succeeds, does so in any order of them, with the same
disk and the same reports, one for each target.
-/
theorem independent_targets_commute
    (generator : Generator)
    {disk : Disk}
    (fileTree : disk.IsFileTree) :
    (∀ first second next final report otherReport,
        generator.Independent disk first second →
          generator.generate disk first = (next, .ok report) →
            generator.generate next second = (final, .ok otherReport) →
              ∃ between last : Disk,
                generator.generate disk second = (between, .ok otherReport) ∧
                  generator.generate between first = (last, .ok report) ∧
                  last.Same final) ∧
      ∀ targets arranged final reports,
        targets.Perm arranged →
          targets.Pairwise (generator.Independent disk) →
            generator.generateAll disk targets = (final, .ok reports) →
              ∃ (last : Disk) (others : List Report),
                generator.generateAll disk arranged = (last, .ok others) ∧
                  last.Same final ∧
                  others.Perm reports ∧
                  others.map Report.target = arranged := by
  constructor
  · intro first second next final report otherReport independent generates generatesOther
    exact independent.generate_comm fileTree generates generatesOther
  · intro targets arranged final reports order independent generates
    rcases generateAll_of_perm order fileTree independent generates with
      ⟨last, others, generatesLast, same, reordered⟩
    have run := (generateAll_follows_run disk last arranged (.ok others)).mp generatesLast
    exact ⟨last, others, generatesLast, same, reordered, run.reports.1⟩

/-- A generator that adds a note for each table, without replacing one. -/
def noter : Generator :=
  greeter .ifMissing "notes".toList "\x7b\x7bentity_name\x7d\x7d.txt".toList

theorem isFileTree_ledger :
    ledger.IsFileTree :=
  ⟨Disk.isTree_of_nodes (by decide +kernel), rfl⟩

theorem outputs_noter :
    noter.outputs ledger users = [Path.of "./notes/User.txt"] ∧
      noter.outputs ledger orders = [Path.of "./notes/Order.txt"] := by
  decide +kernel

/-- Two notes in one directory are apart. -/
theorem independent_notes :
    noter.Independent ledger users orders := by
  rcases outputs_noter with ⟨forUsers, forOrders⟩
  refine ⟨⟨?_, ?_⟩, ⟨?_, ?_⟩, ?_⟩
  · rw [forUsers]
    decide +kernel
  · rw [forUsers]
    decide +kernel
  · rw [forOrders]
    decide +kernel
  · rw [forOrders]
    decide +kernel
  · rw [forUsers, forOrders]
    intro path isMember other isOther
    cases List.mem_singleton.mp isMember
    cases List.mem_singleton.mp isOther
    exact ⟨by decide +kernel, by decide +kernel⟩

/-- What becomes of the note that is there. -/
def keptNote : Report :=
  ⟨users, [⟨"note.tmpl".toList, .other, .kept (Path.of "./notes/User.txt")⟩]⟩

/-- What becomes of the note that is not there. -/
def writtenNote : Report :=
  ⟨orders, [⟨"note.tmpl".toList, .other, .written (Path.of "./notes/Order.txt")⟩]⟩

/-- A note that is there is kept, and one that is not is written, whichever comes first. -/
theorem notes_commute :
    noter.Independent ledger users orders ∧
      ∃ final : Disk,
        noter.generateAll ledger [users, orders] = (final, .ok [keptNote, writtenNote]) ∧
          (∃ between last : Disk,
            noter.generate ledger orders = (between, .ok writtenNote) ∧
              noter.generate between users = (last, .ok keptNote) ∧
              last.Same final) ∧
          ∃ (last : Disk) (others : List Report),
            noter.generateAll ledger [orders, users] = (last, .ok others) ∧
              last.Same final ∧
              others.Perm [keptNote, writtenNote] ∧
              others.map Report.target = [orders, users] := by
  rcases independent_targets_commute noter isFileTree_ledger with ⟨pairs, runs⟩
  have result : (noter.generateAll ledger [users, orders]).2 = .ok [keptNote, writtenNote] := by
    decide +kernel
  rcases generates : noter.generateAll ledger [users, orders] with ⟨final, _⟩
  rw [generates] at result
  cases result
  rcases (generateAll_cons_eq_ok_iff ledger final users [orders] _).mp generates with
    ⟨next, report, later, first, onward, same⟩
  rcases (generateAll_cons_eq_ok_iff next final orders [] later).mp onward with
    ⟨reached, otherReport, none, second, ends, rfl⟩
  cases ends
  cases same
  exact
    ⟨independent_notes, final, rfl,
      pairs users orders next final _ _ independent_notes first second,
      runs [users, orders] [orders, users] final _ (.swap _ _ _)
        (List.pairwise_pair.mpr independent_notes) generates⟩

end Scaffold.Generator
