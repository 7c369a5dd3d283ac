import Scaffold.Proofs.DiskGrowth
import Scaffold.Proofs.DiskStores
import Scaffold.Proofs.GenerationWrites

/-!
# Generating once more

Generating for a target that succeeded leaves all its files in place, so that generating for it once
more, from the same migration text, renders the same files, finds every directory on their way, and
writes the same places. Under the policy that keeps existing files every file is kept. Under the
other one each is written again; several of them may share a place, which ends up with the last of
their texts, as it did before. Either way the disk does not change.
-/

namespace Scaffold

/-! ## What becomes of a template the second time -/

/-- What becomes of a template when the same is generated once more. -/
def Outcome.again (policy : OverwritePolicy) : Outcome → Outcome
  | .skipped => .skipped
  | .written path | .kept path =>
    match policy with
    | .always => .written path
    | .ifMissing => .kept path

/-- A template and what becomes of it when the same is generated once more. -/
def TemplateOutcome.again (policy : OverwritePolicy) (entry : TemplateOutcome) : TemplateOutcome :=
  { entry with outcome := entry.outcome.again policy }

/-- The report when the same is generated once more. -/
def Report.again (policy : OverwritePolicy) (report : Report) : Report :=
  { report with outcomes := report.outcomes.map (TemplateOutcome.again policy) }

namespace Generator

variable {generator : Generator}

/-- Only the path of a file decides what becomes of it the second time. -/
theorem again_of_outcomeOf?
    {path : Path}
    {result : Disk.WriteResult}
    {outcome : Outcome}
    (becomes : outcomeOf? path result = some outcome)
    (policy : OverwritePolicy) :
    outcome.again policy =
      match policy with
      | .always => .written path
      | .ifMissing => .kept path := by
  cases result with
  | written =>
    cases becomes
    rfl
  | kept =>
    cases becomes
    rfl
  | failed => cases becomes

/-! ## The files of the first time -/

/-- A disk grows while the files of templates are written. -/
theorem Produces.grown
    {disk final : Disk}
    {templates : List Template}
    {files : List GeneratedFile}
    {outcomes : List TemplateOutcome}
    (produces : Produces generator disk templates files final outcomes) :
    Disk.Grown disk final := by
  induction produces with
  | done disk => exact .refl disk
  | skipped skips others hypothesis => exact hypothesis
  | produced used writes becomes others hypothesis =>
    exact (Disk.grown_of_write writes).trans hypothesis

/-- Texts are those of files, at the places where these are. -/
def PlacedAs (disk : Disk) (files : List GeneratedFile) (stores : List (Place × Text)) : Prop :=
  List.Forall₂ (fun file store => disk.InPlace file.path store.1 ∧ store.2 = file.content) files
    stores

theorem PlacedAs.grown
    {disk later : Disk}
    {files : List GeneratedFile}
    {stores : List (Place × Text)}
    (placed : PlacedAs disk files stores)
    (grown : Disk.Grown disk later) :
    PlacedAs later files stores :=
  placed.imp fun _ _ both => ⟨both.1.grown grown, both.2⟩

theorem PlacedAs.ne_root
    {disk : Disk}
    {files : List GeneratedFile}
    {stores : List (Place × Text)}
    (placed : PlacedAs disk files stores) :
    ∀ store ∈ stores, store.1 ≠ [] := by
  induction placed with
  | nil => exact fun store isMember => nomatch isMember
  | cons both others hypothesis => exact List.forall_mem_cons.mpr ⟨both.1.ne_root, hypothesis⟩

/--
What written files leave behind. They are in place, every place that they were written to holds the
last of its texts, and files at other places are as they were.
-/
structure Settled
    (disk final : Disk)
    (files : List GeneratedFile)
    (stores : List (Place × Text)) :
    Prop where
  placed : PlacedAs final files stores
  holds :
    ∀ place text,
      Disk.lastStored place stores = some text → final.at? place = some (.file (.text text))
  others :
    ∀ place content,
      disk.at? place = some (.file content) →
        Disk.lastStored place stores = none → final.at? place = some (.file content)

/-- A file that was written before settled ones is settled with them. -/
theorem Settled.cons
    {disk next final : Disk}
    {file : GeneratedFile}
    {files : List GeneratedFile}
    {stores : List (Place × Text)}
    (writes : disk.overwrite file.path file.content = (next, .written))
    (grown : Disk.Grown next final)
    (settled : Settled next final files stores) :
    ∃ place, Settled disk final (file :: files) ((place, file.content) :: stores) := by
  rcases Disk.inPlace_of_overwrite writes with ⟨place, lands, inPlace, stands⟩
  refine ⟨place, ?placed, ?holds, ?others⟩
  case placed => exact .cons ⟨inPlace.grown grown, rfl⟩ settled.placed
  case holds =>
    intro other text last
    cases later : Disk.lastStored other stores with
    | some found =>
      rw [Disk.lastStored_cons_of_some later] at last
      cases last
      exact settled.holds other text later
    | none =>
      by_cases same : place = other
      · subst same
        rw [Disk.lastStored_cons_self, later, Option.getD_none] at last
        cases last
        exact settled.others place _ stands later
      · rw [Disk.lastStored_cons_of_ne same, later] at last
        cases last
  case others =>
    intro other content stood last
    have apart : place ≠ other := by
      rintro rfl
      rw [Disk.lastStored_cons_self] at last
      cases last
    rw [Disk.lastStored_cons_of_ne apart] at last
    have stays := Disk.at?_overwrite stood file.path file.content
    rw [writes, lands, if_neg (fun same => apart (Option.some.inj same))] at stays
    exact settled.others other content stays last

/-- Files that were all written are settled. -/
theorem Produces.settled
    (replaces : generator.settings.overwrite = .always)
    {disk final : Disk}
    {templates : List Template}
    {files : List GeneratedFile}
    {outcomes : List TemplateOutcome}
    (produces : Produces generator disk templates files final outcomes) :
    ∃ stores, Settled disk final files stores := by
  induction produces with
  | done disk =>
    exact
      ⟨[],
        { placed := .nil
          holds := fun _ _ last => nomatch last
          others := fun _ _ stood _ => stood }⟩
  | skipped skips others hypothesis => exact hypothesis
  | @produced next result outcome files final outcomes disk file _ _ used writes becomes others
      hypothesis =>
    rcases hypothesis with ⟨stores, settled⟩
    rw [replaces] at writes
    cases result with
    | written =>
      rcases settled.cons writes others.grown with ⟨place, settled⟩
      exact ⟨_, settled⟩
    | kept => exact absurd rfl (Disk.overwrite_ne_kept writes)
    | failed => cases becomes

/-! ## The second time -/

/-- Files that are in place are all written once more under the policy that replaces files. -/
theorem Produces.again_always
    (replaces : generator.settings.overwrite = .always)
    {disk final : Disk}
    {templates : List Template}
    {files : List GeneratedFile}
    {outcomes : List TemplateOutcome}
    (produces : Produces generator disk templates files final outcomes)
    {later : Disk}
    {stores : List (Place × Text)}
    (placed : PlacedAs later files stores) :
    Produces generator later templates files (later.stored stores)
      (outcomes.map (TemplateOutcome.again .always)) := by
  induction produces generalizing later stores with
  | done disk =>
    cases placed
    exact .done later
  | skipped skips others hypothesis => exact .skipped skips (hypothesis placed)
  | @produced next result outcome files final outcomes disk file _ _ used writes becomes others
      hypothesis =>
    rcases List.forall₂_cons_left_iff.mp placed with
      ⟨⟨place, text⟩, rest, ⟨inPlace, rfl⟩, placedRest, rfl⟩
    have writesAgain :
        later.write generator.settings.overwrite file.path file.content =
          (later.put place (.file (.text file.content)), .written) := by
      rw [replaces]
      exact inPlace.overwrite file.content
    rw [List.map_cons, TemplateOutcome.again, again_of_outcomeOf? becomes]
    exact .produced used writesAgain rfl
      (hypothesis (PlacedAs.grown placedRest (Disk.grown_of_write writesAgain)))

/-- Files that exist are all kept under the policy that keeps files. -/
theorem Produces.again_ifMissing
    (keeps : generator.settings.overwrite = .ifMissing)
    {disk final : Disk}
    {templates : List Template}
    {files : List GeneratedFile}
    {outcomes : List TemplateOutcome}
    (produces : Produces generator disk templates files final outcomes)
    {later : Disk}
    (grown : Disk.Grown final later) :
    Produces generator later templates files later
      (outcomes.map (TemplateOutcome.again .ifMissing)) := by
  induction produces with
  | done disk => exact .done later
  | skipped skips others hypothesis => exact .skipped skips (hypothesis grown)
  | @produced next result outcome files final outcomes disk file _ _ used writes becomes others
      hypothesis =>
    have found : later.pathExists file.path = true := by
      rw [keeps, Disk.write] at writes
      split at writes
      next existed =>
        cases writes
        exact (others.grown.trans grown).pathExists existed
      next missing =>
        cases result with
        | written =>
          rcases Disk.inPlace_of_overwrite writes with ⟨place, -, inPlace, -⟩
          exact (others.grown.trans grown).pathExists inPlace.pathExists
        | kept => exact absurd rfl (Disk.overwrite_ne_kept writes)
        | failed => cases becomes
    have keepsAgain :
        later.write generator.settings.overwrite file.path file.content = (later, .kept) := by
      rw [keeps, Disk.write]
      exact if_pos found
    rw [List.map_cons, TemplateOutcome.again, again_of_outcomeOf? becomes]
    exact .produced used keepsAgain rfl (hypothesis grown)

/-- Files that were written once leave the disk as it is when they are written once more. -/
theorem Produces.again
    {disk final : Disk}
    {templates : List Template}
    {files : List GeneratedFile}
    {outcomes : List TemplateOutcome}
    (produces : Produces generator disk templates files final outcomes) :
    Produces generator final templates files final
      (outcomes.map (TemplateOutcome.again generator.settings.overwrite)) := by
  cases policy : generator.settings.overwrite with
  | always =>
    rcases produces.settled policy with ⟨stores, settled⟩
    have repeated := produces.again_always policy settled.placed
    rw [Disk.stored_eq_self settled.placed.ne_root settled.holds] at repeated
    exact repeated
  | ifMissing => exact produces.again_ifMissing policy (.refl final)

/--
When generating for a target succeeds and leaves the text of the migration as it was, generating for
it once more succeeds and leaves the disk as it is. The second report has the same templates in the
same order with the same paths: a skipped template is skipped again, and any other is written again
or kept, as the policy says.
-/
theorem generate_once_more
    (generator : Generator)
    {disk final : Disk}
    {target : Target}
    {report : Report}
    (succeeds : generator.generate disk target = (final, .ok report))
    (unchanged :
      final.read? generator.settings.migration = disk.read? generator.settings.migration) :
    generator.generate final target =
        (final, .ok (report.again generator.settings.overwrite)) ∧
      generator.Covers (report.again generator.settings.overwrite).outcomes := by
  have first := (generate_eq_iff_targetRun disk final target _).mp succeeds
  cases first with
  | finished previews produces =>
    rcases (preview_eq_ok_iff disk target _).mp previews with ⟨data, loads, renders⟩
    have previewsAgain :=
      (preview_eq_ok_iff final target _).mpr
        ⟨data, (data_eq_of_read? unchanged target).trans loads, renders⟩
    have second := TargetRun.finished previewsAgain produces.again
    exact ⟨(generate_eq_iff_targetRun final final target _).mpr second, second.report.2⟩

/-- A generator with two templates that give the same file, which they reach on different paths. -/
def rivals (overwrite : OverwritePolicy) : Generator :=
  of { Settings.of (Path.of ".") (Path.of "schema.sql") (Path.of "templates") with overwrite }
    (match
      (TemplateSet.empty false).insertAll
        [{ greeting "notes".toList "note.txt".toList with name := "first.tmpl".toList },
          { name := "second.tmpl".toList
            body := "old\n".toList
            path := some "notes/drafts/..".toList
            fileName := some "note.txt".toList }]
    with
    | .ok set => set
    | .error _ => TemplateSet.empty false)

/-- The disk of the notes with the file of the later template. -/
def shared : Disk where
  nodes :=
    noted.nodes ++
      [(["notes".toList], .directory),
        (["notes".toList, "note.txt".toList], .file (.text "old\n".toList)),
        (["notes".toList, "drafts".toList], .directory)]
  working := []

/-- What becomes of the two templates when both files are written. -/
def sharedReport : Report :=
  ⟨users,
    [⟨"first.tmpl".toList, .other, .written (Path.of "./notes/note.txt")⟩,
      ⟨"second.tmpl".toList, .other, .written (Path.of "./notes/drafts/../note.txt")⟩]⟩

theorem rivals_share_file :
    (rivals .always).generate noted users = (shared, .ok sharedReport) ∧
      shared.read? (Path.of "schema.sql") = noted.read? (Path.of "schema.sql") ∧
      (rivals .always).generate shared users = (shared, .ok sharedReport) := by
  have succeeds : (rivals .always).generate noted users = (shared, .ok sharedReport) := by
    decide +kernel
  have unchanged :
      shared.read? (rivals .always).settings.migration =
        noted.read? (rivals .always).settings.migration := by
    decide +kernel
  exact ⟨succeeds, unchanged, (generate_once_more (rivals .always) succeeds unchanged).1⟩

end Generator

end Scaffold
