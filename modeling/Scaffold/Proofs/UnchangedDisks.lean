import Scaffold.Command.Arguments
import Scaffold.Command.Run
import Scaffold.Proofs.CheckedRuns
import Scaffold.Proofs.EntityNames
import Scaffold.Proofs.TemplateLoading

/-!
# Which command lines change the disk

Only a generation that is no dry run writes files, and it writes the first one after everything that
can be refused was looked at: the manifest was read and validated, targets were accepted, every
template was loaded, and the table of the first target was found in the migration. So a command line
that ends before that leaves the disk as it was.

The migration is read anew for every target. That it cannot be read is found out at the first target
or never, because the disk grows while files are written and all of them hold text. So this error,
too, leaves the disk as it was, whichever target it is told for.
-/

namespace Scaffold

namespace Generator

variable {generator : Generator} {data : TableData}

/-! ## Errors that are not about the migration -/

theorem kind_of_renderBody
    {set : TemplateSet}
    {template : Template}
    {error : GenerationError}
    (fails : set.renderBody template data = .error error) :
    error.kind ≠ .migrationRead := by
  rw [TemplateSet.renderBody] at fails
  split at fails
  · cases fails
  · cases fails
    intro same
    cases same

theorem kind_of_renderDirective
    {set : TemplateSet}
    {template : Template}
    {directive : Directive}
    {error : GenerationError}
    (fails : set.renderDirective template directive data = .error error) :
    error.kind ≠ .migrationRead := by
  rw [TemplateSet.renderDirective] at fails
  split at fails
  · cases fails
  · split at fails
    · cases fails
    · cases fails
      intro same
      cases same

theorem kind_of_locate
    {template entity : Text}
    {renderedPath renderedFileName : Option Text}
    {error : GenerationError}
    (fails : generator.locate template entity renderedPath renderedFileName = .error error) :
    error.kind ≠ .migrationRead := by
  rw [locate] at fails
  split at fails
  · cases fails
  · cases fails
    intro same
    cases same

theorem kind_of_render
    {template : Template}
    {error : GenerationError}
    (fails : generator.render data template = .error error) :
    error.kind ≠ .migrationRead := by
  rw [render] at fails
  simp only [bind, bind_eq_error_iff] at fails
  rcases fails with body | ⟨_, -, path | ⟨_, -, fileName | ⟨_, -, located | ⟨_, -, done⟩⟩⟩⟩
  · exact kind_of_renderBody body
  · exact kind_of_renderDirective path
  · exact kind_of_renderDirective fileName
  · exact kind_of_locate located
  · cases done

theorem StopsAt.kind
    {disk final : Disk}
    {templates : List Template}
    {error : GenerationError}
    (stops : StopsAt generator data disk templates final error) :
    error.kind ≠ .migrationRead := by
  cases stops with
  | notRendered _ _ _ _ fails => exact kind_of_render fails
  | notWritten =>
    intro same
    cases same

/-- Once the text of the migration is there, only the table can be missing. -/
theorem kind_of_loadTable
    {disk : Disk}
    {table text : Text}
    {error : GenerationError}
    (reads : disk.read? generator.settings.migration = some text)
    (fails : generator.loadTable disk table = .error error) :
    error.kind ≠ .migrationRead := by
  rw [loadTable, reads] at fails
  dsimp only [tableOf] at fails
  split at fails
  · cases fails
    intro same
    cases same
  · split at fails
    · cases fails
    · cases fails
      intro same
      cases same

/-! ## The text of the migration -/

/-- A file that holds text does so after a write, though it may be another text. -/
theorem isSome_read?_write
    {disk : Disk}
    {path : Path}
    (reads : (disk.read? path).isSome = true)
    (policy : OverwritePolicy)
    (file : Path)
    (text : Text) :
    ((disk.write policy file text).1.read? path).isSome = true := by
  rcases Option.isSome_iff_exists.mp reads with ⟨old, holds⟩
  rcases (Disk.read?_eq_some_iff disk path old).mp holds with ⟨place, leads, stands⟩
  have grown : Disk.Grown disk (disk.write policy file text).1 := Disk.grown_of_write rfl
  have changed := Disk.at?_write stands policy file text
  apply Option.isSome_iff_exists.mpr
  by_cases here : disk.written? policy file = some place
  · rw [if_pos here] at changed
    exact ⟨text, (Disk.read?_eq_some_iff _ _ _).mpr ⟨place, grown.place?_eq_some leads, changed⟩⟩
  · rw [if_neg here] at changed
    exact ⟨old, (Disk.read?_eq_some_iff _ _ _).mpr ⟨place, grown.place?_eq_some leads, changed⟩⟩

theorem isSome_read?_writeAll
    {path : Path}
    (policy : OverwritePolicy)
    {disk : Disk}
    (reads : (disk.read? path).isSome = true)
    (files : List GeneratedFile) :
    ((writeAll policy disk files).1.read? path).isSome = true := by
  induction files generalizing disk with
  | nil => exact reads
  | cons file files hypothesis =>
    have stays := isSome_read?_write reads policy file.path file.content
    rcases writes : disk.write policy file.path file.content with ⟨next, result⟩
    rw [writes] at stays
    simp only [writeAll, writes]
    cases result with
    | written => exact hypothesis stays
    | kept => exact hypothesis stays
    | failed => exact stays

/-! ## Runs that end at the migration -/

theorem kind_of_generate
    {disk next : Disk}
    {target : Target}
    {error : GenerationError}
    (reads : (disk.read? generator.settings.migration).isSome = true)
    (fails : generator.generate disk target = (next, .error error)) :
    error.kind ≠ .migrationRead := by
  rcases Option.isSome_iff_exists.mp reads with ⟨text, holds⟩
  cases (generate_eq_iff_targetRun disk next target (.error error)).mp fails with
  | notLoaded fails => exact kind_of_loadTable holds fails
  | stopped _ stops => exact stops.kind

/-- A run that starts with a migration that can be read never finds it unreadable: every target
leaves some text in its place. -/
theorem kind_of_generateAll
    {disk : Disk}
    {targets : List Target}
    {error : GenerationError}
    (reads : (disk.read? generator.settings.migration).isSome = true)
    (fails : (generator.generateAll disk targets).2 = .error error) :
    error.kind ≠ .migrationRead := by
  induction targets generalizing disk with
  | nil => cases fails
  | cons target targets hypothesis =>
    have stays :=
      isSome_read?_writeAll generator.settings.overwrite reads (generator.filesFor disk target)
    rw [← generate_disk] at stays
    rcases generates : generator.generate disk target with ⟨next, other | report⟩
    · rw [generateAll_cons_of_error generates] at fails
      cases fails
      exact kind_of_generate reads generates
    · -- the target left some text where the migration is, so the others start like the whole run
      rw [generates] at stays
      rw [generateAll_cons_of_ok generates] at fails
      cases later : (generator.generateAll next targets).2 with
      | ok reports =>
        rw [later] at fails
        cases fails
      | error cause =>
        rw [later] at fails
        cases fails
        exact hypothesis stays later

theorem generateAll_of_notLoaded
    {disk : Disk}
    {first : Target}
    {cause : GenerationError}
    (fails : generator.loadTable disk first.table = .error cause)
    (others : List Target) :
    generator.generateAll disk (first :: others) = (disk, .error cause) :=
  generateAll_cons_of_error
    ((generate_eq_iff_targetRun disk disk first (.error cause)).mpr (.notLoaded fails))

theorem generateAll_of_migrationRead
    {disk : Disk}
    {targets : List Target}
    {error : GenerationError}
    (fails : (generator.generateAll disk targets).2 = .error error)
    (unread : error.kind = .migrationRead) :
    (generator.generateAll disk targets).1 = disk := by
  cases targets with
  | nil => rfl
  | cons first others =>
    cases reads : disk.read? generator.settings.migration with
    | some text =>
      have readable : (disk.read? generator.settings.migration).isSome = true := by
        rw [reads]
        rfl
      exact absurd unread (kind_of_generateAll readable fails)
    | none =>
      have notLoaded :
          generator.loadTable disk first.table =
            .error (.migrationUnreadable generator.settings.migration) := by
        rw [loadTable, reads]
      rw [generateAll_of_notLoaded notLoaded others]

end Generator

/-! ## What is looked at first -/

/-- Loaded templates were all read, and their texts are stencils. -/
theorem TemplateSet.complete_of_load
    {disk : Disk}
    {directory : Path}
    {strict : Bool}
    {set : TemplateSet}
    (loads : load disk directory strict = .ok set) :
    ∀ name ∈ templateNames disk directory,
      ∃ template, Reads disk directory name template ∧ template.IsFillable := by
  intro name isMember
  rcases (load_eq_ok_iff disk directory strict set).mp loads with
    ⟨-, -, templates, reads, inserted⟩
  rcases exists_mem_of_forall₂ reads isMember with ⟨template, isTemplate, holds⟩
  refine ⟨template, holds, ?_⟩
  exact (exists_insertAll_iff _ templates).mp ⟨set, inserted⟩ template isTemplate

theorem Generator.load_eq_ok_iff
    (disk : Disk)
    (settings : Settings)
    (generator : Generator) :
    Generator.load disk settings = .ok generator ↔
      ∃ set,
        TemplateSet.load disk settings.templates settings.strict = .ok set ∧
          of settings set = generator := by
  rw [Generator.load]
  simp only [bind, bind_eq_ok_iff, Except.ok.injEq]

/-- A project with a manifest has one that was read and that has no fault. -/
theorem ProjectOptions.manifest_of_load
    {options : ProjectOptions}
    {disk : Disk}
    {needsMigration : Bool}
    {project : Project}
    (loads : options.load disk needsMigration = .ok project)
    {path : Path}
    (given : options.manifestPath? disk = some path) :
    ∃ source manifest,
      disk.read? path = some source ∧
        Manifest.parse path.text source = .ok manifest ∧
        Manifest.fault? source manifest = none := by
  rw [ProjectOptions.load, given] at loads
  dsimp only at loads
  rw [Manifest.openAt] at loads
  cases reads : disk.read? path with
  | none =>
    rw [reads] at loads
    cases loads
  | some source =>
    rw [reads] at loads
    dsimp only at loads
    cases parses : Manifest.parse path.text source with
    | error error =>
      rw [parses] at loads
      cases loads
    | ok manifest =>
      exact ⟨source, manifest, rfl, parses, Manifest.fault?_eq_none_of_parse parses⟩

/-- Whether an error is found before the first file is written. -/
def CommandError.isEarly : CommandError → Bool
  | .manifest _ | .templatesUnknown | .migrationUnknown => true
  | .entityWithoutTable | .tooManyEntities _ _ | .invalidEntity _ _ | .noTargets => true
  | .loadingTemplates _ => true
  | .generating cause => cause.kind = .migrationRead
  | .checkingTable _ _ | .renderingTable _ _ | .showingTable _ _ => false

namespace Command

theorem preparedGeneration_eq_ok_iff
    (disk : Disk)
    (options : GenerateOptions)
    (generator : Generator)
    (targets : List Target) :
    preparedGeneration disk options = .ok (generator, targets) ↔
      ∃ project,
        options.project.load disk true = .ok project ∧
          options.selection.targets project.targets = .ok targets ∧
          targets ≠ [] ∧
          Generator.load disk (options.overriding project.settings) = .ok generator := by
  rw [preparedGeneration]
  simp only [bind, bind_eq_ok_iff, generatorOf]
  constructor
  · rintro ⟨project, loads, selected, accepted, prepared⟩
    split at prepared
    · cases prepared
    next telling =>
      rcases (bind_eq_ok_iff _ _ _).mp prepared with ⟨loaded, templates, same⟩
      cases same
      exact
        ⟨project, loads, accepted, by simpa using telling,
          (Generator.whileDoing_eq_ok_iff _ _ _).mp templates⟩
  · rintro ⟨project, loads, accepted, telling, templates⟩
    refine ⟨project, loads, targets, accepted, ?_⟩
    rw [if_neg (by simpa using telling), templates]
    rfl

/-- What a generation finds on a disk before it writes its first file. -/
structure Finds
    (disk : Disk)
    (options : GenerateOptions)
    (project : Project)
    (generator : Generator)
    (first : Target)
    (others : List Target) : Prop where
  opened : options.project.load disk true = .ok project
  /-- The manifest, if there is one, was read and validated. -/
  validated :
    ∀ path,
      options.project.manifestPath? disk = some path →
        ∃ source manifest,
          disk.read? path = some source ∧
            Manifest.parse path.text source = .ok manifest ∧
            Manifest.fault? source manifest = none
  accepted : options.selection.targets project.targets = .ok (first :: others)
  loaded : Generator.load disk (options.overriding project.settings) = .ok generator
  /-- Every template was read, and its texts are stencils. -/
  complete :
    ∀ name ∈ TemplateSet.templateNames disk project.settings.templates,
      ∃ template,
        TemplateSet.Reads disk project.settings.templates name template ∧ template.IsFillable
  /-- The table of the first target is in the migration. -/
  found :
    ∃ migration table,
      disk.read? generator.settings.migration = some migration ∧
        Generator.tableOf migration first.table = .ok table

/-! ## How a generation goes on -/

variable {disk : Disk} {options : GenerateOptions}

theorem runGenerate_of_error
    {error : CommandError}
    (fails : preparedGeneration disk options = .error error) :
    runGenerate disk options = (disk, .error error) := by
  rw [runGenerate, fails]

theorem fst_runGenerate_of_dryRun
    (dry : options.dryRun = true) :
    (runGenerate disk options).1 = disk := by
  rw [runGenerate]
  split
  · rfl
  · rw [dry]
    rfl

theorem fst_runGenerate_of_ok
    {generator : Generator}
    {targets : List Target}
    (writes : options.dryRun = false)
    (prepared : preparedGeneration disk options = .ok (generator, targets)) :
    (runGenerate disk options).1 = (generator.generateAll disk targets).1 := by
  rw [runGenerate, prepared]
  dsimp only [Generator.runGenerate]
  rw [writes]
  rfl

/-- A generation that began to write fails with the error of a target. -/
theorem snd_runGenerate_of_ok
    {generator : Generator}
    {targets : List Target}
    {error : CommandError}
    (writes : options.dryRun = false)
    (prepared : preparedGeneration disk options = .ok (generator, targets))
    (fails : (runGenerate disk options).2 = .error error) :
    ∃ cause, (generator.generateAll disk targets).2 = .error cause ∧ error = .generating cause := by
  rw [runGenerate, prepared] at fails
  dsimp only [Generator.runGenerate] at fails
  rw [writes] at fails
  rcases generates : generator.generateAll disk targets with ⟨final, cause | reports⟩
  · simp only [generates] at fails
    cases fails
    exact ⟨cause, rfl, rfl⟩
  · simp only [generates] at fails
    cases fails

theorem fst_runGenerate_of_isEarly
    {error : CommandError}
    (fails : (runGenerate disk options).2 = .error error)
    (early : error.isEarly = true) :
    (runGenerate disk options).1 = disk := by
  cases dry : options.dryRun with
  | true => exact fst_runGenerate_of_dryRun dry
  | false =>
    cases prepared : preparedGeneration disk options with
    | error other => rw [runGenerate_of_error prepared]
    | ok found =>
      rcases found with ⟨generator, targets⟩
      rcases snd_runGenerate_of_ok dry prepared fails with ⟨cause, ends, rfl⟩
      rw [fst_runGenerate_of_ok dry prepared]
      exact Generator.generateAll_of_migrationRead ends (of_decide_eq_true early)

theorem fst_runGenerate_of_notLoaded
    {generator : Generator}
    {first : Target}
    {others : List Target}
    {cause : GenerationError}
    (prepared : preparedGeneration disk options = .ok (generator, first :: others))
    (missing : generator.loadTable disk first.table = .error cause) :
    (runGenerate disk options).1 = disk := by
  cases dry : options.dryRun with
  | true => exact fst_runGenerate_of_dryRun dry
  | false =>
    rw [fst_runGenerate_of_ok dry prepared, Generator.generateAll_of_notLoaded missing others]

/-- A generation that changes the disk has found everything first. -/
theorem finds_of_runGenerate
    (changes : (runGenerate disk options).1 ≠ disk) :
    options.dryRun = false ∧
      ∃ project generator first others, Finds disk options project generator first others := by
  have writes : options.dryRun = false := by
    rw [← Bool.not_eq_true]
    exact fun dry => changes (fst_runGenerate_of_dryRun dry)
  refine ⟨writes, ?_⟩
  cases prepared : preparedGeneration disk options with
  | error error =>
    rw [runGenerate_of_error prepared] at changes
    exact absurd rfl changes
  | ok found =>
    rcases found with ⟨generator, targets⟩
    rcases (preparedGeneration_eq_ok_iff disk options generator targets).mp prepared with
      ⟨project, opened, accepted, telling, loaded⟩
    rcases List.exists_cons_of_ne_nil telling with ⟨first, others, rfl⟩
    refine ⟨project, generator, first, others, ?_⟩
    constructor
    case opened => exact opened
    case accepted => exact accepted
    case loaded => exact loaded
    case validated =>
      intro path given
      exact ProjectOptions.manifest_of_load opened given
    case complete =>
      rcases (Generator.load_eq_ok_iff disk _ generator).mp loaded with ⟨set, loads, -⟩
      exact TemplateSet.complete_of_load loads
    case found =>
      cases found : generator.loadTable disk first.table with
      | error cause => exact absurd (fst_runGenerate_of_notLoaded prepared found) changes
      | ok table =>
        rcases (Generator.loadTable_eq_ok_iff disk first.table table).mp found with
          ⟨migration, reads, stands⟩
        exact ⟨migration, table, reads, stands⟩

end Command

/-! ## Command lines -/

/-- Why a command line does not do what it asks for. -/
inductive Refusal where
  | usage (error : UsageError)
  | command (error : CommandError)

/-- The disk after a command line, and what was printed. -/
def carriedOut (disk : Disk) (arguments : List Text) : Disk × Except Refusal Printed :=
  match Arguments.parse arguments with
  | .error error => (disk, .error (.usage error))
  | .ok invocation =>
    let (disk, result) := invocation.command.run disk
    (disk, result.mapError .command)

/-- Whether a command is there to write files. -/
def Command.isWriting : Command → Bool
  | .generate options => !options.dryRun
  | _ => false

/-- Whether a command line is refused before the first file is written. -/
def Refusal.isEarly : Refusal → Bool
  | .usage _ => true
  | .command error => error.isEarly

/-- How a command line ends without having written anything. -/
inductive EndsUnwritten (disk : Disk) (arguments : List Text) : Prop where
  | looking
      {invocation : Invocation}
      (parses : Arguments.parse arguments = .ok invocation)
      (looks : invocation.command.isWriting = false)
  | refused
      {refusal : Refusal}
      (ends : (carriedOut disk arguments).2 = .error refusal)
      (early : refusal.isEarly = true)
  | tableMissing
      {options : GenerateOptions}
      {verbosity : Nat}
      {generator : Generator}
      {first : Target}
      {others : List Target}
      {cause : GenerationError}
      (parses : Arguments.parse arguments = .ok ⟨.generate options, verbosity⟩)
      (prepared : Command.preparedGeneration disk options = .ok (generator, first :: others))
      (missing : generator.loadTable disk first.table = .error cause)

theorem carriedOut_of_parse
    {arguments : List Text}
    {invocation : Invocation}
    (parses : Arguments.parse arguments = .ok invocation)
    (disk : Disk) :
    carriedOut disk arguments =
      ((invocation.command.run disk).1, (invocation.command.run disk).2.mapError .command) := by
  rw [carriedOut, parses]

theorem Command.fst_run_of_looking
    {command : Command}
    (looks : command.isWriting = false)
    (disk : Disk) :
    (command.run disk).1 = disk := by
  cases command with
  | generate options =>
    rw [isWriting, Bool.not_eq_false'] at looks
    exact fst_runGenerate_of_dryRun looks
  | templates project => rfl
  | context project table entity => rfl
  | check project selection => rfl
  | completions shell => rfl

theorem fst_carriedOut_of_endsUnwritten
    {disk : Disk}
    {arguments : List Text}
    (ends : EndsUnwritten disk arguments) :
    (carriedOut disk arguments).1 = disk := by
  cases ends with
  | looking parses looks =>
    rw [carriedOut_of_parse parses]
    exact Command.fst_run_of_looking looks disk
  | tableMissing parses prepared missing =>
    rw [carriedOut_of_parse parses]
    exact Command.fst_runGenerate_of_notLoaded prepared missing
  | @refused refusal ends early =>
    cases parses : Arguments.parse arguments with
    | error error => rw [carriedOut, parses]
    | ok invocation =>
      rw [carriedOut_of_parse parses] at ends ⊢
      dsimp only at ends ⊢
      rcases invocation with ⟨command, verbosity⟩
      cases command with
      | generate options =>
        cases result : (Command.runGenerate disk options).2 with
        | ok printed =>
          rw [Command.run, result] at ends
          cases ends
        | error error =>
          rw [Command.run, result] at ends
          cases ends
          exact Command.fst_runGenerate_of_isEarly result early
      | templates project => rfl
      | context project table entity => rfl
      | check project selection => rfl
      | completions shell => rfl

/--
A command line that changes the disk is a generation that is no dry run. Before it wrote its first
file its manifest was read and validated, its targets were accepted, its templates were all loaded,
and the table of its first target was found. A command line that ends before that, or only looks,
leaves the disk as it was.
-/
theorem only_generations_change_disks
    (disk : Disk)
    (arguments : List Text) :
    ((carriedOut disk arguments).1 ≠ disk →
        ∃ options verbosity,
          Arguments.parse arguments = .ok ⟨.generate options, verbosity⟩ ∧
            options.dryRun = false ∧
            ∃ project generator first others,
              Command.Finds disk options project generator first others) ∧
      (EndsUnwritten disk arguments → (carriedOut disk arguments).1 = disk) := by
  refine ⟨?_, fst_carriedOut_of_endsUnwritten⟩
  intro changes
  cases parses : Arguments.parse arguments with
  | error error =>
    rw [carriedOut, parses] at changes
    exact absurd rfl changes
  | ok invocation =>
    rw [carriedOut_of_parse parses] at changes
    rcases invocation with ⟨command, verbosity⟩
    cases command with
    | generate options =>
      exact ⟨options, verbosity, rfl, Command.finds_of_runGenerate changes⟩
    | templates project => exact absurd rfl changes
    | context project table entity => exact absurd rfl changes
    | check project selection => exact absurd rfl changes
    | completions shell => exact absurd rfl changes

/-- A disk with a manifest, a migration and a template. -/
def workshop : Disk where
  nodes :=
    [(["crudgen.toml".toList], .file (.text (listing "[[tables]]\nname = \"users\"\n"))),
      (["schema.sql".toList],
        .file (.text "CREATE TABLE users (\n    id bigint NOT NULL\n);\n".toList)),
      (["templates".toList], .directory),
      (["templates".toList, "note.tmpl".toList],
        .file (.text "new \x7b\x7bentity_name\x7d\x7d\n".toList))]
  working := []

/-- A generation without any options but a selection of tables. -/
def generationOf (tables : List Text) : GenerateOptions where
  project := ⟨none, none, none, none⟩
  selection := ⟨tables, []⟩
  directories := ByCategory.constant none
  skipped := ByCategory.constant false
  keepsExisting := false
  strict := false
  dryRun := false

/-- The project that the manifest on that disk gives. -/
def workshopProject : Project where
  settings := .of (Path.of "./.") (Path.of "./schema.sql") (Path.of "./templates")
  targets := [⟨"users".toList, "Users".toList⟩]
  manifest := some (Path.of "crudgen.toml")

/-- The template on that disk. -/
def workshopTemplate : Template :=
  ⟨"note.tmpl".toList, "new \x7b\x7bentity_name\x7d\x7d\n".toList, none, none⟩

/-- The set of that template. -/
def workshopTemplates : TemplateSet :=
  match (TemplateSet.empty false).insertAll [workshopTemplate] with
  | .ok set => set
  | .error _ => .empty false

theorem load_workshopTemplates :
    TemplateSet.load workshop (Path.of "./templates") false = .ok workshopTemplates := by
  have names :
      TemplateSet.templateNames workshop (Path.of "./templates") = ["note.tmpl".toList] := by
    have found :
        ((workshop.namesIn (Path.of "./templates")).filter fun name =>
            TemplateSet.isTemplate workshop ((Path.of "./templates").child name)) =
          ["note.tmpl".toList] := by
      decide +kernel
    rw [TemplateSet.templateNames, found, List.mergeSort_singleton]
  have inserted :
      (TemplateSet.empty false).insertAll [workshopTemplate] = .ok workshopTemplates := by
    rw [workshopTemplates]
    cases inserts : (TemplateSet.empty false).insertAll [workshopTemplate] with
    | ok set => rfl
    | error error =>
      have fillable : workshopTemplate.IsFillable := ⟨by decide +kernel, by
        intro directive source gives
        cases directive with
        | path => cases gives
        | fileName => cases gives⟩
      rcases
          (TemplateSet.exists_insertAll_iff (.empty false) [workshopTemplate]).mpr
            (List.forall_mem_singleton.mpr fillable) with
        ⟨set, succeeds⟩
      rw [inserts] at succeeds
      cases succeeds
  apply (TemplateSet.load_eq_ok_iff _ _ _ _).mpr
  rw [names]
  refine ⟨by decide +kernel, by decide, [workshopTemplate], .cons ?_ .nil, inserted⟩
  exact ⟨"new \x7b\x7bentity_name\x7d\x7d\n".toList, by decide +kernel, by decide +kernel⟩

theorem opened_workshop
    (tables : List Text) :
    (generationOf tables).project.load workshop true = .ok workshopProject := by
  show ProjectOptions.load ⟨none, none, none, none⟩ workshop true = .ok workshopProject
  decide +kernel

theorem prepared_workshop
    {tables : List Text}
    {targets : List Target}
    (accepted : SelectionOptions.targets ⟨tables, []⟩ workshopProject.targets = .ok targets)
    (telling : targets ≠ []) :
    Command.preparedGeneration workshop (generationOf tables) =
      .ok (.of workshopProject.settings workshopTemplates, targets) := by
  apply (Command.preparedGeneration_eq_ok_iff _ _ _ _).mpr
  refine ⟨workshopProject, opened_workshop tables, accepted, telling, ?_⟩
  have unchanged :
      (generationOf tables).overriding workshopProject.settings = workshopProject.settings := by
    rfl
  rw [unchanged]
  apply (Generator.load_eq_ok_iff _ _ _).mpr
  exact ⟨workshopTemplates, load_workshopTemplates, rfl⟩

/-- The table that the manifest lists is generated, and one that the migration lacks is not. -/
theorem generation_changes_workshop :
    (carriedOut workshop ["generate".toList]).1 ≠ workshop ∧
      (∃ project generator first others,
        Command.Finds workshop (generationOf []) project generator first others) ∧
      (carriedOut workshop ["generate".toList, "--table=orders".toList]).1 = workshop := by
  have parses : Arguments.parse ["generate".toList] = .ok ⟨.generate (generationOf []), 0⟩ := by
    decide +kernel
  have changes : (carriedOut workshop ["generate".toList]).1 ≠ workshop := by
    have accepted :
        SelectionOptions.targets ⟨[], []⟩ workshopProject.targets =
          .ok workshopProject.targets := by
      rfl
    have prepared := prepared_workshop accepted (by decide)
    rw [carriedOut_of_parse parses, Command.run, Command.fst_runGenerate_of_ok rfl prepared]
    decide +kernel
  rcases (only_generations_change_disks workshop ["generate".toList]).1 changes with
    ⟨options, verbosity, reads, -, finds⟩
  rw [parses] at reads
  cases reads
  refine ⟨changes, finds, ?_⟩
  have parsesOrders :
      Arguments.parse ["generate".toList, "--table=orders".toList] =
        .ok ⟨.generate (generationOf ["orders".toList]), 0⟩ := by
    decide +kernel
  have accepted :
      SelectionOptions.targets ⟨["orders".toList], []⟩ workshopProject.targets =
        .ok [⟨"orders".toList, "Orders".toList⟩] := by
    decide +kernel
  have missing :
      (Generator.of workshopProject.settings workshopTemplates).loadTable workshop
          "orders".toList =
        .error (.tableNotFound "orders".toList (.tablesNotFound ["orders".toList])) := by
    decide +kernel
  apply (only_generations_change_disks workshop _).2
  exact .tableMissing parsesOrders (prepared_workshop accepted (by decide)) missing

end Scaffold
