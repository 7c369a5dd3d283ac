import Scaffold.Proofs.StraightPaths
import Scaffold.Proofs.UnchangedDisks

/-!
# Layers of settings

The settings of a generation lie in layers: what an option gives is over what the manifest says, and
that is over what is built in. A setting has the value of the topmost layer that gives it one
(`IsTopmost`); a flag is set when any layer sets it. Paths of the manifest are meant relative to the
directory that it lies in (`LiesIn`), and the directories of categories relative to the root of the
project. With every manifest that is accepted and all options, a generation has the settings of its
layers (`settings_are_layered`). The layers leave no choice (`IsLayered.agreeApartFrom`), and every
category has layers of its own, so that what is said about one makes no difference to another.
-/

namespace Scaffold

/-! ## Layers -/

/-- A value that layers give, the topmost first: that of the first layer that gives one. -/
inductive IsTopmost {α : Type} (value : α) : List (Option α) → Prop where
  | given (layers : List (Option α)) : IsTopmost value (some value :: layers)
  | silent {layers : List (Option α)} (later : IsTopmost value layers) :
      IsTopmost value (none :: layers)

namespace IsTopmost

variable {α : Type} {value other : α} {layers : List (Option α)}

/-- A layer that is put over others hides them if it gives a value. -/
theorem under
    (later : IsTopmost value layers)
    (upper : Option α) :
    IsTopmost (upper.getD value) (upper :: layers) := by
  cases upper with
  | none => exact .silent later
  | some top => exact .given layers

theorem unique
    (first : IsTopmost value layers)
    (second : IsTopmost other layers) :
    value = other := by
  induction first with
  | given layers =>
    cases second
    rfl
  | silent later hypothesis =>
    cases second with
    | silent second => exact hypothesis second

end IsTopmost

namespace ByCategory

variable {α : Type}

/-- The value that is given for a category, if one is. -/
def given? (values : ByCategory (Option α)) (category : Category) : Option α :=
  (values.get? category).join

/-- Values that are, for every named category, what the layers of that category give. -/
def ComesFrom (values : ByCategory α) (layers : Category → List (Option α)) : Prop :=
  ∀ category,
    category ≠ .other →
      ∃ value, values.get? category = some value ∧ IsTopmost value (layers category)

theorem exists_get?
    (values : ByCategory α)
    {category : Category}
    (named : category ≠ .other) :
    ∃ value, values.get? category = some value := by
  cases category with
  | entity => exact ⟨values.entity, rfl⟩
  | repository => exact ⟨values.repository, rfl⟩
  | usecase => exact ⟨values.usecase, rfl⟩
  | handler => exact ⟨values.handler, rfl⟩
  | payload => exact ⟨values.payload, rfl⟩
  | other => exact absurd rfl named

theorem comesFrom_self
    (values : ByCategory α) :
    values.ComesFrom fun category => [values.get? category] := by
  intro category named
  rcases values.exists_get? named with ⟨value, stands⟩
  refine ⟨value, stands, ?_⟩
  dsimp only
  rw [stands]
  exact .given []

/-- Values that are laid over others put one more layer over those of every category. -/
theorem ComesFrom.under
    {lower : ByCategory α}
    {layers : Category → List (Option α)}
    (comes : lower.ComesFrom layers)
    (upper : ByCategory (Option α)) :
    (zipWith (fun given fallback => given.getD fallback) upper lower).ComesFrom fun category =>
      upper.given? category :: layers category := by
  intro category named
  rcases comes category named with ⟨value, stands, topmost⟩
  rcases upper.exists_get? named with ⟨top, given⟩
  have same : upper.given? category = top := by
    rw [given?, given, Option.join_some]
  refine ⟨top.getD value, ?_, ?_⟩
  · rw [get?_zipWith, given, stands]
    rfl
  · dsimp only
    rw [same]
    exact topmost.under top

/-- A flag is set in the combination of two layers when it is set in either of them. -/
theorem isSet_zipWith_iff
    (upper lower : ByCategory Bool)
    (category : Category) :
    ((zipWith (fun given fallback => given || fallback) upper lower).get? category).getD false =
        true ↔
      upper.get? category = some true ∨ lower.get? category = some true := by
  by_cases named : category = .other
  · simp [named]
  · rcases upper.exists_get? named with ⟨top, given⟩
    rcases lower.exists_get? named with ⟨bottom, stands⟩
    simp [get?_zipWith, given, stands]

/-- Values that differ for one category at most. -/
def AgreeApartFrom (changed : Category) (left right : ByCategory α) : Prop :=
  ∀ category, category ≠ changed → left.get? category = right.get? category

theorem agreeApartFrom_set
    (values : ByCategory α)
    (changed : Category)
    (value : α) :
    AgreeApartFrom changed values (values.set changed value) := by
  intro category different
  exact (get?_set_of_ne values category changed value different).symm

end ByCategory

/-! ## Where paths are meant -/

namespace Path

open Disk (segmentsOf)

variable {path parent : Path}

/-- Where a path is that is meant relative to a directory. An absolute one is where it says. -/
def within (path directory : Path) : Path :=
  if path.isAbsolute then path else directory.join path

theorem join_eq_within
    (directory path : Path) :
    directory.join path = path.within directory := by
  rw [within]
  split
  next absolute => rw [join, if_pos absolute]
  · rfl

/-- The directory that a file lies in, as the path of the file says: the current one if the path is
a mere name, and otherwise what it says before its last component. -/
inductive LiesIn (path : Path) : Path → Prop where
  | current (bare : '/' ∉ path.text) : LiesIn path (Path.of ".")
  | below {directory : Path} {last : Component}
      (nested : '/' ∈ path.text)
      (starts : directory.text <+: path.text)
      (order : path.components = directory.components ++ [last]) : LiesIn path directory

/-- A path starts like the path above it, unless that one is empty. -/
theorem headComponents_parent?
    (above : path.parent? = some parent)
    (given : parent.isEmpty = false)
    (starts : parent.text <+: path.text) :
    path.headComponents = parent.headComponents := by
  rcases text_of_parent? above given with rfl | ⟨more, order⟩
  · rcases starts with ⟨more, order⟩
    rw [headComponents, head, ← order]
    rfl
  · have same : path = ⟨parent.text ++ '/' :: more⟩ := by
      rw [← order]
    rw [same, headComponents, head_append (text_ne_nil given) fun _ => rfl]
    rfl

theorem slash_mem_of_parent?
    (above : path.parent? = some parent)
    (given : parent.isEmpty = false)
    (starts : parent.text <+: path.text) :
    '/' ∈ path.text := by
  rcases text_of_parent? above given with rfl | ⟨more, order⟩
  · exact starts.subset List.mem_cons_self
  · rw [order]
    exact List.mem_append_right _ List.mem_cons_self

/-- A path that starts nowhere has a first segment that stands for a component, unless it is the
only one. -/
theorem not_isSilent_of_head
    {first second : Text}
    {others : List Text}
    (nowhere : path.head = [])
    (order : segmentsOf path = first :: second :: others) :
    isSilent first = false := by
  have text : path.text = first ++ '/' :: Text.joined ['/'] (second :: others) := by
    rw [← Text.joined_pieces '/' path.text, ← segmentsOf, order, Text.joined_cons_cons]
    simp
  rw [← Bool.not_eq_true, isSilent, Bool.or_eq_true, List.isEmpty_iff, beq_iff_eq]
  rintro (rfl | rfl)
  · rw [head, text] at nowhere
    cases nowhere
  · rw [head, text] at nowhere
    cases nowhere

/-- A path that starts nowhere and has only the component of its last segment is a mere name. -/
theorem slash_not_mem_of_steps
    {others : List Text}
    {last : Text}
    {component : Component}
    (nowhere : path.head = [])
    (order : segmentsOf path = others ++ [last])
    (stands : componentOf? last = some component)
    (alone : path.steps = [component]) :
    '/' ∉ path.text := by
  have silent : others.filterMap componentOf? = [] := by
    rw [steps, order, List.filterMap_append, List.filterMap_cons_some stands] at alone
    simpa using alone
  have none : others = [] := by
    rcases others with _ | ⟨first, others⟩
    · rfl
    rcases List.exists_cons_of_ne_nil (List.concat_ne_nil last others) with ⟨second, more, cut⟩
    rw [List.cons_append, cut] at order
    have telling := not_isSilent_of_head nowhere order
    rw [List.filterMap_eq_nil_iff] at silent
    rcases exists_componentOf?_of_telling telling with ⟨other, counts⟩
    cases (silent first List.mem_cons_self).symm.trans counts
  rw [none, List.nil_append] at order
  have whole : path.text = last := by
    rw [← Text.joined_pieces '/' path.text, ← segmentsOf, order, Text.joined]
  have isPiece : last ∈ Text.pieces (· == '/') path.text := by
    rw [← segmentsOf, order]
    exact List.mem_cons_self
  rw [whole]
  intro slash
  cases (Text.mem_and_not_isSeparator_of_mem_pieces isPiece '/' slash).2

/-- A file lies in the directory that paths of a manifest there are relative to. -/
theorem liesIn_directoryOf
    {others : List Text}
    {last : Text}
    (order : segmentsOf path = others ++ [last])
    (telling : isSilent last = false) :
    path.LiesIn (Manifest.directoryOf path) := by
  rcases exists_parent?_of_telling order telling with
    ⟨parent, component, above, headFirst, starts, -, stands, more⟩
  rw [Manifest.directoryOf, above]
  dsimp only
  cases given : parent.isEmpty with
  | true =>
    have bare : parent.text = [] := by
      simpa [isEmpty] using given
    refine .current (slash_not_mem_of_steps ?_ order stands ?_)
    · exact List.prefix_nil.mp (bare ▸ headFirst)
    · rw [more, steps_of_isEmpty given, List.nil_append]
  | false =>
    have order : path.components = parent.components ++ [component] := by
      rw [components_eq_append_steps, components_eq_append_steps,
        headComponents_parent? above given starts, more, List.append_assoc]
    exact .below (slash_mem_of_parent? above given starts) starts order

/-- A path that a text is read from does not end in a segment that stands for nothing. -/
theorem exists_segments_of_read?
    {disk : Disk}
    {text : Text}
    (reads : disk.read? path = some text) :
    ∃ others last, segmentsOf path = others ++ [last] ∧ isSilent last = false := by
  rcases (Disk.read?_eq_some_iff disk path text).mp reads with ⟨place, leads, stands⟩
  rw [Disk.place?] at leads
  split at leads
  · rcases List.eq_nil_or_concat (segmentsOf path) with none | ⟨others, last, order⟩
    · exact absurd none (Text.pieces_ne_nil _ _)
    rw [List.concat_eq_append] at order
    refine ⟨others, last, order, ?_⟩
    rw [order, Disk.follow?_append, Option.bind_eq_some_iff] at leads
    rcases leads with ⟨reached, -, leads⟩
    rcases (Disk.follow?_cons_eq_some_iff disk reached place last []).mp leads with
      ⟨inside, next, steps, ends⟩
    cases ends
    rw [← Bool.not_eq_true]
    intro silent
    rw [Disk.step?_of_silent silent] at steps
    cases steps
    rw [Disk.isDirectoryAt, stands] at inside
    cases inside
  · cases leads

end Path

/-! ## Settings of layers -/

/-- The settings that a manifest in a directory gives, with those of options over them. -/
def GenerateOptions.settingsOver
    (options : GenerateOptions)
    (manifest : Manifest)
    (directory : Path) :
    Settings :=
  options.overriding (options.project.overriding (manifest.resolvedAgainst directory).settings)

/-- Settings that have the values of their layers: the options, the manifest, whose paths are meant
relative to `directory`, and what is built in. -/
structure Settings.IsLayered
    (settings : Settings)
    (options : GenerateOptions)
    (manifest : Manifest)
    (directory : Path) : Prop where
  root : IsTopmost settings.root [options.project.target, some (manifest.root.within directory)]
  migration :
    IsTopmost settings.migration
      [options.project.migration, some (manifest.migration.within directory)]
  templates :
    IsTopmost settings.templates
      [options.project.templates, some (manifest.templates.within directory)]
  /-- Where the output of a category goes when its template does not say. -/
  fallback :
    ∀ category,
      category ≠ .other →
        ∃ given,
          IsTopmost given
              [options.directories.given? category, manifest.directories.given? category,
                defaultDirectories.get? category] ∧
            settings.fallbackDirectory category = given.within settings.root
  fallback_other : settings.fallbackDirectory .other = settings.root
  skipped :
    ∀ category,
      settings.isSkipped category = true ↔
        options.skipped.get? category = some true ∨ manifest.skipped.get? category = some true
  skipped_other : settings.isSkipped .other = false
  overwrite :
    settings.overwrite = .ifMissing ↔ options.keepsExisting = true ∨ manifest.overwrites = false
  strict : settings.strict = true ↔ options.strict = true ∨ manifest.strict = true

/-- Options that differ in what they say about one category at most, and perhaps in what is
generated with the settings. -/
structure GenerateOptions.AgreeApartFrom
    (changed : Category)
    (left right : GenerateOptions) : Prop where
  project : left.project = right.project
  directories : ByCategory.AgreeApartFrom changed left.directories right.directories
  skipped : ByCategory.AgreeApartFrom changed left.skipped right.skipped
  keepsExisting : left.keepsExisting = right.keepsExisting
  strict : left.strict = right.strict

/-- Manifests that differ in what they say about one category at most, and perhaps in the tables
that they list. -/
structure Manifest.AgreeApartFrom (changed : Category) (left right : Manifest) : Prop where
  root : left.root = right.root
  migration : left.migration = right.migration
  templates : left.templates = right.templates
  directories : ByCategory.AgreeApartFrom changed left.directories right.directories
  skipped : ByCategory.AgreeApartFrom changed left.skipped right.skipped
  overwrites : left.overwrites = right.overwrites
  strict : left.strict = right.strict

/-- Settings that have the same effect for all categories except one at most. -/
structure Settings.AgreeApartFrom (changed : Category) (left right : Settings) : Prop where
  root : left.root = right.root
  migration : left.migration = right.migration
  templates : left.templates = right.templates
  fallback :
    ∀ category,
      category ≠ changed → left.fallbackDirectory category = right.fallbackDirectory category
  skipped : ∀ category, category ≠ changed → left.isSkipped category = right.isSkipped category
  overwrite : left.overwrite = right.overwrite
  strict : left.strict = right.strict

theorem OverwritePolicy.eq_of_ifMissing_iff
    {left right : OverwritePolicy}
    (same : left = .ifMissing ↔ right = .ifMissing) :
    left = right := by
  cases left with
  | always =>
    cases right with
    | always => rfl
    | ifMissing => cases same.mpr rfl
  | ifMissing => exact (same.mp rfl).symm

namespace Settings

variable {settings other : Settings} {options otherOptions : GenerateOptions}
variable {manifest otherManifest : Manifest} {directory : Path}

/-- Layers that agree apart from one category give settings that do. -/
theorem IsLayered.agreeApartFrom
    {changed : Category}
    (layered : settings.IsLayered options manifest directory)
    (otherLayered : other.IsLayered otherOptions otherManifest directory)
    (sameOptions : options.AgreeApartFrom changed otherOptions)
    (sameManifest : manifest.AgreeApartFrom changed otherManifest) :
    settings.AgreeApartFrom changed other := by
  have root : settings.root = other.root := by
    have topmost := layered.root
    rw [sameOptions.project, sameManifest.root] at topmost
    exact topmost.unique otherLayered.root
  constructor
  case root => exact root
  case migration =>
    have topmost := layered.migration
    rw [sameOptions.project, sameManifest.migration] at topmost
    exact topmost.unique otherLayered.migration
  case templates =>
    have topmost := layered.templates
    rw [sameOptions.project, sameManifest.templates] at topmost
    exact topmost.unique otherLayered.templates
  case fallback =>
    intro category different
    by_cases named : category = .other
    · rw [named, layered.fallback_other, otherLayered.fallback_other, root]
    · rcases layered.fallback category named with ⟨given, topmost, within⟩
      rcases otherLayered.fallback category named with ⟨otherGiven, otherTopmost, otherWithin⟩
      rw [ByCategory.given?, ByCategory.given?, sameOptions.directories category different,
        sameManifest.directories category different] at topmost
      rw [within, otherWithin, topmost.unique otherTopmost, root]
  case skipped =>
    intro category different
    rw [Bool.eq_iff_iff, layered.skipped, otherLayered.skipped,
      sameOptions.skipped category different, sameManifest.skipped category different]
  case overwrite =>
    apply OverwritePolicy.eq_of_ifMissing_iff
    rw [layered.overwrite, otherLayered.overwrite, sameOptions.keepsExisting,
      sameManifest.overwrites]
  case strict =>
    rw [Bool.eq_iff_iff, layered.strict, otherLayered.strict, sameOptions.strict,
      sameManifest.strict]

/-- Directories that come from layers decide where the output of named categories goes. -/
theorem exists_fallback
    {layers : Category → List (Option Path)}
    (comes : settings.directories.ComesFrom layers)
    {category : Category}
    (named : category ≠ .other) :
    ∃ given,
      IsTopmost given (layers category) ∧
        settings.fallbackDirectory category = given.within settings.root := by
  rcases comes category named with ⟨given, stands, topmost⟩
  refine ⟨given, topmost, ?_⟩
  rw [fallbackDirectory, stands]
  exact Path.join_eq_within settings.root given

/-- The settings of options over a manifest have the values of their layers. -/
theorem isLayered_settingsOver
    (options : GenerateOptions)
    (manifest : Manifest)
    (directory : Path) :
    (options.settingsOver manifest directory).IsLayered options manifest directory := by
  -- A place of the manifest that an option may stand over.
  have place (given : Option Path) (path : Path) :
      IsTopmost (given.getD (directory.join path)) [given, some (path.within directory)] := by
    rw [Path.join_eq_within]
    exact (IsTopmost.given []).under given
  constructor
  case root => exact place options.project.target manifest.root
  case migration => exact place options.project.migration manifest.migration
  case templates => exact place options.project.templates manifest.templates
  case fallback =>
    intro category named
    have builtIn := defaultDirectories.comesFrom_self
    have comes :
        (options.settingsOver manifest directory).directories.ComesFrom fun category =>
          [options.directories.given? category, manifest.directories.given? category,
            defaultDirectories.get? category] :=
      (builtIn.under manifest.directories).under options.directories
    exact exists_fallback comes named
  case fallback_other => exact fallbackDirectory_other _
  case skipped =>
    intro category
    exact ByCategory.isSet_zipWith_iff options.skipped manifest.skipped category
  case skipped_other => exact isSkipped_other _
  case overwrite =>
    dsimp only [GenerateOptions.settingsOver, GenerateOptions.overriding,
      ProjectOptions.overriding, Manifest.settings, Manifest.resolvedAgainst]
    cases options.keepsExisting with
    | true => simp
    | false =>
      cases manifest.overwrites with
      | true => simp
      | false => simp
  case strict => exact Bool.or_eq_true_iff

end Settings

/-! ## Options of a category -/

theorem Arguments.get?_byCategory
    {α : Type}
    (value : Category → α)
    {category : Category}
    (named : category ≠ .other) :
    (byCategory value).get? category = some (value category) := by
  cases category with
  | entity => rfl
  | repository => rfl
  | usecase => rfl
  | handler => rfl
  | payload => rfl
  | other => exact absurd rfl named

/-- Options that say about every named category what the command line gives for the two options that
carry its label. -/
structure GenerateOptions.FollowLabels
    (options : GenerateOptions)
    (given : List Arguments.Given) : Prop where
  directory :
    ∀ category,
      category ≠ .other →
        options.directories.given? category =
          Arguments.path? given (category.label ++ "-dir".toList)
  skipped :
    ∀ category,
      category ≠ .other →
        (options.skipped.get? category = some true ↔
          Arguments.isGiven given ("skip-".toList ++ category.label) = true)

theorem Arguments.followLabels_of_commandOf
    {given : List Given}
    {options : GenerateOptions}
    (reads : commandOf .generate given = .ok (.generate options)) :
    options.FollowLabels given := by
  rw [commandOf] at reads
  cases reads
  constructor
  case directory =>
    intro category named
    rw [ByCategory.given?, get?_byCategory _ named, Option.join_some, directoryOption]
  case skipped =>
    intro category named
    rw [get?_byCategory _ named, Option.some.injEq, skipOption]

/-! ## Settings of a generation -/

/-- The path of the manifest that options name, which is the usual one if they name none. -/
def ProjectOptions.manifestPath (options : ProjectOptions) : Path :=
  options.config.getD ⟨Manifest.fileName⟩

/-- The settings that a generation works with. -/
def GenerateOptions.settingsOn (options : GenerateOptions) (disk : Disk) :
    Except CommandError Settings :=
  (options.project.load disk true).map fun project => options.overriding project.settings

variable {disk : Disk} {manifest : Manifest}

theorem Manifest.read_eq_ok_iff
    (disk : Disk)
    (path : Path)
    (manifest : Manifest) :
    read disk path = .ok manifest ↔
      ∃ source, disk.read? path = some source ∧ parse path.text source = .ok manifest := by
  rw [read]
  cases disk.read? path with
  | none => simp
  | some source => simp

theorem ProjectOptions.manifestPath?_of_read?
    {options : ProjectOptions}
    {source : Text}
    (reads : disk.read? options.manifestPath = some source) :
    options.manifestPath? disk = some options.manifestPath := by
  rw [manifestPath] at reads ⊢
  rw [manifestPath?]
  cases given : options.config with
  | some path => rfl
  | none =>
    rw [given, Option.getD_none] at reads
    rcases (Disk.read?_eq_some_iff disk _ source).mp reads with ⟨place, leads, stands⟩
    have isThere : disk.pathExists ⟨Manifest.fileName⟩ = true := by
      rw [Disk.pathExists, Disk.node?, leads, Option.bind_some, stands]
      rfl
    rw [Option.getD_none, if_pos isThere]

/-- A generation with an accepted manifest has settings. -/
theorem GenerateOptions.settingsOn_of_read
    {options : GenerateOptions}
    (accepted : Manifest.read disk options.project.manifestPath = .ok manifest) :
    options.settingsOn disk =
      .ok
        (options.settingsOver manifest
          (Manifest.directoryOf options.project.manifestPath)) := by
  rcases (Manifest.read_eq_ok_iff disk _ manifest).mp accepted with ⟨source, reads, parses⟩
  rw [settingsOn, ProjectOptions.load, ProjectOptions.manifestPath?_of_read? reads]
  dsimp only
  rw [Manifest.openAt, reads]
  dsimp only
  rw [parses]
  rfl

/-- The generator that a generation prepares has the settings of the generation. -/
theorem Command.settings_of_preparedGeneration
    {options : GenerateOptions}
    {generator : Generator}
    {targets : List Target}
    (prepared : preparedGeneration disk options = .ok (generator, targets)) :
    options.settingsOn disk = .ok generator.settings := by
  rcases (preparedGeneration_eq_ok_iff disk options generator targets).mp prepared with
    ⟨project, opened, -, -, loaded⟩
  rcases (Generator.load_eq_ok_iff disk _ generator).mp loaded with ⟨set, -, rfl⟩
  rw [GenerateOptions.settingsOn, opened]
  rfl

/--
With a manifest that is accepted, whatever path it is at, a generation has settings, which are those
of its generator. They have the values of their layers, of which the options of a category are the
ones that carry its label, and the paths of the manifest are relative to the directory that it lies
in. And where options and manifest change for one category only, the settings have the same effect
for all others.
-/
theorem GenerateOptions.settings_are_layered
    {options : GenerateOptions}
    (accepted : Manifest.read disk options.project.manifestPath = .ok manifest) :
    ∃ settings,
      options.settingsOn disk = .ok settings ∧
        (∀ generator targets,
          Command.preparedGeneration disk options = .ok (generator, targets) →
            generator.settings = settings) ∧
        (∀ given,
          Arguments.commandOf .generate given = .ok (.generate options) →
            options.FollowLabels given) ∧
        settings.IsLayered options manifest
          (Manifest.directoryOf options.project.manifestPath) ∧
        options.project.manifestPath.LiesIn
          (Manifest.directoryOf options.project.manifestPath) ∧
        ∀ changed otherDisk otherOptions otherManifest,
          Manifest.read otherDisk otherOptions.project.manifestPath = .ok otherManifest →
            options.AgreeApartFrom changed otherOptions →
            manifest.AgreeApartFrom changed otherManifest →
              ∃ otherSettings,
                otherOptions.settingsOn otherDisk = .ok otherSettings ∧
                  settings.AgreeApartFrom changed otherSettings := by
  have computed := settingsOn_of_read accepted
  have layered :=
    Settings.isLayered_settingsOver options manifest
      (Manifest.directoryOf options.project.manifestPath)
  refine ⟨_, computed, ?generator, ?labels, layered, ?lies, ?apart⟩
  case generator =>
    intro generator targets prepared
    have same := Command.settings_of_preparedGeneration prepared
    rw [computed] at same
    exact (Except.ok.inj same).symm
  case labels =>
    intro given reads
    exact Arguments.followLabels_of_commandOf reads
  case lies =>
    rcases (Manifest.read_eq_ok_iff disk _ manifest).mp accepted with ⟨source, reads, -⟩
    rcases Path.exists_segments_of_read? reads with ⟨others, last, order, telling⟩
    exact Path.liesIn_directoryOf order telling
  case apart =>
    intro changed otherDisk otherOptions otherManifest otherAccepted sameOptions sameManifest
    have otherLayered :=
      Settings.isLayered_settingsOver otherOptions otherManifest
        (Manifest.directoryOf otherOptions.project.manifestPath)
    refine ⟨_, settingsOn_of_read otherAccepted, ?_⟩
    rw [← sameOptions.project] at otherLayered ⊢
    exact layered.agreeApartFrom otherLayered sameOptions sameManifest

/-- A disk with a manifest that is not in the working directory. -/
def studio : Disk where
  nodes :=
    [(["srv".toList], .directory), (["srv".toList, "conf".toList], .directory),
      (["srv".toList, "conf".toList, "crudgen.toml".toList],
        .file
          (.text
            ("[project]\nmigration = \"db/schema.sql\"\ntemplates = \"/opt/templates\"\n" ++
              "[output]\nhandler = \"/var/http\"\npayload = \"api/payload\"\n" ++
              "[skip]\nusecase = true\n[generate]\noverwrite = false\n").toList))]
  working := ["srv".toList]

/-- The manifest on that disk. -/
def studioManifest : Manifest where
  root := Path.of "."
  migration := Path.of "db/schema.sql"
  templates := Path.of "/opt/templates"
  directories := ⟨none, none, none, some (Path.of "/var/http"), some (Path.of "api/payload")⟩
  skipped := ⟨false, false, true, false, false⟩
  overwrites := false
  strict := false
  tables := []

/-- Options that stand over some of what the manifest says. -/
def studioOptions : GenerateOptions where
  project := ⟨some (Path.of "conf/crudgen.toml"), none, some (Path.of "other.sql"), none⟩
  selection := ⟨[], []⟩
  directories := ⟨none, none, none, none, some (Path.of "dto")⟩
  skipped := ⟨true, false, false, false, false⟩
  keepsExisting := false
  strict := true
  dryRun := false

/-- What options and manifest come to. -/
def studioSettings : Settings where
  root := Path.of "conf/."
  migration := Path.of "other.sql"
  templates := Path.of "/opt/templates"
  directories :=
    ⟨Path.of "core/entity", Path.of "repository", Path.of "usecase", Path.of "/var/http",
      Path.of "dto"⟩
  skipped := ⟨true, false, true, false, false⟩
  overwrite := .ifMissing
  strict := true

/-- The same options with others for payloads. -/
def payloadOptions : GenerateOptions :=
  { studioOptions with
    directories := studioOptions.directories.set .payload none
    skipped := studioOptions.skipped.set .payload true }

/-- Options stand over the manifest, and those for payloads make no difference to the rest. -/
theorem studio_settings_are_layered :
    Manifest.read studio (Path.of "conf/crudgen.toml") = .ok studioManifest ∧
      studioOptions.settingsOn studio = .ok studioSettings ∧
      studioSettings.IsLayered studioOptions studioManifest (Path.of "conf") ∧
      (Path.of "conf/crudgen.toml").LiesIn (Path.of "conf") ∧
      ∃ settings,
        payloadOptions.settingsOn studio = .ok settings ∧
          studioSettings.AgreeApartFrom .payload settings := by
  have accepted : Manifest.read studio (Path.of "conf/crudgen.toml") = .ok studioManifest := by
    decide +kernel
  have lies : Manifest.directoryOf (Path.of "conf/crudgen.toml") = Path.of "conf" := by
    decide +kernel
  have same : Manifest.AgreeApartFrom .payload studioManifest studioManifest :=
    ⟨rfl, rfl, rfl, fun _ _ => rfl, fun _ _ => rfl, rfl, rfl⟩
  have others : GenerateOptions.AgreeApartFrom .payload studioOptions payloadOptions :=
    ⟨rfl, ByCategory.agreeApartFrom_set _ _ _, ByCategory.agreeApartFrom_set _ _ _, rfl, rfl⟩
  have atPath : Manifest.read studio studioOptions.project.manifestPath = .ok studioManifest :=
    accepted
  have computed : studioOptions.settingsOn studio = .ok studioSettings := by
    rw [GenerateOptions.settingsOn_of_read atPath]
    decide +kernel
  rcases GenerateOptions.settings_are_layered atPath with
    ⟨settings, given, -, -, layered, inside, apart⟩
  rw [computed] at given
  cases given
  exact
    ⟨accepted, computed, lies ▸ layered, lies ▸ inside,
      apart .payload studio payloadOptions studioManifest accepted others same⟩

end Scaffold
