import Mathlib.Data.List.Forall2
import Scaffold.Proofs.DirectoryListings
import Scaffold.Proofs.DiskGrowth
import Scaffold.Proofs.TemplateInsertion

/-!
# Loading the templates of a directory

A directory is loaded one file after the other, in the order of the names: each file is read, parsed
and registered before the next one is read. A set of named texts parses all of them in the order in
which they are given, and only then sorts and registers them. Both give the same set. Sorting
forgets the order in which names are listed or given, because no two templates of a directory have
the same name, and whether a text can be parsed and registered depends on the text alone. So loading
succeeds for one order of the entries and of the texts exactly when it does for every other one.
-/

namespace Scaffold.TemplateSet

/-! ## Lists that are related member by member -/

section Related

variable {α β : Type} {R : α → β → Prop}

theorem exists_mem_of_forall₂
    {left : List α}
    {right : List β}
    (related : List.Forall₂ R left right)
    {first : α}
    (isMember : first ∈ left) :
    ∃ second ∈ right, R first second := by
  induction related with
  | nil => cases isMember
  | cons relates _ hypothesis =>
    rcases List.mem_cons.mp isMember with rfl | later
    · exact ⟨_, List.mem_cons_self, relates⟩
    · rcases hypothesis later with ⟨second, found, relatesLater⟩
      exact ⟨second, List.mem_cons_of_mem _ found, relatesLater⟩

theorem exists_forall₂
    {left : List α}
    (each : ∀ first ∈ left, ∃ second, R first second) :
    ∃ right, List.Forall₂ R left right := by
  induction left with
  | nil => exact ⟨[], .nil⟩
  | cons first left hypothesis =>
    rw [List.forall_mem_cons] at each
    rcases each.1 with ⟨second, relates⟩
    rcases hypothesis each.2 with ⟨right, related⟩
    exact ⟨second :: right, .cons relates related⟩

end Related

/-! ## The order of names -/

theorem precedes_iff
    (left right : Text) :
    Text.precedes left right = true ↔ ¬ right < left := by
  rw [Text.precedes, Bool.not_eq_true', decide_eq_false_iff_not]

theorem precedes_antisymm
    {left right : Text}
    (before : Text.precedes left right = true)
    (after : Text.precedes right left = true) :
    left = right :=
  List.le_antisymm ((precedes_iff left right).mp before) ((precedes_iff right left).mp after)

theorem precedes_trans
    {first second third : Text}
    (before : Text.precedes first second = true)
    (after : Text.precedes second third = true) :
    Text.precedes first third = true := by
  rw [precedes_iff] at before after ⊢
  exact List.le_trans before after

theorem precedes_total
    (left right : Text) :
    (Text.precedes left right || Text.precedes right left) = true := by
  rw [Bool.or_eq_true, precedes_iff, precedes_iff]
  exact List.le_total left right

theorem lt_of_precedes
    {left right : Text}
    (before : Text.precedes left right = true)
    (differ : left ≠ right) :
    left < right :=
  (List.le_iff_lt_or_eq.mp ((precedes_iff left right).mp before)).resolve_right differ

/-- Sorted lists of the same texts are the same. -/
theorem eq_of_perm_of_sorted
    {left right : List Text}
    (order : left.Perm right)
    (leftSorted : left.Pairwise (Text.precedes · ·))
    (rightSorted : right.Pairwise (Text.precedes · ·)) :
    left = right := by
  apply order.eq_of_pairwise ?_ leftSorted rightSorted
  intro first second _ _ before after
  exact precedes_antisymm before after

/-- Entries that are sorted by their names have them in order. -/
theorem sorted_mergeSort
    {α : Type}
    (name : α → Text)
    (entries : List α) :
    (entries.mergeSort fun left right => Text.precedes (name left) (name right)).Pairwise
      fun left right => Text.precedes (name left) (name right) := by
  apply List.pairwise_mergeSort
  · intro first second third
    exact precedes_trans
  · intro first second
    exact precedes_total (name first) (name second)

theorem sorted_ordered
    (templates : List Template) :
    ((ordered templates).map (·.name)).Pairwise (Text.precedes · ·) :=
  List.pairwise_map.mpr (sorted_mergeSort (·.name) templates)

theorem mem_ordered_iff
    (templates : List Template)
    (template : Template) :
    template ∈ ordered templates ↔ template ∈ templates :=
  List.mem_mergeSort

/-! ## Reading and parsing -/

theorem name_of_ofSource?
    {name source : Text}
    {template : Template}
    (reads : Template.ofSource? name source = some template) :
    template.name = name := by
  rw [Template.ofSource?] at reads
  split at reads
  · cases reads
  · cases reads
    rfl

theorem parse_eq_ok_iff
    (name source : Text)
    (template : Template) :
    parse name source = .ok template ↔ Template.ofSource? name source = some template := by
  rw [parse]
  cases Template.ofSource? name source with
  | none => simp
  | some other => simp

/-- A named source is that of a template. -/
def Parses (source : Text × Text) (template : Template) : Prop :=
  Template.ofSource? source.1 source.2 = some template

theorem map_name_of_parses
    {sources : List (Text × Text)}
    {templates : List Template}
    (parsed : List.Forall₂ Parses sources templates) :
    templates.map (·.name) = sources.map Prod.fst := by
  induction parsed with
  | nil => rfl
  | cons parses _ hypothesis =>
    rw [List.map_cons, List.map_cons, name_of_ofSource? parses, hypothesis]

theorem parseAll_eq_ok_iff
    (sources : List (Text × Text))
    (templates : List Template) :
    parseAll sources = .ok templates ↔
      List.Forall₂ Parses sources templates := by
  induction sources generalizing templates with
  | nil => simp [parseAll, eq_comm]
  | cons source sources hypothesis =>
    rcases source with ⟨name, source⟩
    rw [parseAll, List.forall₂_cons_left_iff]
    simp only [bind, bind_eq_ok_iff, parse_eq_ok_iff, hypothesis, Except.ok.injEq, Parses]
    constructor
    · rintro ⟨template, parses, others, later, rfl⟩
      exact ⟨template, others, parses, later, rfl⟩
    · rintro ⟨template, others, parses, later, rfl⟩
      exact ⟨template, parses, others, later, rfl⟩

/-- The file of a name in a directory is that of a template. -/
def Reads (disk : Disk) (directory : Path) (name : Text) (template : Template) : Prop :=
  ∃ source,
    disk.read? (directory.child name) = some source ∧
      Template.ofSource? name source = some template

theorem reads_unique
    {disk : Disk}
    {directory : Path} :
    Relator.RightUnique (Reads disk directory) := by
  rintro name template other ⟨source, holds, parses⟩ ⟨again, holdsAgain, parsesAgain⟩
  rw [holds, Option.some.injEq] at holdsAgain
  rw [← holdsAgain, parses, Option.some.injEq] at parsesAgain
  exact parsesAgain

theorem loadOne_eq_ok_iff
    (disk : Disk)
    (directory : Path)
    (set next : TemplateSet)
    (name : Text) :
    loadOne disk directory set name = .ok next ↔
      ∃ template, Reads disk directory name template ∧ set.insert template = .ok next := by
  rw [loadOne]
  simp only [Reads]
  cases disk.read? (directory.child name) with
  | none => simp
  | some source => simp [bind, bind_eq_ok_iff, parse_eq_ok_iff]

/-- Reading and registering files in turn gives what registering them after reading all does. -/
theorem loadAll_eq_ok_iff
    (disk : Disk)
    (directory : Path)
    (set next : TemplateSet)
    (names : List Text) :
    loadAll disk directory set names = .ok next ↔
      ∃ templates,
        List.Forall₂ (Reads disk directory) names templates ∧
          set.insertAll templates = .ok next := by
  induction names generalizing set with
  | nil => simp [loadAll, insertAll]
  | cons name names hypothesis =>
    rw [loadAll]
    simp only [bind, bind_eq_ok_iff, loadOne_eq_ok_iff, hypothesis, List.forall₂_cons_left_iff]
    constructor
    · rintro ⟨between, ⟨template, reads, inserted⟩, templates, others, later⟩
      exact
        ⟨template :: templates, ⟨template, templates, reads, others, rfl⟩,
          (insertAll_cons_eq_ok_iff _ _ _ _).mpr ⟨between, inserted, later⟩⟩
    · rintro ⟨_, ⟨template, templates, reads, others, rfl⟩, all⟩
      rcases (insertAll_cons_eq_ok_iff _ _ _ _).mp all with ⟨between, inserted, later⟩
      exact ⟨between, ⟨template, reads, inserted⟩, templates, others, later⟩

theorem discoverNames_eq_ok_iff
    (disk : Disk)
    (directory : Path)
    (names : List Text) :
    discoverNames disk directory = .ok names ↔
      disk.isDirectory directory = true ∧ templateNames disk directory = names ∧ names ≠ [] := by
  by_cases isDirectory : disk.isDirectory directory = true
  · have stands : disk.node? directory = some .directory := of_decide_eq_true isDirectory
    have present : disk.pathExists directory = true := by
      rw [Disk.pathExists, stands]
      rfl
    have given : directory.isEmpty = false := by
      cases empty : directory.isEmpty with
      | false => rfl
      | true =>
        rw [Disk.node?, Disk.place?, Disk.pathFits, List.isEmpty_iff.mp empty] at stands
        cases stands
    rw [discoverNames, given, present, isDirectory]
    simp only [Bool.not_true, Bool.false_eq_true, if_false, true_and]
    constructor
    · intro found
      split at found
      · cases found
      · split at found
        · cases found
        next telling =>
          cases found
          exact ⟨rfl, by simpa using telling⟩
    · rintro ⟨rfl, telling⟩
      have listed : disk.namesIn directory ≠ [] := by
        intro none
        apply telling
        rw [templateNames, none]
        exact List.mergeSort_nil
      rw [if_neg (by simpa using listed), if_neg (by simpa using telling)]
  · rw [discoverNames]
    simp only [isDirectory, Bool.not_false, if_true, Bool.false_eq_true, false_and, iff_false]
    intro found
    split at found
    · cases found
    · split at found
      · cases found
      · cases found

theorem load_eq_ok_iff
    (disk : Disk)
    (directory : Path)
    (strict : Bool)
    (set : TemplateSet) :
    load disk directory strict = .ok set ↔
      disk.isDirectory directory = true ∧
        templateNames disk directory ≠ [] ∧
        ∃ templates,
          List.Forall₂ (Reads disk directory) (templateNames disk directory) templates ∧
            (empty strict).insertAll templates = .ok set := by
  rw [load]
  simp only [bind, bind_eq_ok_iff, discoverNames_eq_ok_iff, loadAll_eq_ok_iff]
  constructor
  · rintro ⟨names, ⟨isDirectory, rfl, telling⟩, templates, reads, inserted⟩
    exact ⟨isDirectory, telling, templates, reads, inserted⟩
  · rintro ⟨isDirectory, telling, templates, reads, inserted⟩
    exact ⟨_, ⟨isDirectory, rfl, telling⟩, templates, reads, inserted⟩

theorem ofSources_eq_ok_iff
    (strict : Bool)
    (sources : List (Text × Text))
    (set : TemplateSet) :
    ofSources strict sources = .ok set ↔
      ∃ templates,
        List.Forall₂ Parses sources templates ∧
          (empty strict).insertAll (ordered templates) = .ok set := by
  rw [ofSources]
  simp only [bind, bind_eq_ok_iff, parseAll_eq_ok_iff]

/-! ## The templates of a directory -/

/-- The readable templates of a directory with their texts, in any order. -/
structure AreTemplatesIn
    (sources : List (Text × Text))
    (disk : Disk)
    (directory : Path)
    (home : Place) : Prop where
  once : (sources.map Prod.fst).Nodup
  names :
    ∀ name,
      name ∈ sources.map Prod.fst ↔
        IsTemplateName name ∧ disk.hasFileAt (home ++ [name]) = true
  texts :
    ∀ name source, (name, source) ∈ sources → disk.read? (directory.child name) = some source

section Listing

variable
    {disk listed : Disk}
    {directory : Path}
    {home : Place}
    (leads : disk.place? directory = some home)
    (entries : ∀ name, (disk.at? (home ++ [name])).isSome = true → Path.IsEntryName name)
    {sources : List (Text × Text)}
    (given : AreTemplatesIn sources disk directory home)

include leads entries given

/-- The files that a directory lists as its templates are those whose texts are given. -/
theorem mem_filter_isTemplate_iff
    (same : listed.Same disk)
    (name : Text) :
    name ∈ (listed.namesIn directory).filter (fun name =>
        isTemplate listed (directory.child name)) ↔
      name ∈ sources.map Prod.fst := by
  have leadsToo : listed.place? directory = some home := by rw [same.place?, leads]
  rw [List.mem_filter, Disk.mem_namesIn_iff leadsToo, same.2, isTemplate, Bool.and_eq_true,
    Disk.isFile_iff]
  constructor
  · rintro ⟨stands, ⟨place, content, onward, holds⟩, extended⟩
    -- a name is a single segment, so its path leads back to the entry that was listed
    have entry := entries name stands
    rw [entry.extension?_child, Option.any_eq_true] at extended
    rcases extended with ⟨extension, parted, isMember⟩
    rw [same.place?] at onward
    rw [same.2, entry.place?_child leads onward] at holds
    exact
      (given.names name).mpr
        ⟨⟨extension, List.contains_iff_mem.mp isMember, parted⟩,
          (Disk.hasFileAt_iff disk _).mpr ⟨content, holds⟩⟩
  · intro isMember
    rcases (given.names name).mp isMember with ⟨⟨extension, isExtension, parted⟩, isFile⟩
    rcases (Disk.hasFileAt_iff disk _).mp isFile with ⟨content, stands⟩
    have present : (disk.at? (home ++ [name])).isSome = true := by
      rw [stands]
      rfl
    rcases List.mem_map.mp isMember with ⟨⟨_, source⟩, isSource, rfl⟩
    have reads := given.texts _ _ isSource
    rw [← same.read?, Disk.read?_eq_some_iff] at reads
    rcases reads with ⟨place, onward, holds⟩
    refine ⟨present, ⟨place, _, onward, holds⟩, ?_⟩
    rw [(entries _ present).extension?_child, Option.any_eq_true]
    exact ⟨extension, parted, List.contains_iff_mem.mpr isExtension⟩

theorem mem_templateNames_iff
    (same : listed.Same disk)
    (name : Text) :
    name ∈ templateNames listed directory ↔ name ∈ sources.map Prod.fst :=
  List.mem_mergeSort.trans (mem_filter_isTemplate_iff leads entries given same name)

/-- The names of the templates do not depend on the order in which the directory lists them. -/
theorem templateNames_eq_of_perm
    (once : listed.HasEachPlaceOnce)
    (same : listed.Same disk)
    {names : List Text}
    (sorted : names.Pairwise (Text.precedes · ·))
    (order : names.Perm (sources.map Prod.fst)) :
    templateNames listed directory = names := by
  have found :
      ((listed.namesIn directory).filter fun name =>
          isTemplate listed (directory.child name)).Perm (sources.map Prod.fst) := by
    apply (List.perm_ext_iff_of_nodup ((Disk.nodup_namesIn once directory).filter _) given.once).mpr
    exact mem_filter_isTemplate_iff leads entries given same
  apply eq_of_perm_of_sorted ?_ (sorted_mergeSort id _) sorted
  exact (List.mergeSort_perm _ _).trans (found.trans order.symm)

/-- The templates of the texts, once they are sorted, are those of the files in the directory, in
the order of their names. -/
theorem forall₂_reads_ordered
    (once : listed.HasEachPlaceOnce)
    (same : listed.Same disk)
    {templates : List Template}
    (parsed : List.Forall₂ Parses sources templates) :
    List.Forall₂ (Reads listed directory) (templateNames listed directory)
      (ordered templates) := by
  have listing : templateNames listed directory = (ordered templates).map (·.name) := by
    apply templateNames_eq_of_perm leads entries given once same (sorted_ordered templates)
    rw [← map_name_of_parses parsed]
    exact (List.mergeSort_perm templates _).map _
  rw [listing, List.forall₂_map_left_iff, List.forall₂_same]
  intro template isMember
  rw [mem_ordered_iff] at isMember
  rcases exists_mem_of_forall₂ parsed.flip isMember with ⟨⟨name, source⟩, isSource, parses⟩
  refine ⟨source, ?_, ?_⟩
  · rw [name_of_ofSource? parses, same.read?]
    exact given.texts name source isSource
  · rw [name_of_ofSource? parses]
    exact parses

/-- When every file of the directory is that of a template, so is every text. -/
theorem exists_parsed_of_reads
    (same : listed.Same disk)
    {templates : List Template}
    (reads :
      List.Forall₂ (Reads listed directory) (templateNames listed directory) templates) :
    ∃ parsed, List.Forall₂ Parses sources parsed := by
  apply exists_forall₂
  intro ⟨name, source⟩ isSource
  have isListed : name ∈ templateNames listed directory := by
    apply (mem_templateNames_iff leads entries given same name).mpr
    exact List.mem_map_of_mem isSource
  rcases exists_mem_of_forall₂ reads isListed with ⟨template, -, other, holds, parses⟩
  rw [same.read?, given.texts name source isSource] at holds
  cases holds
  exact ⟨template, parses⟩

/-- Loading a directory gives what the texts of its templates give. -/
theorem load_eq_ok_iff_ofSources
    (once : listed.HasEachPlaceOnce)
    (same : listed.Same disk)
    (isDirectory : disk.isDirectoryAt home = true)
    (telling : sources ≠ [])
    (strict : Bool)
    (set : TemplateSet) :
    load listed directory strict = .ok set ↔ ofSources strict sources = .ok set := by
  rw [load_eq_ok_iff, ofSources_eq_ok_iff]
  constructor
  · rintro ⟨-, -, templates, reads, inserted⟩
    -- a name and the text of its file leave no choice, so both sides add the same templates
    rcases exists_parsed_of_reads leads entries given same reads with ⟨parsed, parses⟩
    have agree : ordered parsed = templates :=
      List.right_unique_forall₂' reads_unique
        (forall₂_reads_ordered leads entries given once same parses) reads
    refine ⟨parsed, parses, ?_⟩
    rw [agree]
    exact inserted
  · rintro ⟨parsed, parses, inserted⟩
    refine ⟨?_, ?_, ordered parsed, ?_, inserted⟩
    · rw [Disk.isDirectory, same.node?, Disk.node?, leads]
      exact isDirectory
    · rcases List.exists_mem_of_ne_nil sources telling with ⟨source, isSource⟩
      have isListed :=
        (mem_templateNames_iff leads entries given same source.1).mpr
          (List.mem_map_of_mem isSource)
      exact List.ne_nil_of_mem isListed
    · exact forall₂_reads_ordered leads entries given once same parses

end Listing

/-! ## Sets of named texts -/

/-- The text of a template is accepted when it has a body, and its body and its directives are
stencils. -/
def IsAccepted (source : Text × Text) : Prop :=
  ∃ template, Parses source template ∧ template.IsFillable

/-- Whether texts give a set does not depend on their order. -/
theorem exists_ofSources_iff
    (strict : Bool)
    (sources : List (Text × Text)) :
    (∃ set, ofSources strict sources = .ok set) ↔ ∀ source ∈ sources, IsAccepted source := by
  simp only [ofSources_eq_ok_iff]
  constructor
  · rintro ⟨set, templates, parsed, inserted⟩ source isSource
    rcases exists_mem_of_forall₂ parsed isSource with ⟨template, isMember, parses⟩
    refine ⟨template, parses, ?_⟩
    apply (exists_insertAll_iff (empty strict) (ordered templates)).mp ⟨set, inserted⟩
    exact (mem_ordered_iff templates template).mpr isMember
  · intro accepted
    rcases exists_forall₂ accepted with ⟨templates, related⟩
    have parsed : List.Forall₂ Parses sources templates :=
      related.imp fun _ _ relates => relates.1
    have fillable : ∀ template ∈ ordered templates, template.IsFillable := by
      intro template isMember
      rw [mem_ordered_iff] at isMember
      rcases exists_mem_of_forall₂ related.flip isMember with ⟨source, -, relates⟩
      exact relates.2
    rcases (exists_insertAll_iff (empty strict) _).mpr fillable with ⟨set, inserted⟩
    exact ⟨set, templates, parsed, inserted⟩

/-- What a set of texts holds when their names are different names of templates. -/
structure IsSetOf (set : TemplateSet) (strict : Bool) (sources : List (Text × Text)) : Prop where
  strict : set.strict = strict
  sorted : (set.templates.map (·.name)).Pairwise (· < ·)
  names : ∀ name, name ∈ set.templates.map (·.name) ↔ name ∈ sources.map Prod.fst
  templates :
    ∀ template, template ∈ set.templates ↔ ∃ source ∈ sources, Parses source template
  stencils : ∀ template ∈ set.templates, set.HoldsStencils template

theorem isSetOf_of_ofSources
    {strict : Bool}
    {sources : List (Text × Text)}
    (once : (sources.map Prod.fst).Nodup)
    (named : ∀ name ∈ sources.map Prod.fst, IsTemplateName name)
    {set : TemplateSet}
    (succeeds : ofSources strict sources = .ok set) :
    IsSetOf set strict sources := by
  rcases (ofSources_eq_ok_iff strict sources set).mp succeeds with ⟨templates, parsed, inserted⟩
  have names := map_name_of_parses parsed
  have onceOrdered : ((ordered templates).map (·.name)).Nodup := by
    apply ((List.mergeSort_perm templates _).map _).nodup_iff.mpr
    rw [names]
    exact once
  have unmarked : ∀ template ∈ ordered templates, IsUnmarked template.name := by
    intro template isMember
    apply (named template.name ?_).isUnmarked
    rw [← names]
    exact List.mem_map_of_mem ((mem_ordered_iff templates template).mp isMember)
  have distinct :
      ((empty strict).templates ++ ordered templates).Pairwise (·.name ≠ ·.name) :=
    List.pairwise_map.mp onceOrdered
  have inserts := insertsAll_of_insertAll distinct unmarked inserted
  have holds : set.templates = ordered templates := inserts.templates
  constructor
  case strict => exact inserts.strict
  case sorted =>
    rw [holds]
    apply ((sorted_ordered templates).and onceOrdered).imp
    rintro before after ⟨inOrder, differ⟩
    exact lt_of_precedes inOrder differ
  case names =>
    intro name
    rw [holds, ← names]
    exact ((List.mergeSort_perm templates _).map _).mem_iff
  case templates =>
    intro template
    rw [holds, mem_ordered_iff]
    constructor
    · intro isMember
      exact exists_mem_of_forall₂ parsed.flip isMember
    · rintro ⟨source, isSource, parses⟩
      rcases exists_mem_of_forall₂ parsed isSource with ⟨other, isMember, parsesOther⟩
      rw [Parses] at parses parsesOther
      rw [parsesOther, Option.some.injEq] at parses
      rw [← parses]
      exact isMember
  case stencils =>
    rw [holds]
    exact inserts.holds

/--
Loading a directory that holds templates gives the same set as their names and texts do, in whatever
order the directory lists its entries and the texts are given. Both succeed when every text is
accepted. The set then has one template for each file with an extension of templates, in increasing
order of the names, each with the stencils of its body and its directives.
-/
theorem load_agrees_with_ofSources
    {disk : Disk}
    {directory : Path}
    {home : Place}
    (leads : disk.place? directory = some home)
    (isDirectory : disk.isDirectoryAt home = true)
    (once : disk.HasEachPlaceOnce)
    (entries : ∀ name, (disk.at? (home ++ [name])).isSome = true → Path.IsEntryName name)
    {sources : List (Text × Text)}
    (telling : sources ≠ [])
    (given : AreTemplatesIn sources disk directory home)
    (strict : Bool) :
    (∀ listed : Disk,
        listed.nodes.Perm disk.nodes →
          listed.working = disk.working →
            ∀ set,
              load listed directory strict = .ok set ↔ ofSources strict sources = .ok set) ∧
      ((∃ set, ofSources strict sources = .ok set) ↔ ∀ source ∈ sources, IsAccepted source) ∧
      ∀ set,
        ofSources strict sources = .ok set →
          IsSetOf set strict sources ∧
            ∀ name,
              name ∈ set.templates.map (·.name) ↔
                IsTemplateName name ∧ disk.hasFileAt (home ++ [name]) = true := by
  refine ⟨?_, exists_ofSources_iff strict sources, ?_⟩
  · intro listed order working
    have same : listed.Same disk := Disk.same_of_perm once order working
    exact
      load_eq_ok_iff_ofSources leads entries given (once.of_perm order) same isDirectory telling
        strict
  · intro set succeeds
    have named : ∀ name ∈ sources.map Prod.fst, IsTemplateName name := by
      intro name isMember
      exact ((given.names name).mp isMember).1
    have isSet := isSetOf_of_ofSources given.once named succeeds
    refine ⟨isSet, ?_⟩
    intro name
    exact (isSet.names name).trans (given.names name)

/-- A directory with two templates, a directory that is named like one, and another file. -/
def drawer : Disk where
  nodes :=
    [(["templates".toList, "usecase.tmpl".toList],
        .file (.text "package \x7b\x7bentity_name\x7d\x7d\n".toList)),
      (["templates".toList], .directory),
      (["templates".toList, "nested.tmpl".toList], .directory),
      (["templates".toList, "README.md".toList], .file (.text "x".toList)),
      (["templates".toList, "entity.hbs".toList],
        .file (.text "#path = domain/\x7b\x7btable_name\x7d\x7d\npackage domain\n".toList))]
  working := []

/-- The texts of the templates in that directory. -/
def drawerSources : List (Text × Text) :=
  [("usecase.tmpl".toList, "package \x7b\x7bentity_name\x7d\x7d\n".toList),
    ("entity.hbs".toList,
      "#path = domain/\x7b\x7btable_name\x7d\x7d\npackage domain\n".toList)]

theorem leads_drawer :
    drawer.place? (Path.of "templates") = some ["templates".toList] := by
  decide +kernel

theorem mem_drawer_iff
    (name : Text) :
    (drawer.at? (["templates".toList] ++ [name])).isSome = true ↔
      name ∈ ["usecase.tmpl".toList, "nested.tmpl".toList, "README.md".toList,
        "entity.hbs".toList] := by
  rw [← Disk.mem_namesIn_iff leads_drawer]
  have listing :
      drawer.namesIn (Path.of "templates") =
        ["usecase.tmpl".toList, "nested.tmpl".toList, "README.md".toList,
          "entity.hbs".toList] := by
    decide +kernel
  rw [listing]

theorem areTemplatesIn_drawer :
    AreTemplatesIn drawerSources drawer (Path.of "templates") ["templates".toList] := by
  constructor
  case once => decide +kernel
  case names =>
    intro name
    have among :
        ∀ name ∈ ["usecase.tmpl".toList, "nested.tmpl".toList, "README.md".toList,
            "entity.hbs".toList],
          name ∈ drawerSources.map Prod.fst ↔
            IsTemplateName name ∧ drawer.hasFileAt (["templates".toList] ++ [name]) = true := by
      decide +kernel
    have inside :
        ∀ name ∈ drawerSources.map Prod.fst,
          name ∈ ["usecase.tmpl".toList, "nested.tmpl".toList, "README.md".toList,
            "entity.hbs".toList] := by
      decide +kernel
    constructor
    · intro isMember
      exact (among name (inside name isMember)).mp isMember
    · intro isTemplate
      rcases (Disk.hasFileAt_iff drawer _).mp isTemplate.2 with ⟨content, stands⟩
      apply (among name ((mem_drawer_iff name).mp ?_)).mpr isTemplate
      rw [stands]
      rfl
  case texts =>
    have reads :
        ∀ source ∈ drawerSources,
          drawer.read? ((Path.of "templates").child source.1) = some source.2 := by
      decide +kernel
    intro name source isSource
    exact reads (name, source) isSource

theorem isAccepted_drawer :
    ∀ source ∈ drawerSources, IsAccepted source := by
  intro source isSource
  rcases List.mem_pair.mp isSource with rfl | rfl
  · refine
      ⟨⟨"usecase.tmpl".toList, "package \x7b\x7bentity_name\x7d\x7d\n".toList, none, none⟩, ?_, ?_⟩
    · show Template.ofSource? _ _ = _
      decide +kernel
    · constructor
      case body => decide +kernel
      case directive =>
        intro directive source gives
        cases directive with
        | path => cases gives
        | fileName => cases gives
  · refine
      ⟨⟨"entity.hbs".toList, "package domain\n".toList,
        some "domain/\x7b\x7btable_name\x7d\x7d".toList, none⟩, ?_, ?_⟩
    · show Template.ofSource? _ _ = _
      decide +kernel
    · constructor
      case body => decide +kernel
      case directive =>
        intro directive source gives
        cases directive with
        | path =>
          cases gives
          decide +kernel
        | fileName => cases gives

theorem drawer_loads_in_order :
    ∃ set,
      load drawer (Path.of "templates") false = .ok set ∧
        load ⟨drawer.nodes.reverse, []⟩ (Path.of "templates") false = .ok set ∧
        ofSources false drawerSources = .ok set ∧
        set.templates.map (·.name) = ["entity.hbs".toList, "usecase.tmpl".toList] ∧
        ∀ template ∈ set.templates, set.HoldsStencils template := by
  have entries :
      ∀ name,
        (drawer.at? (["templates".toList] ++ [name])).isSome = true → Path.IsEntryName name := by
    intro name stands
    have fit :
        ∀ name ∈ ["usecase.tmpl".toList, "nested.tmpl".toList, "README.md".toList,
            "entity.hbs".toList],
          '/' ∉ name ∧ Path.isSilent name = false ∧ name ≠ ['.', '.'] := by
      decide +kernel
    rcases fit name ((mem_drawer_iff name).mp stands) with ⟨flat, telling, ahead⟩
    exact ⟨flat, telling, ahead⟩
  rcases
      load_agrees_with_ofSources leads_drawer (by decide +kernel)
        (by rw [Disk.HasEachPlaceOnce]; decide +kernel) entries (by decide +kernel)
        areTemplatesIn_drawer false with
    ⟨agrees, accepts, holds⟩
  rcases accepts.mpr isAccepted_drawer with ⟨set, succeeds⟩
  rcases (holds set succeeds).1 with ⟨-, sorted, names, -, stencils⟩
  refine ⟨set, ?_, ?_, succeeds, ?_, stencils⟩
  · exact (agrees drawer (List.Perm.refl _) rfl set).mpr succeeds
  · exact (agrees ⟨drawer.nodes.reverse, []⟩ (List.reverse_perm drawer.nodes) rfl set).mpr succeeds
  · have once : (set.templates.map (·.name)).Nodup := by
      apply sorted.imp
      rintro before _ inOrder rfl
      exact List.lt_irrefl before inOrder
    have order :
        (set.templates.map (·.name)).Perm ["entity.hbs".toList, "usecase.tmpl".toList] := by
      apply (List.perm_ext_iff_of_nodup once (by decide +kernel)).mpr
      intro name
      rw [names]
      exact List.Perm.mem_iff (List.Perm.swap _ _ [])
    apply eq_of_perm_of_sorted order ?_ (by decide +kernel)
    exact sorted.imp fun before => (precedes_iff _ _).mpr (List.lt_asymm before)

end Scaffold.TemplateSet
