import Scaffold.Proofs.DiskChanges

/-!
# What stays when files are written

Writing lets a disk grow (`Grown`): files and directories are added and files are rewritten, but
what was a directory stays one, and so does what was a file. Hence a path that leads somewhere leads
there for good. After a file was written, the file is in place (`InPlace`): its path leads to it
through directories that are there. Writing it once more makes no directory and puts the text at the
same place.
-/

namespace Scaffold.Disk

/-! ## Growth -/

/-- What was a directory on the first disk is one on the second, and so is what was a file. -/
structure Grown (disk later : Disk) : Prop where
  working : later.working = disk.working
  directories : ∀ place, disk.isDirectoryAt place = true → later.isDirectoryAt place = true
  files : ∀ place, disk.hasFileAt place = true → later.hasFileAt place = true

namespace Grown

theorem refl
    (disk : Disk) :
    Grown disk disk where
  working := rfl
  directories := fun _ directory => directory
  files := fun _ file => file

theorem trans
    {disk later last : Disk}
    (first : Grown disk later)
    (second : Grown later last) :
    Grown disk last where
  working := second.working.trans first.working
  directories := fun place directory =>
    second.directories place (first.directories place directory)
  files := fun place file => second.files place (first.files place file)

theorem ofFurnished
    {disk made : Disk}
    (furnished : Furnished disk made) :
    Grown disk made where
  working := furnished.working
  directories := fun _ directory => furnished.isDirectoryAt directory
  files := by
    intro place file
    rcases (hasFileAt_iff disk place).mp file with ⟨content, stands⟩
    exact (hasFileAt_iff made place).mpr ⟨content, furnished.at?_eq_some stands⟩

/-- A disk grows by a file where no directory stands. -/
theorem put
    {disk : Disk}
    {place : Place}
    (below : place ≠ [])
    (free : disk.isDirectoryAt place = false)
    (content : Content) :
    Grown disk (disk.put place (.file content)) where
  working := rfl
  directories := by
    intro other directory
    have apart : other ≠ place := by
      rintro rfl
      rw [free] at directory
      cases directory
    rw [isDirectoryAt, at?_put disk place other _ below, if_neg apart]
    exact directory
  files := by
    intro other file
    rw [hasFileAt_iff, at?_put disk place other _ below]
    split
    · exact ⟨content, rfl⟩
    · exact (hasFileAt_iff disk other).mp file

variable {disk later : Disk}

/-- Segments that lead somewhere lead there for good. -/
theorem follow?_eq_some
    (grown : Grown disk later)
    {place target : Place}
    {segments : List Text}
    (leads : follow? disk place segments = some target) :
    follow? later place segments = some target := by
  induction segments generalizing place with
  | nil => exact leads
  | cons segment segments hypothesis =>
    rcases (follow?_cons_eq_some_iff disk place target segment segments).mp leads with
      ⟨inside, next, steps, onward⟩
    exact (follow?_cons_eq_some_iff later place target segment segments).mpr
      ⟨grown.directories place inside, next, steps, hypothesis onward⟩

theorem startOf
    (grown : Grown disk later)
    (path : Path) :
    later.startOf path = disk.startOf path := by
  rw [Disk.startOf, Disk.startOf, grown.working]

/-- A path that leads somewhere leads there for good. -/
theorem place?_eq_some
    (grown : Grown disk later)
    {path : Path}
    {place : Place}
    (leads : disk.place? path = some place) :
    later.place? path = some place := by
  rw [place?] at leads ⊢
  split at leads
  next fits =>
    rw [if_pos fits, grown.startOf]
    exact grown.follow?_eq_some leads
  · cases leads

/-- A path that leads to something does so for good. -/
theorem pathExists
    (grown : Grown disk later)
    {path : Path}
    (found : disk.pathExists path = true) :
    later.pathExists path = true := by
  rw [Disk.pathExists, node?] at found
  rcases Option.isSome_iff_exists.mp found with ⟨node, stands⟩
  rcases Option.bind_eq_some_iff.mp stands with ⟨place, leads, stands⟩
  rw [Disk.pathExists, node?, grown.place?_eq_some leads, Option.bind_some]
  cases node with
  | directory =>
    have directory : later.isDirectoryAt place = true :=
      grown.directories place (decide_eq_true stands)
    rw [of_decide_eq_true directory]
    rfl
  | file content =>
    rcases (hasFileAt_iff later place).mp
        (grown.files place ((hasFileAt_iff disk place).mpr ⟨content, stands⟩)) with
      ⟨other, stands⟩
    rw [stands]
    rfl

end Grown

/-- A disk grows by a write, whatever is at the path. -/
theorem grown_overwrite
    (disk : Disk)
    (path : Path)
    (text : Text) :
    Grown disk (disk.overwrite path text).1 := by
  rcases overwrite_cases disk path text with
    ⟨made, ready, -, furnished, ⟨-, -, fails⟩ | ⟨place, -, spot, -, stores⟩⟩
  · rw [fails]
    exact .ofFurnished furnished
  · rw [stores]
    have free := ((spot?_eq_some_iff made path place).mp spot).2.2
    exact (Grown.ofFurnished furnished).trans (.put (spot?_ne_root spot) free _)

/-- A write that replaces what is there keeps nothing. -/
theorem overwrite_ne_kept
    {disk next : Disk}
    {path : Path}
    {text : Text}
    {result : WriteResult}
    (writes : disk.overwrite path text = (next, result)) :
    result ≠ .kept := by
  rintro rfl
  rcases overwrite_cases disk path text with
    ⟨made, ready, -, -, ⟨-, -, fails⟩ | ⟨place, -, -, -, stores⟩⟩
  · rw [fails] at writes
    cases writes
  · rw [stores] at writes
    cases writes

/-- A disk grows by a write under a policy, whatever becomes of the file. -/
theorem grown_of_write
    {disk next : Disk}
    {policy : OverwritePolicy}
    {path : Path}
    {text : Text}
    {result : WriteResult}
    (writes : disk.write policy path text = (next, result)) :
    Grown disk next := by
  have grown := grown_overwrite disk path text
  cases policy with
  | always =>
    rw [write] at writes
    rw [writes] at grown
    exact grown
  | ifMissing =>
    rw [write] at writes
    split at writes
    · cases writes
      exact .refl disk
    · rw [writes] at grown
      exact grown

/-! ## The place that a write changes -/

/-- The place where a write under a policy puts its text, if it does. -/
def written? (disk : Disk) (policy : OverwritePolicy) (path : Path) : Option Place :=
  match policy with
  | .always => disk.landing? path
  | .ifMissing => if disk.pathExists path then none else disk.landing? path

/-- A write changes an existing file where it puts its text, and no other. -/
theorem at?_write
    {disk : Disk}
    {place : Place}
    {content : Content}
    (stands : disk.at? place = some (.file content))
    (policy : OverwritePolicy)
    (path : Path)
    (text : Text) :
    (disk.write policy path text).1.at? place =
      some (.file (if disk.written? policy path = some place then .text text else content)) := by
  cases policy with
  | always => exact at?_overwrite stands path text
  | ifMissing =>
    rw [write, written?]
    split
    · exact stands
    · exact at?_overwrite stands path text

/-- The text of a path is that of the file which it leads to. -/
theorem read?_eq_some_iff
    (disk : Disk)
    (path : Path)
    (text : Text) :
    disk.read? path = some text ↔
      ∃ place, disk.place? path = some place ∧ disk.at? place = some (.file (.text text)) := by
  rw [read?, node?]
  cases disk.place? path with
  | none => simp
  | some place =>
    rw [Option.bind_some]
    rcases stands : disk.at? place with _ | ⟨_ | _⟩ | _
    · simp [stands]
    · simp [stands]
    · simp [stands]
    · simp [stands]

/-! ## Directories that are there -/

/-- The directory above a path is there. -/
def HasParent (disk : Disk) (path : Path) : Prop :=
  ∀ parent,
    path.parent? = some parent →
      parent.isEmpty = false →
        ∃ place, disk.place? parent = some place ∧ disk.isDirectoryAt place = true

theorem Grown.hasParent
    {disk later : Disk}
    (grown : Grown disk later)
    {path : Path}
    (there : disk.HasParent path) :
    later.HasParent path := by
  intro parent above given
  rcases there parent above given with ⟨place, leads, directory⟩
  exact ⟨place, grown.place?_eq_some leads, grown.directories place directory⟩

/-- Segments start in a directory when they lead to one. -/
theorem isDirectoryAt_of_follow?
    {disk : Disk}
    {place target : Place}
    {segments : List Text}
    (leads : follow? disk place segments = some target)
    (directory : disk.isDirectoryAt target = true) :
    disk.isDirectoryAt place = true := by
  cases segments with
  | nil =>
    cases leads
    exact directory
  | cons segment segments =>
    exact ((follow?_cons_eq_some_iff disk place target segment segments).mp leads).1

/-- Nothing is made on a way that leads to a directory. -/
theorem makeWay_of_follow?
    {disk : Disk}
    {place target : Place}
    {segments : List Text}
    (leads : follow? disk place segments = some target)
    (directory : disk.isDirectoryAt target = true) :
    disk.makeWay place segments = (disk, true) := by
  induction segments generalizing place with
  | nil =>
    cases leads
    rw [makeWay, directory]
  | cons segment segments hypothesis =>
    rcases (follow?_cons_eq_some_iff disk place target segment segments).mp leads with
      ⟨inside, next, steps, onward⟩
    have opened := isDirectoryAt_of_follow? onward directory
    rcases makeWay_cons disk place segment segments with
      ⟨outside | nowhere, -⟩ | ⟨-, other, leadsOn, ⟨-, goes⟩ | ⟨-, missing, -⟩⟩
    · rw [inside] at outside
      cases outside
    · rw [steps] at nowhere
      cases nowhere
    · rw [steps] at leadsOn
      cases leadsOn
      rw [goes]
      exact hypothesis onward
    · rw [steps] at leadsOn
      cases leadsOn
      rw [isDirectoryAt, missing] at opened
      cases opened

/-- A way that was made leads to a directory. -/
theorem follow?_of_makeWay
    {disk made : Disk}
    {place : Place}
    {segments : List Text}
    (makes : disk.makeWay place segments = (made, true)) :
    ∃ target, follow? made place segments = some target ∧ made.isDirectoryAt target = true := by
  induction segments generalizing disk place with
  | nil =>
    rw [makeWay, Prod.mk.injEq] at makes
    rcases makes with ⟨rfl, directory⟩
    exact ⟨place, rfl, directory⟩
  | cons segment segments hypothesis =>
    have furnished := furnished_makeWay disk place (segment :: segments)
    rw [makes] at furnished
    rcases makeWay_cons disk place segment segments with
      ⟨-, stops⟩ | ⟨inside, next, steps, goes⟩
    · rw [stops] at makes
      cases makes
    · have onward :
          ∃ target, follow? made next segments = some target ∧ made.isDirectoryAt target = true := by
        rcases goes with ⟨-, goes⟩ | ⟨-, -, goes⟩
        · exact hypothesis (goes.symm.trans makes)
        · exact hypothesis (goes.symm.trans makes)
      rcases onward with ⟨target, leads, directory⟩
      exact
        ⟨target,
          (follow?_cons_eq_some_iff made place target segment segments).mpr
            ⟨furnished.isDirectoryAt inside, next, steps, leads⟩,
          directory⟩

/-- The directory above a path is there when the segments of the path above it lead to one. -/
theorem hasParent_iff
    {disk : Disk}
    {path parent : Path}
    (above : path.parent? = some parent)
    (given : parent.isEmpty = false) :
    disk.HasParent path ↔
      pathFits parent = true ∧
        ∃ place,
          follow? disk (disk.startOf parent) (segmentsOf parent) = some place ∧
            disk.isDirectoryAt place = true := by
  constructor
  · intro there
    rcases there parent above given with ⟨place, leads, directory⟩
    rw [place?] at leads
    split at leads
    next fits => exact ⟨fits, place, leads, directory⟩
    · cases leads
  · rintro ⟨fits, place, leads, directory⟩ other aboveToo -
    cases above.symm.trans aboveToo
    refine ⟨place, ?_, directory⟩
    rw [place?, if_pos fits]
    exact leads

/-- The directory above a path is there after it was made. -/
theorem hasParent_of_withParent
    {disk made : Disk}
    {path : Path}
    (makes : disk.withParent path = (made, true)) :
    made.HasParent path := by
  have furnished := furnished_withParent disk path
  rw [makes] at furnished
  rcases withParent_cases disk path with
    ⟨bare, -⟩ | ⟨parent, above, given, ⟨-, same⟩ | ⟨fits, way⟩⟩
  · intro parent above given
    rw [bare parent above] at given
    cases given
  · rw [same] at makes
    cases makes
  · rw [hasParent_iff above given, furnished.startOf]
    exact ⟨fits, follow?_of_makeWay (way.symm.trans makes)⟩

/-- The directory above a path is not made when it is there. -/
theorem HasParent.withParent
    {disk : Disk}
    {path : Path}
    (there : disk.HasParent path) :
    disk.withParent path = (disk, true) := by
  rcases withParent_cases disk path with
    ⟨-, same⟩ | ⟨parent, above, given, ⟨unfit, -⟩ | ⟨-, way⟩⟩
  · exact same
  · have fits := ((hasParent_iff above given).mp there).1
    rw [unfit] at fits
    cases fits
  · rcases ((hasParent_iff above given).mp there).2 with ⟨place, leads, directory⟩
    exact way.trans (makeWay_of_follow? leads directory)

/-! ## Files in place -/

/-- A path names a file that is there, in a directory that is there. -/
structure InPlace (disk : Disk) (path : Path) (place : Place) : Prop where
  parent : disk.HasParent path
  leads : disk.place? path = some place
  named : endsInName path = true
  file : disk.hasFileAt place = true

namespace InPlace

variable {disk later : Disk} {path : Path} {place : Place}

theorem grown
    (inPlace : disk.InPlace path place)
    (grown : Grown disk later) :
    later.InPlace path place where
  parent := grown.hasParent inPlace.parent
  leads := grown.place?_eq_some inPlace.leads
  named := inPlace.named
  file := grown.files place inPlace.file

theorem isDirectoryAt_eq_false
    (inPlace : disk.InPlace path place) :
    disk.isDirectoryAt place = false := by
  rcases (hasFileAt_iff disk place).mp inPlace.file with ⟨content, stands⟩
  rw [isDirectoryAt, stands]
  rfl

theorem ne_root
    (inPlace : disk.InPlace path place) :
    place ≠ [] := by
  rintro rfl
  have free := inPlace.isDirectoryAt_eq_false
  cases free

theorem pathExists
    (inPlace : disk.InPlace path place) :
    disk.pathExists path = true := by
  rcases (hasFileAt_iff disk place).mp inPlace.file with ⟨content, stands⟩
  rw [Disk.pathExists, node?, inPlace.leads, Option.bind_some, stands]
  rfl

/-- Writing a file that is in place changes what it holds. -/
theorem overwrite
    (inPlace : disk.InPlace path place)
    (text : Text) :
    disk.overwrite path text = (disk.put place (.file (.text text)), .written) := by
  have spot : disk.spot? path = some place :=
    (spot?_eq_some_iff disk path place).mpr
      ⟨inPlace.leads, inPlace.named, inPlace.isDirectoryAt_eq_false⟩
  rw [Disk.overwrite, inPlace.parent.withParent]
  dsimp only
  rw [store?_eq_map_spot?, spot]
  rfl

end InPlace

/-- A file is in place after it was written, and holds the text. -/
theorem inPlace_of_overwrite
    {disk next : Disk}
    {path : Path}
    {text : Text}
    (writes : disk.overwrite path text = (next, .written)) :
    ∃ place,
      disk.landing? path = some place ∧
        next.InPlace path place ∧
        next.at? place = some (.file (.text text)) := by
  rcases overwrite_cases disk path text with
    ⟨made, ready, parent, -, ⟨-, -, fails⟩ | ⟨place, rfl, spot, lands, stores⟩⟩
  · rw [fails] at writes
    cases writes
  · rw [stores] at writes
    cases writes
    rcases (spot?_eq_some_iff made path place).mp spot with ⟨leads, named, free⟩
    have below := spot?_ne_root spot
    have grown : Grown made (made.put place (.file (.text text))) := .put below free _
    have stands :
        (made.put place (.file (.text text))).at? place = some (.file (.text text)) := by
      rw [at?_put made place place _ below, if_pos rfl]
    exact
      ⟨place, lands,
        { parent := grown.hasParent (hasParent_of_withParent parent)
          leads := grown.place?_eq_some leads
          named := named
          file := (hasFileAt_iff _ place).mpr ⟨.text text, stands⟩ },
        stands⟩

end Scaffold.Disk
