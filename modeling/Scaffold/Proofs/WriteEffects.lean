import Scaffold.Proofs.DiskGrowth
import Scaffold.Proofs.PathComponents
import Scaffold.Proofs.TextSplitting

/-!
# What one write can do

A write has one of three effects (`WriteEffect`). It keeps what is there and changes nothing; it
writes one file, which the path reads afterwards; or it fails and leaves every file as it was. The
directories that it makes, also when it fails halfway, are named by prefixes of the path
(`IsOnWay`), and nothing is ever removed. It fails only where the path cannot be written on the
disk that it leaves either (`Writable`), which in a tree has the directory above the path if adding
directories can put it there (`IsShut`).
-/

namespace Scaffold

/-! ## The path above a path -/

namespace Path

theorem trimmedBody_prefix
    (segments : List Text) :
    trimmedBody segments <+: segments := by
  rw [trimmedBody, ← List.reverse_suffix, List.reverse_reverse]
  exact List.dropWhile_suffix isSilent

/-- A path is written as its start and then its body. -/
theorem text_eq_head_append
    (path : Path) :
    path.text = path.head ++ Text.joined ['/'] path.bodySegments := by
  have start : path.head <+: path.text := by
    rw [head]
    split
    next rest starts => exact ⟨rest, starts.symm⟩
    next starts => exact ⟨[], starts.symm⟩
    next rest starts => exact ⟨'/' :: rest, starts.symm⟩
    · exact List.nil_prefix
  rw [bodySegments, Text.joined_pieces]
  exact (List.prefix_iff_eq_append.mp start).symm

/-- The start of a path that has a body is the root, or the path goes on from it behind a slash. -/
theorem head_cases
    {path : Path}
    (telling : path.head ≠ [])
    (given : trimmedBody path.bodySegments ≠ []) :
    path.head = ['/'] ∨ ∃ more, path.text = path.head ++ '/' :: more := by
  have start : path.head = ['/'] ∨ path.text = ['.'] ∨ ∃ more, path.text = '.' :: '/' :: more := by
    rw [head] at telling ⊢
    split at telling
    · exact Or.inl rfl
    next current => exact Or.inr (Or.inl current)
    next rest current => exact Or.inr (Or.inr ⟨rest, current⟩)
    · exact absurd rfl telling
  rcases start with root | current | ⟨more, current⟩
  · exact Or.inl root
  · rw [bodySegments, head, current] at given
    exact absurd rfl given
  · refine Or.inr ⟨more, ?_⟩
    rw [head, current]
    rfl

/-- The path above a path is the root, or the path goes on from it behind a slash. -/
theorem text_of_parent?
    {path parent : Path}
    (above : path.parent? = some parent)
    (given : parent.isEmpty = false) :
    parent = ⟨['/']⟩ ∨ ∃ more, path.text = parent.text ++ '/' :: more := by
  rw [parent?] at above
  split at above
  next last before reversed =>
    have telling : trimmedBody path.bodySegments ≠ [] := by
      rintro bare
      rw [bare] at reversed
      cases reversed
    have body : ∃ tail, tail ≠ [] ∧ path.bodySegments = trimmedBody before.reverse ++ tail := by
      rcases trimmedBody_prefix before.reverse with ⟨silent, trimmed⟩
      rcases trimmedBody_prefix path.bodySegments with ⟨others, order⟩
      rw [List.reverse_eq_iff, List.reverse_cons, ← trimmed] at reversed
      refine ⟨silent ++ [last] ++ others, by simp, ?_⟩
      rw [← order, reversed]
      simp only [List.append_assoc]
    rcases body with ⟨tail, more, body⟩
    cases above
    by_cases bare : trimmedBody before.reverse = []
    · rw [bare, Text.joined, List.append_nil] at given ⊢
      rcases head_cases (by simpa [isEmpty] using given) telling with root | behind
      · exact Or.inl (by rw [root])
      · exact Or.inr behind
    · right
      refine ⟨Text.joined ['/'] tail, ?_⟩
      rw [text_eq_head_append path, body, Text.joined_append bare more]
      simp only [List.append_assoc, List.singleton_append]
  · split at above
    · cases above
      cases given
    · cases above

theorem segmentsOf_parent?
    {path parent : Path}
    (above : path.parent? = some parent)
    (given : parent.isEmpty = false) :
    parent = ⟨['/']⟩ ∨ Disk.segmentsOf parent <+: Disk.segmentsOf path := by
  refine (text_of_parent? above given).imp_right ?_
  rintro ⟨more, order⟩
  rw [Disk.segmentsOf, Disk.segmentsOf, order, pieces_append_slash]
  exact List.prefix_append _ _

theorem isAbsolute_parent?
    {path parent : Path}
    (above : path.parent? = some parent)
    (given : parent.isEmpty = false)
    (below : parent ≠ ⟨['/']⟩) :
    path.isAbsolute = parent.isAbsolute := by
  rcases (text_of_parent? above given).resolve_left below with ⟨more, order⟩
  rw [isAbsolute, isAbsolute, order]
  rcases parent with ⟨_ | ⟨first, rest⟩⟩
  · cases given
  · rfl

end Path

namespace Disk

/-! ## Directories on the way -/

/-- A place is on the way of a path when a prefix of its segments leads there. -/
def IsOnWay (disk : Disk) (path : Path) (place : Place) : Prop :=
  ∃ start, start <+: segmentsOf path ∧ follow? disk (disk.startOf path) start = some place

/-- A directory that was made is where a prefix of the segments leads. -/
theorem prefix_of_makeWay
    {disk made : Disk}
    {ready : Bool}
    {place other : Place}
    {segments : List Text}
    (makes : disk.makeWay place segments = (made, ready))
    (missing : disk.at? other = none)
    (stands : made.at? other ≠ none) :
    ∃ start, start <+: segments ∧ follow? made place start = some other := by
  induction segments generalizing disk place with
  | nil =>
    cases makes
    exact absurd missing stands
  | cons segment segments hypothesis =>
    have furnished := furnished_makeWay disk place (segment :: segments)
    rw [makes] at furnished
    rcases makeWay_cons disk place segment segments with ⟨-, stops⟩ | ⟨inside, next, steps, goes⟩
    · rw [stops] at makes
      cases makes
      exact absurd missing stands
    · have onward
          (later : ∃ start, start <+: segments ∧ follow? made next start = some other) :
          ∃ start, start <+: segment :: segments ∧ follow? made place start = some other := by
        rcases later with ⟨start, isPrefix, leads⟩
        exact
          ⟨segment :: start, List.cons_prefix_cons.mpr ⟨rfl, isPrefix⟩,
            (follow?_cons_eq_some_iff made place other segment start).mpr
              ⟨furnished.isDirectoryAt inside, next, steps, leads⟩⟩
      rcases goes with ⟨-, goes⟩ | ⟨rfl, -, goes⟩
      · exact onward (hypothesis (goes.symm.trans makes) missing)
      · by_cases here : other = place ++ [segment]
        · subst here
          exact onward ⟨[], List.nil_prefix, rfl⟩
        · have still : (disk.put (place ++ [segment]) .directory).at? other = none := by
            rw [at?_put disk _ other _ (List.concat_ne_nil segment place), if_neg here]
            exact missing
          exact onward (hypothesis (goes.symm.trans makes) still)

/-- Every directory that was made for a path is on its way. -/
theorem isOnWay_of_withParent
    {disk made : Disk}
    {ready : Bool}
    {path : Path}
    {place : Place}
    (makes : disk.withParent path = (made, ready))
    (missing : disk.at? place = none)
    (stands : made.at? place ≠ none) :
    made.IsOnWay path place := by
  have furnished := furnished_withParent disk path
  rw [makes] at furnished
  -- A disk that did not change has nothing new on it.
  have unchanged {result : Bool} (same : disk.withParent path = (disk, result)) :
      made.IsOnWay path place := by
    rw [same] at makes
    cases makes
    exact absurd missing stands
  rcases withParent_cases disk path with
    ⟨-, same⟩ | ⟨parent, above, given, ⟨-, same⟩ | ⟨-, way⟩⟩
  · exact unchanged same
  · exact unchanged same
  · by_cases root : parent = ⟨['/']⟩
    · rw [root] at way
      exact unchanged way
    · rcases prefix_of_makeWay (way.symm.trans makes) missing stands with
        ⟨start, isPrefix, leads⟩
      have longer := (Path.segmentsOf_parent? above given).resolve_left root
      refine ⟨start, isPrefix.trans longer, ?_⟩
      rw [furnished.startOf, startOf, Path.isAbsolute_parent? above given root]
      exact leads

/-! ## Paths that can be written -/

/-- A path can be written at a place: the directory above it is there, and it ends in the name of a
file and leads to the place, where no directory stands. -/
structure Writable (disk : Disk) (path : Path) (place : Place) : Prop where
  parent : disk.HasParent path
  leads : disk.place? path = some place
  named : endsInName path = true
  free : disk.isDirectoryAt place = false

theorem not_writable_of_spot?
    {disk : Disk}
    {path : Path}
    (nowhere : disk.spot? path = none)
    (place : Place) :
    ¬ disk.Writable path place := by
  intro writable
  have spot :=
    (spot?_eq_some_iff disk path place).mpr ⟨writable.leads, writable.named, writable.free⟩
  rw [nowhere] at spot
  cases spot

/-- A way that leads to a directory after it was made has been made completely. -/
theorem makeWay_ready
    {disk made : Disk}
    {ready : Bool}
    {place target : Place}
    {segments : List Text}
    (makes : disk.makeWay place segments = (made, ready))
    (leads : follow? made place segments = some target)
    (directory : made.isDirectoryAt target = true) :
    ready = true := by
  induction segments generalizing disk place with
  | nil =>
    rw [makeWay, Prod.mk.injEq] at makes
    rcases makes with ⟨rfl, rfl⟩
    cases leads
    exact directory
  | cons segment segments hypothesis =>
    rcases (follow?_cons_eq_some_iff made place target segment segments).mp leads with
      ⟨inside, next, steps, onward⟩
    rcases makeWay_cons disk place segment segments with
      ⟨outside | nowhere, stops⟩ | ⟨-, other, leadsOn, goes⟩
    · rw [stops] at makes
      cases makes
      rw [inside] at outside
      cases outside
    · rw [steps] at nowhere
      cases nowhere
    · rw [steps] at leadsOn
      cases leadsOn
      rcases goes with ⟨-, goes⟩ | ⟨-, -, goes⟩
      · exact hypothesis (goes.symm.trans makes) onward
      · exact hypothesis (goes.symm.trans makes) onward

/-- If making the directory above a path failed, it is not there afterwards. -/
theorem not_hasParent_of_withParent
    {disk made : Disk}
    {path : Path}
    (makes : disk.withParent path = (made, false)) :
    ¬ made.HasParent path := by
  intro there
  have furnished := furnished_withParent disk path
  rw [makes] at furnished
  rcases withParent_cases disk path with
    ⟨-, same⟩ | ⟨parent, above, given, ⟨unfit, -⟩ | ⟨-, way⟩⟩
  · rw [same] at makes
    cases makes
  · have fits := ((hasParent_iff above given).mp there).1
    rw [unfit] at fits
    cases fits
  · rcases ((hasParent_iff above given).mp there).2 with ⟨place, leads, directory⟩
    rw [furnished.startOf] at leads
    cases makeWay_ready (way.symm.trans makes) leads directory

/-! ## Paths that are shut -/

/-- However directories are added to a disk, the one above a path is not there. -/
def IsShut (disk : Disk) (path : Path) : Prop :=
  ∀ later, Furnished disk later → ¬ later.HasParent path

/-- Where something stands, no directory is added. -/
theorem Furnished.isDirectoryAt_of_later
    {disk later : Disk}
    (furnished : Furnished disk later)
    {place : Place}
    (stands : disk.at? place ≠ none)
    (directory : later.isDirectoryAt place = true) :
    disk.isDirectoryAt place = true := by
  rcases furnished.nodes place with same | ⟨missing, -⟩
  · rwa [Disk.isDirectoryAt, same] at directory
  · exact absurd missing stands

/-- A directory may be put early where a directory is added. -/
theorem Furnished.of_put
    {disk later : Disk}
    (furnished : Furnished disk later)
    {place : Place}
    (missing : disk.at? place = none)
    (directory : later.isDirectoryAt place = true) :
    Furnished (disk.put place .directory) later where
  working := furnished.working
  nodes := by
    intro other
    have below : place ≠ [] := by
      rintro rfl
      cases missing
    rw [at?_put disk place other _ below]
    by_cases here : other = place
    · rw [if_pos here, here]
      exact Or.inl (of_decide_eq_true directory)
    · rw [if_neg here]
      exact furnished.nodes other

/-- Above something of a tree there is something. -/
theorem IsTree.at?_above
    {disk : Disk}
    (tree : disk.IsTree)
    {place : Place}
    (stands : disk.at? place ≠ none) :
    disk.at? (above place) ≠ none := by
  rcases List.eq_nil_or_concat place with rfl | ⟨parent, name, rfl⟩
  · exact stands
  · rcases Option.ne_none_iff_exists'.mp stands with ⟨node, stands⟩
    rw [List.concat_eq_append] at stands ⊢
    rw [above, List.dropLast_concat]
    exact at?_ne_none (tree parent name node stands)

/-- The way of segments can be made in a tree when adding directories can make them lead to one. -/
theorem IsTree.makeWay_of_furnished
    {disk later : Disk}
    (tree : disk.IsTree)
    (furnished : Furnished disk later)
    {place target : Place}
    {segments : List Text}
    (stands : disk.at? place ≠ none)
    (leads : follow? later place segments = some target)
    (directory : later.isDirectoryAt target = true) :
    (disk.makeWay place segments).2 = true := by
  induction segments generalizing disk place with
  | nil =>
    cases leads
    exact furnished.isDirectoryAt_of_later stands directory
  | cons segment segments hypothesis =>
    rcases (follow?_cons_eq_some_iff later place target segment segments).mp leads with
      ⟨opened, next, steps, onward⟩
    have inside := furnished.isDirectoryAt_of_later stands opened
    rcases makeWay_cons disk place segment segments with
      ⟨outside | nowhere, -⟩ | ⟨-, other, leadsOn, ⟨reached, goes⟩ | ⟨here, missing, goes⟩⟩
    · rw [inside] at outside
      cases outside
    · rw [steps] at nowhere
      cases nowhere
    · rw [steps] at leadsOn
      cases leadsOn
      rw [goes]
      have standsNext : disk.at? next ≠ none := by
        rcases reached with standsNext | rfl
        · exact standsNext
        · exact tree.at?_above stands
      exact hypothesis tree furnished standsNext onward
    · rw [steps] at leadsOn
      cases leadsOn
      subst here
      rw [goes]
      have free : disk.isDirectoryAt (place ++ [segment]) = false := by
        rw [isDirectoryAt, missing]
        rfl
      have standsNext :
          (disk.put (place ++ [segment]) .directory).at? (place ++ [segment]) ≠ none := by
        rw [at?_put disk _ _ _ (List.concat_ne_nil segment place), if_pos rfl]
        exact Option.some_ne_none Node.directory
      exact
        hypothesis (tree.put inside free .directory)
          (furnished.of_put missing (isDirectoryAt_of_follow? onward directory)) standsNext onward

/-- If making the directory above a path of a tree failed, the path is shut. -/
theorem IsTree.isShut_of_withParent
    {disk made : Disk}
    (tree : disk.IsTree)
    (home : disk.isDirectoryAt disk.working = true)
    {path : Path}
    (makes : disk.withParent path = (made, false)) :
    disk.IsShut path := by
  intro later furnished there
  rcases withParent_cases disk path with
    ⟨-, same⟩ | ⟨parent, above, given, ⟨unfit, -⟩ | ⟨-, way⟩⟩
  · rw [same] at makes
    cases makes
  · have fits := ((hasParent_iff above given).mp there).1
    rw [unfit] at fits
    cases fits
  · rcases ((hasParent_iff above given).mp there).2 with ⟨place, leads, directory⟩
    rw [furnished.startOf] at leads
    have stands : disk.at? (disk.startOf parent) ≠ none := by
      rw [startOf]
      split
      · exact Option.some_ne_none Node.directory
      · exact at?_ne_none home
    have ready := tree.makeWay_of_furnished furnished stands leads directory
    rw [← way, makes] at ready
    cases ready

/-! ## The three effects -/

/-- What stood at a place stands there still, or nothing did and there is a directory on the way of
a path now. -/
def KeepsOrMakes (disk final : Disk) (path : Path) (place : Place) : Prop :=
  final.at? place = disk.at? place ∨
    disk.at? place = none ∧ final.at? place = some .directory ∧ final.IsOnWay path place

/-- What a write under a policy leaves of a disk, and what it says about that. -/
inductive WriteEffect (disk : Disk) (policy : OverwritePolicy) (path : Path) (text : Text) :
    Disk → WriteResult → Prop where
  /-- Existing things are to be kept, and there is one. Nothing changes. -/
  | kept
      (asked : policy = .ifMissing)
      (found : disk.pathExists path = true) :
      WriteEffect disk policy path text disk .kept
  /-- The path reads the text, from a place where no directory stood. -/
  | written
      {final : Disk}
      {place : Place}
      (wanted : policy = .ifMissing → disk.pathExists path = false)
      (working : final.working = disk.working)
      (reads : final.read? path = some text)
      (inPlace : final.InPlace path place)
      (free : disk.isDirectoryAt place = false)
      (others : ∀ other, other ≠ place → disk.KeepsOrMakes final path other) :
      WriteEffect disk policy path text final .written
  /-- The path cannot be written, and no file is touched. On a tree, the directory above the path was
  made unless the path is shut. -/
  | failed
      {final : Disk}
      (wanted : policy = .ifMissing → disk.pathExists path = false)
      (working : final.working = disk.working)
      (blocked : ∀ place, ¬ final.Writable path place)
      (parent :
        disk.IsTree →
          disk.isDirectoryAt disk.working = true → final.HasParent path ∨ disk.IsShut path)
      (all : ∀ place, disk.KeepsOrMakes final path place) :
      WriteEffect disk policy path text final .failed

/-- Making the directory above a path keeps everything and makes directories on the way only. -/
theorem keepsOrMakes_of_withParent
    {disk made : Disk}
    {ready : Bool}
    {path : Path}
    (makes : disk.withParent path = (made, ready))
    (furnished : Furnished disk made)
    (place : Place) :
    disk.KeepsOrMakes made path place := by
  refine (furnished.nodes place).imp_right ?_
  rintro ⟨missing, directory⟩
  have stands : made.at? place ≠ none := at?_ne_none (decide_eq_true directory)
  exact ⟨missing, directory, isOnWay_of_withParent makes missing stands⟩

/-- What was on the way of a path is so for good. -/
theorem Grown.isOnWay
    {disk later : Disk}
    (grown : Grown disk later)
    {path : Path}
    {place : Place}
    (onWay : disk.IsOnWay path place) :
    later.IsOnWay path place := by
  rcases onWay with ⟨start, isPrefix, leads⟩
  refine ⟨start, isPrefix, ?_⟩
  rw [grown.startOf]
  exact grown.follow?_eq_some leads

/-- A file that is put somewhere leaves what was kept or made elsewhere. -/
theorem KeepsOrMakes.put
    {disk made : Disk}
    {path : Path}
    {place other : Place}
    (keepsOrMakes : disk.KeepsOrMakes made path other)
    (below : place ≠ [])
    (free : made.isDirectoryAt place = false)
    (apart : other ≠ place)
    (content : Content) :
    disk.KeepsOrMakes (made.put place (.file content)) path other := by
  have same : (made.put place (.file content)).at? other = made.at? other := by
    rw [at?_put made place other _ below, if_neg apart]
  rw [KeepsOrMakes, same]
  refine keepsOrMakes.imp_right ?_
  rintro ⟨missing, directory, onWay⟩
  exact ⟨missing, directory, (Grown.put below free content).isOnWay onWay⟩

theorem writeEffect_of_overwrite
    {disk : Disk}
    {policy : OverwritePolicy}
    {path : Path}
    (wanted : policy = .ifMissing → disk.pathExists path = false)
    (text : Text) :
    WriteEffect disk policy path text (disk.overwrite path text).1
      (disk.overwrite path text).2 := by
  rcases overwrite_cases disk path text with
    ⟨made, ready, parent, furnished, ⟨fails, -, result⟩ | ⟨place, -, spot, lands, result⟩⟩
  · rw [result]
    have blocked : ∀ place, ¬ made.Writable path place := by
      rcases fails with rfl | nowhere
      · exact fun place writable => not_hasParent_of_withParent parent writable.parent
      · exact not_writable_of_spot? nowhere
    have opened (tree : disk.IsTree) (home : disk.isDirectoryAt disk.working = true) :
        made.HasParent path ∨ disk.IsShut path := by
      cases ready with
      | false => exact Or.inr (tree.isShut_of_withParent home parent)
      | true => exact Or.inl (hasParent_of_withParent parent)
    exact
      .failed wanted furnished.working blocked opened
        (keepsOrMakes_of_withParent parent furnished)
  · rcases inPlace_of_overwrite result with ⟨target, landsThere, inPlace, stands⟩
    rw [lands] at landsThere
    cases landsThere
    have free := ((spot?_eq_some_iff made path place).mp spot).2.2
    have freeBefore : disk.isDirectoryAt place = false := by
      cases directory : disk.isDirectoryAt place with
      | false => rfl
      | true =>
        rw [furnished.isDirectoryAt directory] at free
        cases free
    rw [result]
    exact
      .written wanted furnished.working
        ((read?_eq_some_iff _ path text).mpr ⟨place, inPlace.leads, stands⟩) inPlace freeBefore
        fun other apart =>
          (keepsOrMakes_of_withParent parent furnished other).put (spot?_ne_root spot) free apart
            (.text text)

/--
A write under any policy, on any disk and to any path, has one of three effects. It keeps what the
path leads to and changes nothing. It writes one file, which the path reads as the text afterwards,
keeps everything else and makes directories only where prefixes of the path lead. Or it fails with
every file as it was and directories made there at most, and the path cannot be written on the disk
that is left, although in a tree the directory above it is there if it can be.
-/
theorem write_has_one_effect
    (disk : Disk)
    (policy : OverwritePolicy)
    (path : Path)
    (text : Text) :
    WriteEffect disk policy path text (disk.write policy path text).1
      (disk.write policy path text).2 := by
  cases policy with
  | always =>
    have wanted : OverwritePolicy.always = .ifMissing → disk.pathExists path = false := nofun
    exact writeEffect_of_overwrite wanted text
  | ifMissing =>
    rw [write]
    split
    next found => exact .kept rfl found
    next missing =>
      exact writeEffect_of_overwrite (fun _ => Bool.eq_false_iff.mpr missing) text

/-- A write that turns back from a new directory into a file leaves the directory behind. -/
example :
    (Disk.mk [([['f']], .file (.text []))] []).write .always (Path.of "new/../f/x") [] =
      (Disk.mk [([['f']], .file (.text [])), (["new".toList], .directory)] [], .failed) := by
  decide +kernel

end Disk

end Scaffold
