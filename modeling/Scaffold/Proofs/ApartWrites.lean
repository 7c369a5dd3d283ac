import Scaffold.Proofs.SameDisks
import Scaffold.Proofs.StraightPaths

/-!
# Writes to places apart

Two places are apart when neither of them is the other one or lies above it. A write by a path that
does not turn back only concerns what stands at its place and which files stand above that, so it
does not matter for another one whose place is apart: it leaves no file above that and nothing at
it. The other write has the result that it would have without the first, and both orders leave the
same disk (`write_comm`). The directories that both writes need are made by the one that comes
first.
-/

namespace Scaffold.Disk

variable {disk : Disk} {place : Place} {path : Path} {text : Text}

/-! ## Results of writes -/

theorem write_eq_kept_iff
    (disk : Disk)
    (policy : OverwritePolicy)
    (path : Path)
    (text : Text) :
    (disk.write policy path text).2 = .kept ↔
      policy = .ifMissing ∧ disk.pathExists path = true := by
  have replaces : (disk.overwrite path text).2 ≠ .kept := overwrite_ne_kept rfl
  cases policy with
  | always => simpa [write] using replaces
  | ifMissing =>
    rw [write]
    split
    next found => simp [found]
    next missing => simpa [missing] using replaces

theorem IsFileTree.write_eq_written_iff
    (fileTree : disk.IsFileTree)
    (straight : .parent ∉ path.components)
    (policy : OverwritePolicy)
    (text : Text) :
    (disk.write policy path text).2 = .written ↔
      (policy = .ifMissing → disk.pathExists path = false) ∧
        IsSound path ∧
        disk.IsOpen (disk.placeNamed path) := by
  rw [← fileTree.overwrite_eq_written_iff straight text]
  cases policy with
  | always => simp [Disk.write]
  | ifMissing =>
    rw [Disk.write]
    split
    next found => simp [found]
    next missing => simp [missing]

/-- What stands at each place after a text was written at one with a result. -/
def WriteResult.leave : WriteResult → Place → Text → (Place → Option Node) → Place → Option Node
  | .written => withText
  | _ => fun _ _ stands => stands

/-- A write to a straight path that does not fail leaves the text at its place, with directories
above it, or everything as it was. -/
theorem IsFileTree.at?_of_write
    {next : Disk}
    {policy : OverwritePolicy}
    {result : WriteResult}
    (fileTree : disk.IsFileTree)
    (straight : .parent ∉ path.components)
    (writes : disk.write policy path text = (next, result))
    (went : result ≠ .failed) :
    next.at? = result.leave (disk.placeNamed path) text disk.at? := by
  have overwritten (writes : disk.overwrite path text = (next, result)) :
      next.at? = result.leave (disk.placeNamed path) text disk.at? := by
    cases result with
    | written =>
      have written : (disk.overwrite path text).2 = .written := by rw [writes]
      rcases (fileTree.overwrite_eq_written_iff straight text).mp written with ⟨sound, opened⟩
      rcases fileTree.overwrite_of_isOpen straight sound opened text with ⟨final, same, stands⟩
      rw [writes] at same
      cases same
      exact stands
    | kept => exact absurd rfl (overwrite_ne_kept writes)
    | failed => exact absurd rfl went
  cases policy with
  | always => exact overwritten writes
  | ifMissing =>
    rw [Disk.write] at writes
    split at writes
    · cases writes
      rfl
    · exact overwritten writes

/-- A straight path leads to something of a tree when it does so on a disk that has the same at its
place. -/
theorem IsTree.pathExists_of_at?_eq
    {later : Disk}
    (tree : disk.IsTree)
    (straight : .parent ∉ path.components)
    (working : later.working = disk.working)
    (same : later.at? (disk.placeNamed path) = disk.at? (disk.placeNamed path))
    (found : later.pathExists path = true) :
    disk.pathExists path = true := by
  rw [pathExists, node?] at found
  rcases Option.isSome_iff_exists.mp found with ⟨node, stands⟩
  rcases Option.bind_eq_some_iff.mp stands with ⟨place, leads, stands⟩
  rcases place?_of_straight straight leads with ⟨named, fits, -⟩
  rw [placeNamed_of_working working] at named
  subst named
  rw [same] at stands
  rw [place?, if_pos fits, Disk.startOf, working, ← Disk.startOf] at leads
  have straightSegments := (Path.parent_not_mem_components_iff path).mp straight
  have towards := tree.follow?_of_at?_eq stands same straightSegments leads
  rw [pathExists, node?, place?, if_pos fits, towards, Option.bind_some, stands]
  rfl

section SameAtPlace

variable
  {later : Disk}
  (fileTree : disk.IsFileTree)
  (laterTree : later.IsFileTree)
  (straight : .parent ∉ path.components)
  (working : later.working = disk.working)
  (same : later.at? (disk.placeNamed path) = disk.at? (disk.placeNamed path))

include fileTree laterTree straight working same

theorem IsFileTree.pathExists_eq :
    later.pathExists path = disk.pathExists path := by
  rw [Bool.eq_iff_iff]
  constructor
  · exact fileTree.tree.pathExists_of_at?_eq straight working same
  · refine laterTree.tree.pathExists_of_at?_eq straight working.symm ?_
    rw [placeNamed_of_working working]
    exact same.symm

/-- Writes to a straight path have the same result on file trees that have the same at its place and
the same files above it. -/
theorem IsFileTree.result_eq
    (sameAbove :
      ∀ other, other <+: disk.placeNamed path → other ≠ disk.placeNamed path →
        later.hasFileAt other = disk.hasFileAt other)
    (policy : OverwritePolicy)
    (text : Text) :
    (later.write policy path text).2 = (disk.write policy path text).2 := by
  have exist := fileTree.pathExists_eq laterTree straight working same
  have opened : later.IsOpen (later.placeNamed path) ↔ disk.IsOpen (disk.placeNamed path) := by
    rw [placeNamed_of_working working]
    constructor
    · rintro ⟨above, here⟩
      refine ⟨fun other isAbove apart => ?_, by rwa [isDirectoryAt, same] at here⟩
      rw [← sameAbove other isAbove apart]
      exact above other isAbove apart
    · rintro ⟨above, here⟩
      refine ⟨fun other isAbove apart => ?_, by rwa [isDirectoryAt, same]⟩
      rw [sameAbove other isAbove apart]
      exact above other isAbove apart
  have kept :
      (later.write policy path text).2 = .kept ↔ (disk.write policy path text).2 = .kept := by
    rw [write_eq_kept_iff, write_eq_kept_iff, exist]
  have written :
      (later.write policy path text).2 = .written ↔ (disk.write policy path text).2 = .written := by
    rw [laterTree.write_eq_written_iff straight, fileTree.write_eq_written_iff straight, exist,
      opened]
  cases laterResult : (later.write policy path text).2 with
  | written => exact (written.mp laterResult).symm
  | kept => exact (kept.mp laterResult).symm
  | failed =>
    cases result : (disk.write policy path text).2 with
    | written => exact laterResult.symm.trans (written.mpr result)
    | kept => exact laterResult.symm.trans (kept.mpr result)
    | failed => rfl

end SameAtPlace

/-! ## Places apart -/

/-- Neither of two places is the other one or lies above it. -/
structure AreApart (place other : Place) : Prop where
  notAbove : ¬ place <+: other
  notBelow : ¬ other <+: place

theorem AreApart.symm
    {other : Place}
    (apart : AreApart place other) :
    AreApart other place :=
  ⟨apart.notBelow, apart.notAbove⟩

theorem AreApart.ne
    {other : Place}
    (apart : AreApart place other) :
    place ≠ other := by
  rintro rfl
  exact apart.notAbove List.prefix_rfl

/-- Texts that are put at places apart can be put in any order. -/
theorem AreApart.withText_comm
    {other : Place}
    (apart : AreApart place other)
    (text otherText : Text)
    (stands : Place → Option Node) :
    withText other otherText (withText place text stands) =
      withText place text (withText other otherText stands) := by
  funext target
  simp only [withText]
  by_cases here : target = place
  · subst here
    simp [apart.ne, apart.notAbove]
  · by_cases there : target = other
    · subst there
      simp [here, apart.notBelow]
    · simp only [here, there, if_false]
      split
      · split
        · rfl
        · rfl
      · rfl

theorem AreApart.leave_comm
    {other : Place}
    (apart : AreApart place other)
    (result otherResult : WriteResult)
    (text otherText : Text)
    (stands : Place → Option Node) :
    otherResult.leave other otherText (result.leave place text stands) =
      result.leave place text (otherResult.leave other otherText stands) := by
  cases result with
  | written =>
    cases otherResult with
    | written => exact apart.withText_comm text otherText stands
    | kept => rfl
    | failed => rfl
  | kept => rfl
  | failed => rfl

section Apart

variable
  {next : Disk}
  {policy : OverwritePolicy}
  {other : Path}
  {result : WriteResult}
  (fileTree : disk.IsFileTree)
  (straight : .parent ∉ path.components)
  (straightOther : .parent ∉ other.components)
  (apart : AreApart (disk.placeNamed path) (disk.placeNamed other))
  (writes : disk.write policy path text = (next, result))
  (went : result ≠ .failed)

include fileTree straight straightOther apart writes went

/-- A write has the result that it would have without another one before it whose place is apart. -/
theorem IsFileTree.result_of_apart
    (otherText : Text) :
    (next.write policy other otherText).2 = (disk.write policy other otherText).2 := by
  have stands := fileTree.at?_of_write straight writes went
  apply fileTree.result_eq (fileTree.write writes) straightOther (grown_of_write writes).working
  · rw [stands]
    cases result with
    | written =>
      rw [WriteResult.leave, withText, if_neg apart.ne.symm, if_neg apart.notBelow]
    | kept => rfl
    | failed => rfl
  · intro between isAbove _
    rw [hasFileAt, stands]
    cases result with
    | written =>
      have elsewhere : between ≠ disk.placeNamed path := by
        rintro rfl
        exact apart.notAbove isAbove
      rw [WriteResult.leave, withText, if_neg elsewhere]
      by_cases onWay : between <+: disk.placeNamed path
      · -- A directory stands there now, and no file stood there before.
        have written : (disk.write policy path text).2 = .written := by rw [writes]
        have opened := ((fileTree.write_eq_written_iff straight policy text).mp written).2.2
        rw [if_pos onWay]
        exact (opened.above between onWay elsewhere).symm
      · rw [if_neg onWay]
        rfl
    | kept => rfl
    | failed => rfl

/-- Two writes to straight paths whose places are apart have the same results in both orders, and
leave the same disk. -/
theorem IsFileTree.write_comm
    {final : Disk}
    {otherText : Text}
    {otherResult : WriteResult}
    (writesOther : next.write policy other otherText = (final, otherResult))
    (wentOther : otherResult ≠ .failed) :
    ∃ between last : Disk,
      disk.write policy other otherText = (between, otherResult) ∧
        between.write policy path text = (last, result) ∧
        last.Same final := by
  have grown := grown_of_write writes
  have grownFinal := grown_of_write writesOther
  have otherFirst := fileTree.result_of_apart straight straightOther apart writes went otherText
  rw [writesOther] at otherFirst
  rcases writesBetween : disk.write policy other otherText with ⟨between, _⟩
  rw [writesBetween] at otherFirst
  cases otherFirst
  have thisSecond :=
    fileTree.result_of_apart straightOther straight apart.symm writesBetween wentOther text
  rw [writes] at thisSecond
  rcases writesLast : between.write policy path text with ⟨last, _⟩
  rw [writesLast] at thisSecond
  cases thisSecond
  have grownBetween := grown_of_write writesBetween
  have grownLast := grown_of_write writesLast
  refine ⟨between, last, rfl, writesLast, ?_, ?_⟩
  · rw [grownLast.working, grownBetween.working, grownFinal.working, grown.working]
  · intro target
    have standsFinal := (fileTree.write writes).at?_of_write straightOther writesOther wentOther
    have standsLast := (fileTree.write writesBetween).at?_of_write straight writesLast went
    rw [placeNamed_of_working grown.working, fileTree.at?_of_write straight writes went]
      at standsFinal
    rw [placeNamed_of_working grownBetween.working,
      fileTree.at?_of_write straightOther writesBetween wentOther] at standsLast
    rw [standsFinal, standsLast, apart.leave_comm result otherResult]

end Apart

end Scaffold.Disk
