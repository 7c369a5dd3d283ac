import Scaffold.Location
import Scaffold.Proofs.DiskChanges
import Scaffold.Proofs.TextSearch

/-!
# Components of joined paths

The components of a path are where it starts and one step for each of its segments that says
something. A path that is joined to another keeps the components of the first and adds the steps of
the second, unless the second is absolute. So a path below a directory, made by adding relative
texts one after the other, extends the components of the directory (`components_below`), and on a
disk it leads where the added segments lead from there (`follow?_below`). Without a segment that
turns back it leads below the directory.
-/

namespace Scaffold.Path

open Disk (segmentsOf)

/-! ## Components and steps -/

/-- What the segments of a path stand for. -/
def steps (path : Path) : List Component :=
  (segmentsOf path).filterMap componentOf?

@[simp]
theorem componentOf?_empty :
    componentOf? [] = none :=
  rfl

@[simp]
theorem componentOf?_dot :
    componentOf? ['.'] = none :=
  rfl

theorem componentOf?_of_silent
    {segment : Text}
    (silent : isSilent segment = true) :
    componentOf? segment = none := by
  rw [componentOf?, if_pos silent]

theorem componentOf?_of_telling
    {segment : Text}
    (telling : isSilent segment = false)
    (ahead : segment ≠ ['.', '.']) :
    componentOf? segment = some (.name segment) := by
  rw [componentOf?, telling, if_neg ahead]
  rfl

theorem components_eq_append_steps
    (path : Path) :
    path.components = path.headComponents ++ path.steps := by
  rw [components, List.append_cancel_left_eq, steps, bodySegments, segmentsOf]
  rcases path with ⟨text⟩
  rw [head]
  dsimp only
  split
  · exact (List.filterMap_cons_none componentOf?_empty).symm
  · rfl
  · exact (List.filterMap_cons_none componentOf?_empty).trans
      (List.filterMap_cons_none componentOf?_dot).symm
  · rfl

theorem componentOf?_eq_some_parent_iff
    (segment : Text) :
    componentOf? segment = some .parent ↔ segment = ['.', '.'] := by
  rw [componentOf?]
  constructor
  · intro stands
    split at stands
    · cases stands
    · split at stands
      next back => exact back
      · cases stands
  · rintro rfl
    rfl

theorem exists_componentOf?_of_telling
    {segment : Text}
    (telling : isSilent segment = false) :
    ∃ component, componentOf? segment = some component := by
  by_cases back : segment = ['.', '.']
  · exact ⟨.parent, (componentOf?_eq_some_parent_iff segment).mpr back⟩
  · exact ⟨.name segment, componentOf?_of_telling telling back⟩

theorem parent_mem_filterMap_iff
    (segments : List Text) :
    .parent ∈ segments.filterMap componentOf? ↔ ['.', '.'] ∈ segments := by
  simp only [List.mem_filterMap, componentOf?_eq_some_parent_iff]
  constructor
  · rintro ⟨segment, isMember, rfl⟩
    exact isMember
  · intro isMember
    exact ⟨_, isMember, rfl⟩

/-- Segments stand for names and for turns back only. -/
theorem root_not_mem_filterMap
    (segments : List Text) :
    .root ∉ segments.filterMap componentOf? := by
  rw [List.mem_filterMap]
  rintro ⟨segment, -, stands⟩
  rw [componentOf?] at stands
  split at stands
  · cases stands
  · split at stands
    · cases stands
    · cases stands

/-! ## Joining -/

variable {base next : Path}

theorem pieces_append_slash
    (left right : Text) :
    Text.pieces (· == '/') (left ++ '/' :: right) =
      Text.pieces (· == '/') left ++ Text.pieces (· == '/') right :=
  Text.pieces_append_cons rfl left right

/-- The segments of a joined path are those of both paths, without the empty one behind a slash that
the first ends in. -/
theorem segmentsOf_join
    (telling : base.isEmpty = false)
    (relative : next.isAbsolute = false) :
    ∃ before,
      (segmentsOf base = before ∨ segmentsOf base = before ++ [[]]) ∧
        segmentsOf (base.join next) = before ++ segmentsOf next := by
  rw [isEmpty] at telling
  rw [join, relative, telling]
  by_cases ends : ['/'].isSuffixOf base.text = true
  · rcases List.isSuffixOf_iff_suffix.mp ends with ⟨start, order⟩
    refine ⟨Text.pieces (· == '/') start, Or.inr ?_, ?_⟩
    · rw [segmentsOf, ← order, pieces_append_slash]
      rfl
    · simp only [ends, Bool.false_eq_true, if_false, Bool.or_true, if_true, segmentsOf]
      rw [← order, List.append_assoc, List.singleton_append, pieces_append_slash]
  · refine ⟨segmentsOf base, Or.inl rfl, ?_⟩
    simp only [ends, Bool.false_eq_true, if_false, Bool.or_false, segmentsOf]
    exact pieces_append_slash base.text next.text

theorem join_of_isEmpty
    (silent : base.isEmpty = true)
    (relative : next.isAbsolute = false) :
    base.join next = next := by
  rw [isEmpty] at silent
  rw [join, relative, silent, List.isEmpty_iff.mp silent]
  rfl

theorem steps_of_isEmpty
    (silent : base.isEmpty = true) :
    base.steps = [] := by
  rw [isEmpty, List.isEmpty_iff] at silent
  rw [steps, segmentsOf, silent]
  rfl

theorem steps_join
    (relative : next.isAbsolute = false) :
    (base.join next).steps = base.steps ++ next.steps := by
  cases silent : base.isEmpty with
  | true => rw [join_of_isEmpty silent relative, steps_of_isEmpty silent, List.nil_append]
  | false =>
    rcases segmentsOf_join silent relative with ⟨before, same | same, joined⟩
    · rw [steps, joined, List.filterMap_append, ← same]
      rfl
    · rw [steps, joined, List.filterMap_append, steps, same, List.filterMap_append]
      simp [steps]

theorem head_eq_nil
    {first : Char}
    {rest : Text}
    (notRoot : first ≠ '/')
    (notCurrent : first = '.' → rest ≠ [] ∧ rest.head? ≠ some '/') :
    head ⟨first :: rest⟩ = [] := by
  rw [head]
  split
  next same => exact absurd (List.cons.inj same).1 notRoot
  next same =>
    rcases List.cons.inj same with ⟨dot, none⟩
    exact absurd none (notCurrent dot).1
  next same =>
    rcases List.cons.inj same with ⟨dot, slash⟩
    exact absurd (by rw [slash]; rfl) (notCurrent dot).2
  next => rfl

/-- The start of a path is decided by its first characters. -/
theorem head_append
    {text more : Text}
    (telling : text ≠ [])
    (parted : text = ['.'] → more.head? = some '/') :
    head ⟨text ++ more⟩ = head ⟨text⟩ := by
  rcases text with _ | ⟨first, rest⟩
  · exact absurd rfl telling
  by_cases root : first = '/'
  · subst root
    rfl
  by_cases current : first = '.'
  · subst current
    rcases rest with _ | ⟨second, rest⟩
    · rcases List.head?_eq_some_iff.mp (parted rfl) with ⟨behind, rfl⟩
      rfl
    · by_cases slash : second = '/'
      · subst slash
        rfl
      · rw [List.cons_append, head_eq_nil root (by simpa using slash),
          head_eq_nil root (by simpa using slash)]
  · rw [List.cons_append, head_eq_nil root (fun dot => absurd dot current),
      head_eq_nil root (fun dot => absurd dot current)]

/-- The text of a joined path goes on from the text of the first one. -/
theorem exists_text_join
    (telling : base.isEmpty = false)
    (relative : next.isAbsolute = false) :
    ∃ more,
      base.join next = ⟨base.text ++ more⟩ ∧ (base.text = ['.'] → more.head? = some '/') := by
  rw [isEmpty] at telling
  rw [join, relative, telling]
  by_cases ends : ['/'].isSuffixOf base.text = true
  · refine ⟨next.text, ?_, ?_⟩
    · simp only [ends, Bool.false_eq_true, if_false, Bool.or_true, if_true]
    · intro dot
      rw [dot] at ends
      cases ends
  · refine ⟨'/' :: next.text, ?_, fun _ => rfl⟩
    simp only [ends, Bool.false_eq_true, if_false, Bool.or_false]

theorem text_ne_nil
    (telling : base.isEmpty = false) :
    base.text ≠ [] := by
  simpa [isEmpty] using telling

theorem isEmpty_join
    (telling : base.isEmpty = false)
    (relative : next.isAbsolute = false) :
    (base.join next).isEmpty = false := by
  rcases exists_text_join telling relative with ⟨more, joined, -⟩
  simp [joined, isEmpty, text_ne_nil telling]

theorem isAbsolute_join
    (telling : base.isEmpty = false)
    (relative : next.isAbsolute = false) :
    (base.join next).isAbsolute = base.isAbsolute := by
  rcases exists_text_join telling relative with ⟨more, joined, -⟩
  rcases List.exists_cons_of_ne_nil (text_ne_nil telling) with ⟨first, rest, order⟩
  rw [joined, isAbsolute, isAbsolute, order]
  simp [List.isPrefixOf]

/-- A path that is not empty starts like every path that is joined to it. -/
theorem headComponents_join
    (telling : base.isEmpty = false)
    (relative : next.isAbsolute = false) :
    (base.join next).headComponents = base.headComponents := by
  rcases exists_text_join telling relative with ⟨more, joined, parted⟩
  rw [joined, headComponents, head_append (text_ne_nil telling) parted]
  rfl

/-- A relative path starts nowhere or in the current directory. -/
theorem eq_current_of_mem_headComponents
    {path : Path}
    (relative : path.isAbsolute = false)
    {component : Component}
    (isMember : component ∈ path.headComponents) :
    component = .current := by
  rw [headComponents] at isMember
  split at isMember
  next root =>
    rw [head] at root
    split at root
    next order =>
      rw [isAbsolute, order] at relative
      cases relative
    · cases root
    · cases root
    · cases root
  next => exact List.mem_singleton.mp isMember
  next => cases isMember

/-! ## Paths below a directory -/

/-- A text that is added to a path without replacing it. -/
def IsRelative (part : Text) : Prop :=
  (Path.mk part).isAbsolute = false

/-- The segments of texts, one text after the other. -/
def segmentsOfAll (parts : List Text) : List Text :=
  parts.flatMap fun part => segmentsOf ⟨part⟩

theorem segmentsOfAll_cons
    (part : Text)
    (parts : List Text) :
    segmentsOfAll (part :: parts) = segmentsOf ⟨part⟩ ++ segmentsOfAll parts :=
  List.flatMap_cons

open Location (below)

theorem below_cons
    (base : Path)
    (part : Text)
    (parts : List Text) :
    below base (part :: parts) = below (base.join ⟨part⟩) parts :=
  rfl

theorem below_append
    (base : Path)
    (before after : List Text) :
    below base (before ++ after) = below (below base before) after :=
  List.foldl_append

theorem steps_below
    (base : Path)
    {parts : List Text}
    (relative : ∀ part ∈ parts, IsRelative part) :
    (below base parts).steps =
      base.steps ++ (segmentsOfAll parts).filterMap componentOf? := by
  induction parts generalizing base with
  | nil => exact (List.append_nil _).symm
  | cons part parts hypothesis =>
    rw [List.forall_mem_cons] at relative
    rw [below_cons, hypothesis _ relative.2, steps_join relative.1, List.append_assoc,
      segmentsOfAll_cons, List.filterMap_append]
    rfl

theorem headComponents_below
    (telling : base.isEmpty = false)
    {parts : List Text}
    (relative : ∀ part ∈ parts, IsRelative part) :
    (below base parts).headComponents = base.headComponents := by
  induction parts generalizing base with
  | nil => rfl
  | cons part parts hypothesis =>
    rw [List.forall_mem_cons] at relative
    rw [below_cons, hypothesis (isEmpty_join telling relative.1) relative.2,
      headComponents_join telling relative.1]

theorem isAbsolute_below
    (telling : base.isEmpty = false)
    {parts : List Text}
    (relative : ∀ part ∈ parts, IsRelative part) :
    (below base parts).isAbsolute = base.isAbsolute := by
  induction parts generalizing base with
  | nil => rfl
  | cons part parts hypothesis =>
    rw [List.forall_mem_cons] at relative
    rw [below_cons, hypothesis (isEmpty_join telling relative.1) relative.2,
      isAbsolute_join telling relative.1]

/-- Relative texts do not lead from the empty path to an absolute one. -/
theorem isAbsolute_below_of_isEmpty
    (silent : base.isEmpty = true)
    {parts : List Text}
    (relative : ∀ part ∈ parts, IsRelative part) :
    (below base parts).isAbsolute = false := by
  induction parts generalizing base with
  | nil =>
    rw [isEmpty, List.isEmpty_iff] at silent
    rw [below, List.foldl_nil, isAbsolute, silent]
    rfl
  | cons part parts hypothesis =>
    rw [List.forall_mem_cons] at relative
    rw [below_cons, join_of_isEmpty silent relative.1]
    cases empty : (Path.mk part).isEmpty with
    | true => exact hypothesis empty relative.2
    | false =>
      rw [isAbsolute_below empty relative.2]
      exact relative.1

/-- The components of a path below a directory are those of the directory and the steps of what was
added. The current directory may come first, when the directory is the empty path. -/
theorem components_below
    (base : Path)
    {parts : List Text}
    (relative : ∀ part ∈ parts, IsRelative part) :
    ∃ start,
      (below base parts).components =
          base.components ++ (start ++ (segmentsOfAll parts).filterMap componentOf?) ∧
        ∀ component ∈ start, component = .current := by
  rw [components_eq_append_steps, steps_below base relative]
  cases silent : base.isEmpty with
  | false =>
    refine ⟨[], ?_, by simp⟩
    rw [headComponents_below silent relative, components_eq_append_steps]
    simp
  | true =>
    refine ⟨(below base parts).headComponents, ?_, ?_⟩
    · have none : base.components = [] := by
        rw [isEmpty, List.isEmpty_iff] at silent
        rcases base with ⟨text⟩
        subst silent
        rfl
      rw [none, steps_of_isEmpty silent]
      rfl
    · intro component isMember
      exact eq_current_of_mem_headComponents (isAbsolute_below_of_isEmpty silent relative) isMember

end Scaffold.Path

namespace Scaffold.Disk

open Location (below)
open Scaffold.Path (IsRelative segmentsOfAll)

/-- Segments that go on with others lead where the others lead from there. -/
theorem follow?_join
    (disk : Disk)
    (place : Place)
    {base next : Path}
    (telling : base.isEmpty = false)
    (relative : next.isAbsolute = false) :
    disk.follow? place (segmentsOf (base.join next)) =
      (disk.follow? place (segmentsOf base)).bind fun reached =>
        disk.follow? reached (segmentsOf next) := by
  rcases Path.segmentsOf_join telling relative with ⟨before, same | same, joined⟩
  · rw [joined, follow?_append, same]
  · rw [joined, same, follow?_append, follow?_append, Option.bind_assoc]
    -- the empty segment behind a slash asks for a directory, and so does every further segment
    apply Option.bind_congr
    intro reached _
    have opened :
        disk.follow? reached [[]] =
          if disk.isDirectoryAt reached then some reached else none := by
      rw [follow?_cons]
      rfl
    rcases List.exists_cons_of_ne_nil (Text.pieces_ne_nil (· == '/') next.text) with
      ⟨segment, segments, parted⟩
    rw [opened]
    split
    · rfl
    next outside => rw [segmentsOf, parted, follow?_cons, if_neg outside, Option.bind_none]

theorem follow?_below
    (disk : Disk)
    (place : Place)
    {base : Path}
    (telling : base.isEmpty = false)
    {parts : List Text}
    (relative : ∀ part ∈ parts, IsRelative part) :
    disk.follow? place (segmentsOf (below base parts)) =
      (disk.follow? place (segmentsOf base)).bind fun reached =>
        disk.follow? reached (segmentsOfAll parts) := by
  induction parts generalizing base with
  | nil =>
    change disk.follow? place (segmentsOf base) = _
    cases disk.follow? place (segmentsOf base) with
    | none => rfl
    | some reached => rfl
  | cons part parts hypothesis =>
    rw [List.forall_mem_cons] at relative
    rw [Path.below_cons, hypothesis (Path.isEmpty_join telling relative.1) relative.2,
      follow?_join disk place telling relative.1, Option.bind_assoc]
    apply Option.bind_congr
    intro reached _
    rw [← follow?_append, Path.segmentsOfAll_cons]

/-- Where a path below a directory leads to is found by going on from where the directory is. -/
theorem follow?_of_place?_below
    {disk : Disk}
    {base : Path}
    {parts : List Text}
    (relative : ∀ part ∈ parts, IsRelative part)
    {start place : Place}
    (leads : disk.place? base = some start)
    (onward : disk.place? (below base parts) = some place) :
    disk.follow? start (segmentsOfAll parts) = some place := by
  rw [place?] at leads onward
  split at leads
  next fits =>
    have telling : base.isEmpty = false := by
      simp only [pathFits, Bool.and_eq_true, Bool.not_eq_true'] at fits
      exact fits.1.1
    split at onward
    · rw [startOf, Path.isAbsolute_below telling relative, ← startOf,
        follow?_below disk _ telling relative, leads] at onward
      exact onward
    · cases onward
  · cases leads

/-- Segments without a turn back that end in a name lead to that name below where they start. -/
theorem below_of_follow?
    {disk : Disk}
    {start place : Place}
    {segments : List Text}
    {name : Text}
    (straight : ['.', '.'] ∉ segments)
    (last : segments.getLast? = some name)
    (telling : name.isEmpty = false)
    (elsewhere : name ≠ ['.'])
    (leads : disk.follow? start segments = some place) :
    ∃ inner, place = start ++ (inner ++ [name]) := by
  rcases List.getLast?_eq_some_iff.mp last with ⟨before, rfl⟩
  rw [List.mem_append, not_or] at straight
  rw [follow?_append, Option.bind_eq_some_iff] at leads
  rcases leads with ⟨reached, towards, onward⟩
  rcases prefix_of_follow? straight.1 towards with ⟨inner, rfl⟩
  rcases (follow?_cons_eq_some_iff disk _ place name []).mp onward with ⟨-, next, steps, ends⟩
  cases ends
  have ahead : name ≠ ['.', '.'] := by
    rintro rfl
    exact straight.2 (List.mem_singleton_self _)
  refine ⟨inner, ?_⟩
  rw [step?_of_name telling elsewhere ahead steps, List.append_assoc]

end Scaffold.Disk
