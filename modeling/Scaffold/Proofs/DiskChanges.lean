import Scaffold.Disk.Write

/-!
# What writing changes

Making the directories on the way to a file adds directories where nothing stood and touches nothing
else (`Furnished`), and writing the file then changes the node at one place. Under the policy that
keeps existing files, the test for a file is made before the directories are. A path that walks
through a missing directory and back out of it by `..` leads to nothing then, and to an existing
file afterwards; `overlooked?` is the place of that file. On a disk whose nodes all lie in
directories a path that turns back only out of directories that are there (`TurnsBackInside`) does
not do this.
-/

namespace Scaffold.Disk

/-! ## Following a path step by step -/

/-- The place that one segment leads to from a directory. -/
def step? (place : Place) (segment : Text) : Option Place :=
  if segment.isEmpty || segment = ['.'] then
    some place
  else if segment = ['.', '.'] then
    some (above place)
  else if nameFits segment then
    some (place ++ [segment])
  else
    none

theorem follow?_cons
    (disk : Disk)
    (place : Place)
    (segment : Text)
    (segments : List Text) :
    follow? disk place (segment :: segments) =
      if disk.isDirectoryAt place then
        (step? place segment).bind fun next => follow? disk next segments
      else
        none := by
  rw [follow?, step?]
  cases disk.isDirectoryAt place with
  | false => rfl
  | true =>
    simp only [Bool.not_true, Bool.false_eq_true, if_false, if_true]
    split
    · rfl
    · split
      · rfl
      · split
        · rfl
        · rfl

theorem follow?_cons_eq_some_iff
    (disk : Disk)
    (place target : Place)
    (segment : Text)
    (segments : List Text) :
    follow? disk place (segment :: segments) = some target ↔
      disk.isDirectoryAt place = true ∧
        ∃ next, step? place segment = some next ∧ follow? disk next segments = some target := by
  rw [follow?_cons]
  split
  next inside => rw [Option.bind_eq_some_iff, and_iff_right inside]
  next outside => simp [outside]

/-- A segment that does not turn back leads below the place it starts from. -/
theorem prefix_of_step?
    {place next : Place}
    {segment : Text}
    (ahead : segment ≠ ['.', '.'])
    (steps : step? place segment = some next) :
    place <+: next := by
  rw [step?] at steps
  split at steps
  · cases steps
    exact List.prefix_rfl
  · split at steps
    · cases steps
      exact List.prefix_append place [segment]
    · cases steps

/-- A segment that is a name leads to that name in the directory. -/
theorem step?_of_name
    {place next : Place}
    {segment : Text}
    (telling : segment.isEmpty = false)
    (elsewhere : segment ≠ ['.'])
    (ahead : segment ≠ ['.', '.'])
    (steps : step? place segment = some next) :
    next = place ++ [segment] := by
  rw [step?, if_neg (by simp [telling, elsewhere]), if_neg ahead] at steps
  split at steps
  · cases steps
    rfl
  · cases steps

theorem follow?_append
    (disk : Disk)
    (place : Place)
    (before after : List Text) :
    follow? disk place (before ++ after) =
      (follow? disk place before).bind fun reached => follow? disk reached after := by
  induction before generalizing place with
  | nil => rfl
  | cons segment before hypothesis =>
    rw [List.cons_append, follow?_cons, follow?_cons]
    split
    · simp only [hypothesis, Option.bind_assoc]
    · rfl

/-- Without a segment that turns back, segments lead below the place they start from. -/
theorem prefix_of_follow?
    {disk : Disk}
    {place target : Place}
    {segments : List Text}
    (straight : ['.', '.'] ∉ segments)
    (leads : follow? disk place segments = some target) :
    place <+: target := by
  induction segments generalizing place with
  | nil =>
    cases leads
    exact List.prefix_rfl
  | cons segment segments hypothesis =>
    rw [List.mem_cons, not_or] at straight
    rcases (follow?_cons_eq_some_iff disk place target segment segments).mp leads with
      ⟨-, next, steps, later⟩
    exact (prefix_of_step? (Ne.symm straight.1) steps).trans (hypothesis straight.2 later)

/-- Segments that end in a name lead into a directory. -/
theorem follow?_of_getLast?
    {disk : Disk}
    {place target : Place}
    {segments : List Text}
    {name : Text}
    (leads : follow? disk place segments = some target)
    (last : segments.getLast? = some name)
    (telling : name.isEmpty = false)
    (elsewhere : name ≠ ['.'])
    (ahead : name ≠ ['.', '.']) :
    ∃ parent, target = parent ++ [name] ∧ disk.isDirectoryAt parent = true := by
  induction segments generalizing place with
  | nil => cases last
  | cons segment segments hypothesis =>
    rcases (follow?_cons_eq_some_iff disk place target segment segments).mp leads with
      ⟨inside, next, steps, later⟩
    cases segments with
    | nil =>
      cases later
      have same : segment = name := Option.some.inj last
      subst same
      exact ⟨place, step?_of_name telling elsewhere ahead steps, inside⟩
    | cons second rest =>
      rw [List.getLast?_cons_cons] at last
      exact hypothesis later last

/-! ## More directories -/

/-- The second disk is the first one with directories added where nothing stood. -/
structure Furnished (disk made : Disk) : Prop where
  working : made.working = disk.working
  nodes :
    ∀ place,
      made.at? place = disk.at? place ∨
        disk.at? place = none ∧ made.at? place = some .directory

namespace Furnished

theorem refl
    (disk : Disk) :
    Furnished disk disk where
  working := rfl
  nodes := fun _ => Or.inl rfl

theorem trans
    {disk made final : Disk}
    (first : Furnished disk made)
    (second : Furnished made final) :
    Furnished disk final := by
  constructor
  · exact second.working.trans first.working
  · intro place
    rcases second.nodes place with same | ⟨missing, directory⟩
    · rw [same]
      exact first.nodes place
    · rcases first.nodes place with before | ⟨-, made⟩
      · exact Or.inr ⟨before.symm.trans missing, directory⟩
      · rw [made] at missing
        cases missing

theorem put
    {disk : Disk}
    {place : Place}
    (missing : disk.at? place = none) :
    Furnished disk (disk.put place .directory) := by
  constructor
  · exact working_put disk place .directory
  · intro other
    have below : place ≠ [] := by
      rintro rfl
      cases missing
    rw [at?_put disk place other .directory below]
    by_cases same : other = place
    · subst same
      exact Or.inr ⟨missing, if_pos rfl⟩
    · exact Or.inl (if_neg same)

variable {disk made : Disk}

/-- What stands somewhere stays. -/
theorem at?_eq_some
    (furnished : Furnished disk made)
    {place : Place}
    {node : Node}
    (stands : disk.at? place = some node) :
    made.at? place = some node := by
  rcases furnished.nodes place with same | ⟨missing, -⟩
  · exact same.trans stands
  · rw [missing] at stands
    cases stands

theorem isDirectoryAt
    (furnished : Furnished disk made)
    {place : Place}
    (directory : disk.isDirectoryAt place = true) :
    made.isDirectoryAt place = true :=
  decide_eq_true (furnished.at?_eq_some (of_decide_eq_true directory))

theorem startOf
    (furnished : Furnished disk made)
    (path : Path) :
    made.startOf path = disk.startOf path := by
  rw [Disk.startOf, Disk.startOf, furnished.working]

end Furnished

/-- Where segments lead does not change when directories are added. -/
theorem Furnished.follow?_eq_some
    {disk made : Disk}
    (furnished : Furnished disk made)
    {place target : Place}
    {segments : List Text}
    (leads : follow? disk place segments = some target) :
    follow? made place segments = some target := by
  induction segments generalizing place with
  | nil => exact leads
  | cons segment segments hypothesis =>
    rcases (follow?_cons_eq_some_iff disk place target segment segments).mp leads with
      ⟨inside, next, steps, later⟩
    exact (follow?_cons_eq_some_iff made place target segment segments).mpr
      ⟨furnished.isDirectoryAt inside, next, steps, hypothesis later⟩

/-- Something stands where a directory is. -/
theorem at?_ne_none
    {disk : Disk}
    {place : Place}
    (directory : disk.isDirectoryAt place = true) :
    disk.at? place ≠ none := by
  rw [of_decide_eq_true directory]
  exact Option.some_ne_none Node.directory

/-- Making the way of one more segment stops where the segment leads nowhere, and goes on from where
it leads otherwise. If it is a name and nothing stands there, a directory is put there first. -/
theorem makeWay_cons
    (disk : Disk)
    (place : Place)
    (segment : Text)
    (segments : List Text) :
    (disk.isDirectoryAt place = false ∨ step? place segment = none) ∧
        disk.makeWay place (segment :: segments) = (disk, false) ∨
      disk.isDirectoryAt place = true ∧
        ∃ next,
          step? place segment = some next ∧
            ((disk.at? next ≠ none ∨ next = above place) ∧
                disk.makeWay place (segment :: segments) = disk.makeWay next segments ∨
              next = place ++ [segment] ∧
                disk.at? next = none ∧
                disk.makeWay place (segment :: segments) =
                  (disk.put next .directory).makeWay next segments) := by
  rw [makeWay, step?]
  cases inside : disk.isDirectoryAt place with
  | false => exact Or.inl ⟨Or.inl rfl, rfl⟩
  | true =>
    simp only [Bool.not_true, Bool.false_eq_true, if_false]
    split
    · exact Or.inr ⟨trivial, place, rfl, Or.inl ⟨Or.inl (at?_ne_none inside), rfl⟩⟩
    · split
      · exact Or.inr ⟨trivial, above place, rfl, Or.inl ⟨Or.inr rfl, rfl⟩⟩
      · cases fits : nameFits segment with
        | false => exact Or.inl ⟨Or.inr rfl, rfl⟩
        | true =>
          refine Or.inr ⟨trivial, place ++ [segment], rfl, ?_⟩
          cases stands : disk.at? (place ++ [segment]) with
          | none => exact Or.inr ⟨rfl, rfl, rfl⟩
          | some node => exact Or.inl ⟨Or.inl (Option.some_ne_none node), rfl⟩

/-- Making the directories that segments name adds directories only. -/
theorem furnished_makeWay
    (disk : Disk)
    (place : Place)
    (segments : List Text) :
    Furnished disk (disk.makeWay place segments).1 := by
  induction segments generalizing disk place with
  | nil => exact .refl disk
  | cons segment segments hypothesis =>
    rcases makeWay_cons disk place segment segments with
      ⟨-, stops⟩ | ⟨-, next, -, ⟨-, onward⟩ | ⟨-, missing, onward⟩⟩
    · rw [stops]
      exact .refl disk
    · rw [onward]
      exact hypothesis disk next
    · rw [onward]
      exact (Furnished.put missing).trans (hypothesis _ next)

/-- Above a path there is nothing to make, or a path that names no place at all, or the way of its
segments is made. -/
theorem withParent_cases
    (disk : Disk)
    (path : Path) :
    (∀ parent, path.parent? = some parent → parent.isEmpty = true) ∧
        disk.withParent path = (disk, true) ∨
      ∃ parent,
        path.parent? = some parent ∧
          parent.isEmpty = false ∧
          (pathFits parent = false ∧ disk.withParent path = (disk, false) ∨
            pathFits parent = true ∧
              disk.withParent path = disk.makeWay (disk.startOf parent) (segmentsOf parent)) := by
  rw [withParent]
  cases above : path.parent? with
  | none => exact Or.inl ⟨nofun, rfl⟩
  | some parent =>
    dsimp only
    rw [makeDirectories]
    cases given : parent.isEmpty with
    | true =>
      refine Or.inl ⟨?_, rfl⟩
      rintro other ⟨⟩
      exact given
    | false =>
      refine Or.inr ⟨parent, rfl, given, ?_⟩
      cases fits : pathFits parent with
      | false => exact Or.inl ⟨rfl, rfl⟩
      | true => exact Or.inr ⟨rfl, rfl⟩

theorem furnished_withParent
    (disk : Disk)
    (path : Path) :
    Furnished disk (disk.withParent path).1 := by
  rcases withParent_cases disk path with
    ⟨-, same⟩ | ⟨parent, -, -, ⟨-, same⟩ | ⟨-, way⟩⟩
  · rw [same]
    exact .refl disk
  · rw [same]
    exact .refl disk
  · rw [way]
    exact furnished_makeWay disk _ _

/-! ## Writing under the policy that keeps files -/

/-- Whether a file stands at a place. -/
def hasFileAt (disk : Disk) (place : Place) : Bool :=
  match disk.at? place with
  | some (.file _) => true
  | _ => false

theorem hasFileAt_iff
    (disk : Disk)
    (place : Place) :
    disk.hasFileAt place = true ↔ ∃ content, disk.at? place = some (.file content) := by
  rw [hasFileAt]
  rcases disk.at? place with _ | (content | _)
  · simp
  · simp
  · simp

/-- The place where a path names a file that can be written. -/
def spot? (disk : Disk) (path : Path) : Option Place :=
  (place? disk path).filter fun place => endsInName path && !disk.isDirectoryAt place

theorem store?_eq_map_spot?
    (disk : Disk)
    (path : Path)
    (content : Content) :
    store? disk path content = (disk.spot? path).map (disk.put · (.file content)) := by
  rw [store?, spot?]
  cases place? disk path with
  | none => rfl
  | some place =>
    dsimp only
    rw [Option.filter_some]
    split
    · rfl
    · rfl

theorem spot?_eq_some_iff
    (disk : Disk)
    (path : Path)
    (place : Place) :
    disk.spot? path = some place ↔
      place? disk path = some place ∧
        endsInName path = true ∧
        disk.isDirectoryAt place = false := by
  rw [spot?, Option.filter_eq_some_iff]
  simp

/-- A place where a file can be written is not the root. -/
theorem spot?_ne_root
    {disk : Disk}
    {path : Path}
    {place : Place}
    (spot : disk.spot? path = some place) :
    place ≠ [] := by
  rintro rfl
  have free := ((spot?_eq_some_iff disk path []).mp spot).2.2
  cases free

/-- The place where a text is written, after the directories on the way were made. -/
def landing? (disk : Disk) (path : Path) : Option Place :=
  match withParent disk path with
  | (made, true) => made.spot? path
  | (_, false) => none

/-- A write makes the directory above its path first. It fails when that is not there then, or the
path names no file that can be written, and puts the text at its landing place otherwise. -/
theorem overwrite_cases
    (disk : Disk)
    (path : Path)
    (text : Text) :
    ∃ made ready,
      disk.withParent path = (made, ready) ∧
        Furnished disk made ∧
        ((ready = false ∨ made.spot? path = none) ∧
            disk.landing? path = none ∧
            disk.overwrite path text = (made, .failed) ∨
          ∃ place,
            ready = true ∧
              made.spot? path = some place ∧
              disk.landing? path = some place ∧
              disk.overwrite path text = (made.put place (.file (.text text)), .written)) := by
  have furnished := furnished_withParent disk path
  rw [landing?, overwrite]
  rcases parent : disk.withParent path with ⟨made, ready⟩
  rw [parent] at furnished
  refine ⟨made, ready, rfl, furnished, ?_⟩
  cases ready with
  | false => exact Or.inl ⟨Or.inl rfl, rfl, rfl⟩
  | true =>
    dsimp only
    rw [store?_eq_map_spot?]
    cases made.spot? path with
    | none => exact Or.inl ⟨Or.inr rfl, rfl, rfl⟩
    | some place => exact Or.inr ⟨place, rfl, rfl, rfl, rfl⟩

/-- The place of an existing file that is written over although its path led to nothing before the
directories on the way were made. -/
def overlooked? (disk : Disk) (path : Path) : Option Place :=
  if pathExists disk path then none else (disk.landing? path).filter disk.hasFileAt

/-- A write changes an existing file where it lands, and no other. -/
theorem at?_overwrite
    {disk : Disk}
    {place : Place}
    {content : Content}
    (stands : disk.at? place = some (.file content))
    (path : Path)
    (text : Text) :
    (disk.overwrite path text).1.at? place =
      some (.file (if disk.landing? path = some place then .text text else content)) := by
  rcases overwrite_cases disk path text with
    ⟨made, ready, -, furnished, ⟨-, lands, fails⟩ | ⟨target, -, spot, lands, stores⟩⟩
  · rw [fails, lands, if_neg nofun]
    exact furnished.at?_eq_some stands
  · rw [stores, lands, at?_put made target place _ (spot?_ne_root spot)]
    by_cases here : place = target
    · rw [if_pos here, if_pos (congrArg some here.symm)]
    · rw [if_neg here, if_neg fun same => here (Option.some.inj same).symm]
      exact furnished.at?_eq_some stands

/-- A write that keeps files changes the overlooked one, if there is one, and no other. -/
theorem at?_write_ifMissing
    {disk : Disk}
    {place : Place}
    {content : Content}
    (stands : disk.at? place = some (.file content))
    (path : Path)
    (text : Text) :
    (disk.write .ifMissing path text).1.at? place =
      some (.file (if disk.overlooked? path = some place then .text text else content)) := by
  have file : disk.hasFileAt place = true :=
    (hasFileAt_iff disk place).mpr ⟨content, stands⟩
  rw [write]
  by_cases found : pathExists disk path = true
  · have kept : disk.overlooked? path ≠ some place := by
      rw [overlooked?, if_pos found]
      exact Option.some_ne_none place |>.symm
    rw [if_pos found, if_neg kept]
    exact stands
  · have overlooks : disk.overlooked? path = some place ↔ disk.landing? path = some place := by
      rw [overlooked?, if_neg found, Option.filter_eq_some_iff, and_iff_left file]
    rw [if_neg found, at?_overwrite stands path text]
    simp only [overlooks]

/-! ## Trees -/

/-- Every node lies in a directory. -/
def IsTree (disk : Disk) : Prop :=
  ∀ place name node, disk.at? (place ++ [name]) = some node → disk.isDirectoryAt place = true

/-- A tree stays one when something is put into a directory of it, unless a directory was there. -/
theorem IsTree.put
    {disk : Disk}
    (tree : disk.IsTree)
    {place : Place}
    {name : Text}
    (inside : disk.isDirectoryAt place = true)
    (free : disk.isDirectoryAt (place ++ [name]) = false)
    (node : Node) :
    (disk.put (place ++ [name]) node).IsTree := by
  intro other otherName old stands
  have below : place ++ [name] ≠ [] := List.concat_ne_nil name place
  rw [at?_put disk (place ++ [name]) (other ++ [otherName]) node below] at stands
  have directory : disk.isDirectoryAt other = true := by
    by_cases same : other ++ [otherName] = place ++ [name]
    · rw [(List.append_inj' same rfl).1]
      exact inside
    · rw [if_neg same] at stands
      exact tree other otherName old stands
  have apart : other ≠ place ++ [name] := by
    rintro rfl
    rw [free] at directory
    cases directory
  rw [isDirectoryAt, at?_put disk (place ++ [name]) other node below, if_neg apart]
  exact directory

/-- What lies below a place of a tree lies in a directory. -/
theorem IsTree.isDirectoryAt_of_append
    {disk : Disk}
    (tree : disk.IsTree)
    {place : Place}
    {names : List Text}
    {node : Node}
    (below : names ≠ [])
    (stands : disk.at? (place ++ names) = some node) :
    disk.isDirectoryAt place = true := by
  induction names generalizing place with
  | nil => exact absurd rfl below
  | cons name names hypothesis =>
    cases names with
    | nil => exact tree place name node stands
    | cons next rest =>
      have split : place ++ name :: next :: rest = (place ++ [name]) ++ next :: rest := by
        simp
      rw [split] at stands
      have child : disk.isDirectoryAt (place ++ [name]) = true :=
        hypothesis (List.cons_ne_nil next rest) stands
      exact tree place name .directory (of_decide_eq_true child)

/-- Making directories keeps a tree. -/
theorem IsTree.makeWay
    {disk : Disk}
    (tree : disk.IsTree)
    (place : Place)
    (segments : List Text) :
    (disk.makeWay place segments).1.IsTree := by
  induction segments generalizing disk place with
  | nil => exact tree
  | cons segment segments hypothesis =>
    rcases makeWay_cons disk place segment segments with
      ⟨-, stops⟩ | ⟨inside, next, -, ⟨-, onward⟩ | ⟨rfl, missing, onward⟩⟩
    · rw [stops]
      exact tree
    · rw [onward]
      exact hypothesis tree next
    · rw [onward]
      have free : disk.isDirectoryAt (place ++ [segment]) = false := by
        rw [isDirectoryAt, missing]
        rfl
      exact hypothesis (tree.put inside free .directory) (place ++ [segment])

theorem IsTree.withParent
    {disk : Disk}
    (tree : disk.IsTree)
    (path : Path) :
    (disk.withParent path).1.IsTree := by
  rcases withParent_cases disk path with
    ⟨-, same⟩ | ⟨parent, -, -, ⟨-, same⟩ | ⟨-, way⟩⟩
  · rwa [same]
  · rwa [same]
  · rw [way]
    exact tree.makeWay _ _

/-- A place where a file can be written lies in a directory. -/
theorem spot?_inside
    {disk : Disk}
    {path : Path}
    {place : Place}
    (spot : disk.spot? path = some place) :
    ∃ parent name,
      place = parent ++ [name] ∧
        disk.isDirectoryAt parent = true ∧
        disk.isDirectoryAt (parent ++ [name]) = false := by
  rcases (spot?_eq_some_iff disk path place).mp spot with ⟨leads, named, free⟩
  rw [place?] at leads
  rw [endsInName] at named
  split at leads
  · split at named
    next name last =>
      simp only [Bool.and_eq_true, Bool.not_eq_true', bne_iff_ne] at named
      rcases follow?_of_getLast? leads last named.1.1 named.1.2 named.2 with
        ⟨parent, rfl, directory⟩
      exact ⟨parent, name, rfl, directory, free⟩
    · cases named
  · cases leads

/-- Writing keeps a tree. -/
theorem IsTree.write
    {disk : Disk}
    (tree : disk.IsTree)
    (policy : OverwritePolicy)
    (path : Path)
    (text : Text) :
    (disk.write policy path text).1.IsTree := by
  have overwritten : (disk.overwrite path text).1.IsTree := by
    have treeAbove := tree.withParent path
    rcases overwrite_cases disk path text with
      ⟨made, ready, parent, -, ⟨-, -, fails⟩ | ⟨place, -, spot, -, stores⟩⟩
    · rw [fails]
      rwa [parent] at treeAbove
    · rw [stores]
      rw [parent] at treeAbove
      rcases spot?_inside spot with ⟨above, name, rfl, directory, free⟩
      exact IsTree.put treeAbove directory free (.file (.text text))
  cases policy with
  | always => exact overwritten
  | ifMissing =>
    rw [Disk.write]
    split
    · exact tree
    · exact overwritten

/-! ## Paths that do not turn back -/

/-- Without a segment that turns back, segments that lead to something of a tree on a disk that has
the same there lead to it on the tree. -/
theorem IsTree.follow?_of_at?_eq
    {disk later : Disk}
    (tree : disk.IsTree)
    {place target : Place}
    {node : Node}
    (stands : disk.at? target = some node)
    (same : later.at? target = disk.at? target)
    {segments : List Text}
    (straight : ['.', '.'] ∉ segments)
    (leads : follow? later place segments = some target) :
    follow? disk place segments = some target := by
  induction segments generalizing place with
  | nil => exact leads
  | cons segment segments hypothesis =>
    rcases prefix_of_follow? straight leads with ⟨names, rfl⟩
    rcases (follow?_cons_eq_some_iff later place _ segment segments).mp leads with
      ⟨opened, next, steps, onward⟩
    -- The place lies on the way to something that stands in the tree, so it is a directory there.
    have inside : disk.isDirectoryAt place = true := by
      by_cases below : names = []
      · subst below
        rw [List.append_nil] at same
        rwa [isDirectoryAt, same] at opened
      · exact tree.isDirectoryAt_of_append below stands
    rw [List.mem_cons, not_or] at straight
    exact (follow?_cons_eq_some_iff disk place _ segment segments).mpr
      ⟨inside, next, steps, hypothesis straight.2 onward⟩

/-- Whether a path turns back by `..` only out of directories that are there: it can be followed up
to a point after which it does not turn back. -/
def TurnsBackInside (disk : Disk) (path : Path) : Prop :=
  ∃ before after reached,
    segmentsOf path = before ++ after ∧
      follow? disk (disk.startOf path) before = some reached ∧
      ['.', '.'] ∉ after

/-- A path without a segment that turns back turns back inside. -/
theorem turnsBackInside_of_straight
    (disk : Disk)
    {path : Path}
    (straight : ['.', '.'] ∉ segmentsOf path) :
    disk.TurnsBackInside path :=
  ⟨[], segmentsOf path, disk.startOf path, rfl, rfl, straight⟩

/-- On a tree, no file is overlooked by a path that turns back inside only. -/
theorem IsTree.overlooked?_eq_none
    {disk : Disk}
    (tree : disk.IsTree)
    {path : Path}
    (inside : disk.TurnsBackInside path) :
    disk.overlooked? path = none := by
  rcases inside with ⟨before, after, reached, order, followed, straight⟩
  rw [overlooked?]
  split
  · rfl
  next missing =>
    rw [Option.filter_eq_none_iff]
    intro place lands file
    rcases (hasFileAt_iff disk place).mp file with ⟨content, stands⟩
    have furnished := furnished_withParent disk path
    rcases parent : disk.withParent path with ⟨made, ready⟩
    rw [parent] at furnished
    rw [landing?, parent] at lands
    cases ready with
    | false => cases lands
    | true =>
      have leads := ((spot?_eq_some_iff made path place).mp lands).1
      apply missing
      rw [place?] at leads
      split at leads
      next fits =>
        rw [furnished.startOf, order, follow?_append, furnished.follow?_eq_some followed] at leads
        have led : disk.follow? (disk.startOf path) (segmentsOf path) = some place := by
          rw [order, follow?_append, followed]
          have same : made.at? place = disk.at? place := by
            rw [furnished.at?_eq_some stands, stands]
          exact tree.follow?_of_at?_eq stands same straight leads
        rw [pathExists, node?, place?, if_pos fits, led, Option.bind_some, stands]
        rfl
      · cases leads

end Scaffold.Disk
