import Scaffold.Proofs.DirectoryListings
import Scaffold.Proofs.TextSplitting
import Scaffold.Proofs.WriteEffects

/-!
# Paths that do not turn back

A path without `..` says where it leads without a look at the disk: to the names among its
components, below the place that it starts from (`placeNamed`). In a tree it can be written exactly
when the system accepts it and nothing is in the way, which means that no file stands above the
place and no directory at it (`overwrite_eq_written_iff`). The write puts the file there, makes
directories of all places above it, and changes nothing else (`withText`).
-/

namespace Scaffold.Path

open Disk (segmentsOf)

/-! ## Names of paths -/

/-- The name that a component is. -/
def Component.name? : Component → Option Text
  | .name text => some text
  | _ => none

/-- The names among the components of a path. -/
def names (path : Path) : List Text :=
  path.components.filterMap Component.name?

/-- The names among the segments of a path. -/
def namesOf (segments : List Text) : List Text :=
  (segments.filterMap componentOf?).filterMap Component.name?

theorem namesOf_append
    (before after : List Text) :
    namesOf (before ++ after) = namesOf before ++ namesOf after := by
  rw [namesOf, List.filterMap_append, List.filterMap_append, namesOf, namesOf]

theorem namesOf_cons_of_silent
    {segment : Text}
    (silent : isSilent segment = true)
    (segments : List Text) :
    namesOf (segment :: segments) = namesOf segments := by
  rw [namesOf, List.filterMap_cons_none (componentOf?_of_silent silent), namesOf]

theorem namesOf_cons_of_telling
    {segment : Text}
    (telling : isSilent segment = false)
    (ahead : segment ≠ ['.', '.'])
    (segments : List Text) :
    namesOf (segment :: segments) = segment :: namesOf segments := by
  rw [namesOf, List.filterMap_cons_some (componentOf?_of_telling telling ahead)]
  rfl

/-- The start of a path is the root, the current directory or nothing. -/
theorem headComponents_cases
    (path : Path) :
    path.headComponents = [.root] ∨
      path.headComponents = [.current] ∨ path.headComponents = [] := by
  rw [headComponents]
  split
  · exact Or.inl rfl
  · exact Or.inr (Or.inl rfl)
  · exact Or.inr (Or.inr rfl)

theorem names_eq_namesOf
    (path : Path) :
    path.names = namesOf (segmentsOf path) := by
  rw [names, components_eq_append_steps, List.filterMap_append]
  rcases headComponents_cases path with start | start | start
  · rw [start]
    rfl
  · rw [start]
    rfl
  · rw [start]
    rfl

theorem parent_not_mem_components_iff
    (path : Path) :
    .parent ∉ path.components ↔ ['.', '.'] ∉ segmentsOf path := by
  rw [components_eq_append_steps, List.mem_append, not_or, steps, parent_mem_filterMap_iff]
  rcases headComponents_cases path with start | start | start
  · simp [start]
  · simp [start]
  · simp [start]

/-! ## The path above a path that ends in a name -/

/-- Silent segments at the end of a body stand for nothing. -/
theorem filterMap_trimmedBody
    (segments : List Text) :
    (trimmedBody segments).filterMap componentOf? = segments.filterMap componentOf? := by
  induction segments using List.reverseRecOn with
  | nil => rfl
  | append_singleton segments segment hypothesis =>
    rw [trimmedBody_concat]
    split
    next silent =>
      rw [List.filterMap_append, List.filterMap_cons_none (componentOf?_of_silent silent),
        List.filterMap_nil, List.append_nil]
      exact hypothesis
    · rfl

/-- A trimmed body ends in a segment that stands for a component. -/
theorem exists_componentOf?_of_trimmedBody
    {segments before : List Text}
    {segment : Text}
    (order : trimmedBody segments = before ++ [segment]) :
    ∃ component, componentOf? segment = some component := by
  induction segments using List.reverseRecOn with
  | nil => simp [trimmedBody] at order
  | append_singleton segments last hypothesis =>
    rw [trimmedBody_concat] at order
    split at order
    · exact hypothesis order
    next telling =>
      cases (List.append_inj' order rfl).2
      exact exists_componentOf?_of_telling (Bool.eq_false_iff.mpr telling)

variable {path : Path} {segments : List Text}

/-- The start of a path and the first segments of its body start the text of the path. -/
theorem text_prefix_of_body
    (starts : segments <+: path.bodySegments) :
    path.head ++ Text.joined ['/'] segments <+: path.text := by
  rw [text_eq_head_append path, List.prefix_append_right_inj]
  rcases starts with ⟨others, order⟩
  rw [← order]
  by_cases bare : segments = []
  · rw [bare]
    exact List.nil_prefix
  · by_cases whole : others = []
    · simp [whole]
    · rw [Text.joined_append bare whole, List.append_assoc]
      exact List.prefix_append _ _

/-- A path that is cut behind a segment of its body has the steps of the segments that are left. -/
theorem steps_of_body
    (starts : segments <+: path.bodySegments) :
    (Path.mk (path.head ++ Text.joined ['/'] segments)).steps =
      segments.filterMap componentOf? := by
  by_cases bare : segments = []
  · rw [bare, Text.joined, List.append_nil, head]
    split
    · rfl
    · rfl
    · rfl
    · rfl
  have plain : ∀ segment ∈ segments, '/' ∉ segment := by
    intro segment isMember slash
    have inBody := starts.subset isMember
    rw [bodySegments] at inBody
    cases (Text.mem_and_not_isSeparator_of_mem_pieces inBody '/' slash).2
  have parted := Text.pieces_joined bare plain
  -- A body behind a dot starts with an empty segment, which the dot then stands in.
  have behindDot (first : path.bodySegments.head? = some []) :
      (Path.mk ('.' :: Text.joined ['/'] segments)).steps = segments.filterMap componentOf? := by
    rcases List.exists_cons_of_ne_nil bare with ⟨segment, others, rfl⟩
    have empty : segment = [] := by
      rcases starts with ⟨more, order⟩
      rw [← order] at first
      exact Option.some.inj first
    subst empty
    rw [steps, segmentsOf, Text.pieces, if_neg (by decide), parted]
    rfl
  rw [bodySegments] at behindDot
  rw [head] at behindDot ⊢
  split
  · rw [steps, segmentsOf, List.singleton_append, Text.pieces, if_pos (by decide), parted]
    rfl
  next current =>
    rw [current] at behindDot
    exact behindDot rfl
  next rest current =>
    rw [current] at behindDot
    exact behindDot rfl
  · rw [List.nil_append, steps, segmentsOf, parted]

theorem isAbsolute_eq_false_of_head
    (bare : path.head = []) :
    path.isAbsolute = false := by
  rw [← Bool.not_eq_true, isAbsolute, List.isPrefixOf_iff_prefix]
  rintro ⟨rest, order⟩
  rw [head, ← order] at bare
  cases bare

/-- A path that is cut behind a segment of its body starts where it did. -/
theorem isAbsolute_of_body
    (starts : segments <+: path.bodySegments) :
    (Path.mk (path.head ++ Text.joined ['/'] segments)).isAbsolute = path.isAbsolute := by
  have shorter := text_prefix_of_body starts
  by_cases silent : path.head ++ Text.joined ['/'] segments = []
  · rw [silent, isAbsolute_eq_false_of_head (List.append_eq_nil_iff.mp silent).1]
    rfl
  · rcases List.exists_cons_of_ne_nil silent with ⟨first, rest, order⟩
    rw [order] at shorter ⊢
    rcases shorter with ⟨more, whole⟩
    rw [isAbsolute, isAbsolute, ← whole]
    rfl

/-- The last segment of a path that ends in the name of a file is that name. -/
theorem exists_segments_of_endsInName
    (ends : Disk.endsInName path = true) :
    ∃ before name,
      segmentsOf path = before ++ [name] ∧ isSilent name = false ∧ name ≠ ['.', '.'] := by
  rw [Disk.endsInName] at ends
  split at ends
  next name last =>
    rcases List.getLast?_eq_some_iff.mp last with ⟨before, order⟩
    simp only [Bool.and_eq_true, Bool.not_eq_true', bne_iff_ne] at ends
    refine ⟨before, name, order, ?_, ends.2⟩
    rw [isSilent, ends.1.1, Bool.false_or, beq_eq_false_iff_ne]
    exact ends.1.2
  · cases ends

/-- Above a path whose last segment stands for a component there is the path without that
component. -/
theorem exists_parent?_of_telling
    {others : List Text}
    {last : Text}
    (order : segmentsOf path = others ++ [last])
    (telling : isSilent last = false) :
    ∃ parent component,
      path.parent? = some parent ∧
        path.head <+: parent.text ∧
        parent.text <+: path.text ∧
        parent.isAbsolute = path.isAbsolute ∧
        componentOf? last = some component ∧
        path.steps = parent.steps ++ [component] := by
  rcases exists_componentOf?_of_telling telling with ⟨component, stands⟩
  have ending : path.steps.getLast? = some component := by
    rw [steps, order, List.filterMap_append, List.filterMap_cons_some stands]
    exact List.getLast?_concat
  -- So is the last segment of the body, behind which the path is cut.
  have body : path.steps = (trimmedBody path.bodySegments).filterMap componentOf? := by
    rw [filterMap_trimmedBody, filterMap_bodySegments]
  rcases List.eq_nil_or_concat (trimmedBody path.bodySegments) with none | ⟨before, segment, cut⟩
  · rw [body, none] at ending
    cases ending
  rw [List.concat_eq_append] at cut
  have starts : trimmedBody before <+: path.bodySegments := by
    have whole := trimmedBody_prefix path.bodySegments
    have shorter := trimmedBody_prefix before
    rw [cut] at whole
    exact shorter.trans ((List.prefix_append before [segment]).trans whole)
  refine
    ⟨⟨path.head ++ Text.joined ['/'] (trimmedBody before)⟩, component, ?parent,
      List.prefix_append _ _, text_prefix_of_body starts, isAbsolute_of_body starts, stands, ?steps⟩
  case parent =>
    rw [parent?, cut, List.reverse_concat]
    dsimp only
    rw [List.reverse_reverse]
  case steps =>
    rw [steps_of_body starts, filterMap_trimmedBody, body, cut, List.filterMap_append,
      List.append_cancel_left_eq]
    rw [body, cut, List.filterMap_append] at ending
    rcases exists_componentOf?_of_trimmedBody cut with ⟨other, same⟩
    rw [List.filterMap_cons_some same, List.filterMap_nil, List.getLast?_concat] at ending
    rw [List.filterMap_cons_some same, List.filterMap_nil, Option.some.inj ending]

/-- Above a path that ends in a name there is the path without the name. -/
theorem exists_parent?_of_endsInName
    (ends : Disk.endsInName path = true) :
    ∃ parent name,
      path.parent? = some parent ∧
        parent.text <+: path.text ∧
        parent.isAbsolute = path.isAbsolute ∧
        path.steps = parent.steps ++ [.name name] := by
  rcases exists_segments_of_endsInName ends with ⟨others, name, order, telling, ahead⟩
  rcases exists_parent?_of_telling order telling with
    ⟨parent, component, above, -, shorter, absolute, stands, more⟩
  rw [componentOf?_of_telling telling ahead] at stands
  cases stands
  exact ⟨parent, name, above, shorter, absolute, more⟩

end Scaffold.Path

namespace Scaffold.Disk

open Scaffold.Path (isSilent names namesOf)

/-! ## Where a straight path leads -/

/-- The place that the names of a path lead to. -/
def placeNamed (disk : Disk) (path : Path) : Place :=
  disk.startOf path ++ path.names

theorem placeNamed_of_working
    {disk later : Disk}
    (working : later.working = disk.working)
    (path : Path) :
    later.placeNamed path = disk.placeNamed path := by
  rw [placeNamed, placeNamed, startOf, startOf, working]

theorem step?_of_silent
    {segment : Text}
    (silent : isSilent segment = true)
    (place : Place) :
    step? place segment = some place := by
  rw [isSilent, Bool.or_eq_true, beq_iff_eq] at silent
  rw [step?, if_pos (by simpa using silent)]

theorem step?_of_telling
    {segment : Text}
    (telling : isSilent segment = false)
    (ahead : segment ≠ ['.', '.'])
    (place : Place) :
    step? place segment = if nameFits segment then some (place ++ [segment]) else none := by
  rw [isSilent, Bool.or_eq_false_iff, beq_eq_false_iff_ne] at telling
  rw [step?, if_neg (by simpa using telling), if_neg ahead]

variable {disk : Disk} {place : Place} {segments : List Text}

/-- Segments that do not turn back lead where their names say, and each name is short enough. -/
theorem follow?_of_straight
    {target : Place}
    (straight : ['.', '.'] ∉ segments)
    (leads : disk.follow? place segments = some target) :
    target = place ++ namesOf segments ∧ ∀ name ∈ namesOf segments, nameFits name = true := by
  induction segments generalizing place with
  | nil =>
    cases leads
    exact ⟨(List.append_nil _).symm, List.forall_mem_nil _⟩
  | cons segment segments hypothesis =>
    rw [List.mem_cons, not_or] at straight
    rcases (follow?_cons_eq_some_iff disk place target segment segments).mp leads with
      ⟨-, next, steps, onward⟩
    rcases hypothesis straight.2 onward with ⟨rfl, fits⟩
    cases silent : isSilent segment with
    | true =>
      rw [step?_of_silent silent] at steps
      cases steps
      rw [Path.namesOf_cons_of_silent silent]
      exact ⟨rfl, fits⟩
    | false =>
      have ahead := Ne.symm straight.1
      rw [step?_of_telling silent ahead] at steps
      split at steps
      next fitsHere =>
        cases steps
        rw [Path.namesOf_cons_of_telling silent ahead]
        exact ⟨by simp, List.forall_mem_cons.mpr ⟨fitsHere, fits⟩⟩
      · cases steps

/-- Where a path that does not turn back leads, if it leads anywhere. -/
theorem place?_of_straight
    {path : Path}
    {target : Place}
    (straight : .parent ∉ path.components)
    (leads : disk.place? path = some target) :
    target = disk.placeNamed path ∧
      pathFits path = true ∧
      ∀ name ∈ path.names, nameFits name = true := by
  rw [Path.parent_not_mem_components_iff] at straight
  rw [place?] at leads
  split at leads
  next fits =>
    rcases follow?_of_straight straight leads with ⟨rfl, namesFit⟩
    rw [placeNamed, Path.names_eq_namesOf]
    exact ⟨rfl, fits, namesFit⟩
  · cases leads

/-- Where a text is written to a path that does not turn back, if it is written. -/
theorem place_of_written?
    {policy : OverwritePolicy}
    {path : Path}
    (straight : .parent ∉ path.components)
    (lands : disk.written? policy path = some place) :
    place = disk.placeNamed path := by
  have landing : disk.landing? path = some place := by
    cases policy with
    | always => exact lands
    | ifMissing =>
      rw [written?] at lands
      split at lands
      · cases lands
      · exact lands
  have working := (furnished_withParent disk path).working
  rw [landing?] at landing
  split at landing
  next made parents =>
    rw [parents] at working
    rw [← placeNamed_of_working working]
    exact (place?_of_straight straight ((spot?_eq_some_iff made path place).mp landing).1).1
  · cases landing

/-- Segments that do not turn back lead through directories to where their names say. -/
theorem follow?_of_directories
    (straight : ['.', '.'] ∉ segments)
    (fits : ∀ name ∈ namesOf segments, nameFits name = true)
    (directories :
      ∀ other, other <+: place ++ namesOf segments → disk.isDirectoryAt other = true) :
    disk.follow? place segments = some (place ++ namesOf segments) := by
  induction segments generalizing place with
  | nil => exact congrArg some (List.append_nil place).symm
  | cons segment segments hypothesis =>
    rw [List.mem_cons, not_or] at straight
    have inside := directories place (List.prefix_append _ _)
    rw [follow?_cons, if_pos inside]
    cases silent : isSilent segment with
    | true =>
      rw [Path.namesOf_cons_of_silent silent] at fits directories ⊢
      rw [step?_of_silent silent]
      exact hypothesis straight.2 fits directories
    | false =>
      have ahead := Ne.symm straight.1
      rw [Path.namesOf_cons_of_telling silent ahead] at fits directories ⊢
      rw [List.forall_mem_cons] at fits
      rw [List.append_cons place segment (namesOf segments)] at directories ⊢
      rw [step?_of_telling silent ahead, if_pos fits.1, Option.bind_some]
      exact hypothesis straight.2 fits.2 directories

/-! ## Making the way of a straight path -/

/-- Above a directory of a tree there are directories. -/
theorem IsTree.at?_of_isPrefix
    (tree : disk.IsTree)
    {other : Place}
    (directory : disk.isDirectoryAt place = true)
    (isAbove : other <+: place) :
    disk.at? other = some .directory := by
  rcases isAbove with ⟨rest, rfl⟩
  by_cases here : rest = []
  · rw [here, List.append_nil] at directory
    exact of_decide_eq_true directory
  · exact of_decide_eq_true (tree.isDirectoryAt_of_append here (of_decide_eq_true directory))

/-- What stands somewhere and is no file is a directory. -/
theorem at?_eq_directory
    (stands : disk.at? place ≠ none)
    (unblocked : disk.hasFileAt place = false) :
    disk.at? place = some .directory := by
  rcases Option.ne_none_iff_exists'.mp stands with ⟨content | _, there⟩
  · rw [(hasFileAt_iff disk place).mpr ⟨content, there⟩] at unblocked
    cases unblocked
  · exact there

/-- Where no file is in the way, a name leads into a directory that is there or is made. -/
theorem IsTree.makeWay_cons_of_name
    {segment : Text}
    (tree : disk.IsTree)
    (inside : disk.isDirectoryAt place = true)
    (telling : isSilent segment = false)
    (ahead : segment ≠ ['.', '.'])
    (fits : nameFits segment = true)
    (unblocked : disk.hasFileAt (place ++ [segment]) = false)
    (segments : List Text) :
    ∃ opened : Disk,
      disk.makeWay place (segment :: segments) = opened.makeWay (place ++ [segment]) segments ∧
        opened.IsTree ∧
        ∀ other,
          opened.at? other =
            if other = place ++ [segment] then some .directory else disk.at? other := by
  have steps := step?_of_telling telling ahead place
  rw [if_pos fits] at steps
  rcases makeWay_cons disk place segment segments with
    ⟨outside | nowhere, -⟩ | ⟨-, next, leadsOn, ⟨reached, goes⟩ | ⟨here, missing, goes⟩⟩
  · rw [inside] at outside
    cases outside
  · rw [steps] at nowhere
    cases nowhere
  · rw [steps] at leadsOn
    cases leadsOn
    have stands : disk.at? (place ++ [segment]) ≠ none := by
      refine reached.resolve_right fun back => ?_
      have shorter := congrArg List.length back
      rw [above, List.length_dropLast, List.length_append, List.length_singleton] at shorter
      omega
    refine ⟨disk, goes, tree, ?_⟩
    intro other
    split
    next here =>
      rw [here]
      exact at?_eq_directory stands unblocked
    · rfl
  · subst here
    have free : disk.isDirectoryAt (place ++ [segment]) = false := by
      rw [isDirectoryAt, missing]
      rfl
    exact
      ⟨disk.put (place ++ [segment]) .directory, goes, tree.put inside free .directory,
        fun other => at?_put disk _ other _ (List.concat_ne_nil segment place)⟩

/-- Where no file is in the way, the way of segments that do not turn back is made: directories
stand at all places above its end then, and everything else is as it was. -/
theorem IsTree.makeWay_of_straight
    (tree : disk.IsTree)
    (inside : disk.isDirectoryAt place = true)
    (straight : ['.', '.'] ∉ segments)
    (fits : ∀ name ∈ namesOf segments, nameFits name = true)
    (unblocked : ∀ other, other <+: place ++ namesOf segments → disk.hasFileAt other = false) :
    ∃ made : Disk,
      disk.makeWay place segments = (made, true) ∧
        ∀ other,
          made.at? other =
            if other <+: place ++ namesOf segments then some .directory else disk.at? other := by
  induction segments generalizing disk place with
  | nil =>
    refine ⟨disk, by rw [Disk.makeWay, inside], ?_⟩
    intro other
    split
    next isAbove =>
      exact tree.at?_of_isPrefix inside (by simpa [namesOf] using isAbove)
    · rfl
  | cons segment segments hypothesis =>
    rw [List.mem_cons, not_or] at straight
    cases silent : isSilent segment with
    | true =>
      rw [Path.namesOf_cons_of_silent silent] at fits unblocked ⊢
      have goes : disk.makeWay place (segment :: segments) = disk.makeWay place segments := by
        rw [isSilent, Bool.or_eq_true, beq_iff_eq] at silent
        rw [Disk.makeWay, inside, if_neg (by decide), if_pos (by simpa using silent)]
      rw [goes]
      exact hypothesis tree inside straight.2 fits unblocked
    | false =>
      have ahead := Ne.symm straight.1
      rw [Path.namesOf_cons_of_telling silent ahead,
        List.append_cons place segment (namesOf segments)] at unblocked ⊢
      rw [Path.namesOf_cons_of_telling silent ahead, List.forall_mem_cons] at fits
      have onWay := unblocked (place ++ [segment]) (List.prefix_append _ _)
      rcases tree.makeWay_cons_of_name inside silent ahead fits.1 onWay segments with
        ⟨opened, goes, treeOpened, stands⟩
      have insideNext : opened.isDirectoryAt (place ++ [segment]) = true := by
        rw [isDirectoryAt, stands, if_pos rfl]
        rfl
      have unblockedNext :
          ∀ other, other <+: place ++ [segment] ++ namesOf segments →
            opened.hasFileAt other = false := by
        intro other isAbove
        rw [hasFileAt, stands]
        by_cases here : other = place ++ [segment]
        · rw [if_pos here]
        · rw [if_neg here]
          exact unblocked other isAbove
      rcases hypothesis treeOpened insideNext straight.2 fits.2 unblockedNext with
        ⟨made, way, standsMade⟩
      refine ⟨made, goes.trans way, ?_⟩
      intro other
      rw [standsMade, stands]
      split
      · rfl
      next outside =>
        have apart : other ≠ place ++ [segment] := by
          rintro rfl
          exact outside (List.prefix_append _ _)
        rw [if_neg apart]

/-! ## Writing to a straight path -/

/-- Every node lies in a directory, and the working directory is there. -/
structure IsFileTree (disk : Disk) : Prop where
  tree : disk.IsTree
  home : disk.isDirectoryAt disk.working = true

/-- A disk is a tree when each of its nodes lies in a directory. -/
theorem isTree_of_nodes
    {disk : Disk}
    (inside : ∀ pair ∈ disk.nodes, disk.isDirectoryAt (above pair.1) = true) :
    disk.IsTree := by
  intro place name node stands
  rw [at?_eq_lookup disk (List.concat_ne_nil name place), List.lookup_eq_some_iff] at stands
  rcases stands with ⟨before, after, order, -⟩
  have directory :=
    inside (place ++ [name], node) (by rw [order]; exact List.mem_append_right _ List.mem_cons_self)
  rwa [above, List.dropLast_concat] at directory

namespace IsFileTree

theorem write
    {disk next : Disk}
    (fileTree : disk.IsFileTree)
    {policy : OverwritePolicy}
    {path : Path}
    {text : Text}
    {result : WriteResult}
    (writes : disk.write policy path text = (next, result)) :
    next.IsFileTree := by
  have tree := fileTree.tree.write policy path text
  rw [writes] at tree
  have grown := grown_of_write writes
  exact ⟨tree, by rw [grown.working]; exact grown.directories _ fileTree.home⟩

theorem startOf
    {disk : Disk}
    (fileTree : disk.IsFileTree)
    (path : Path) :
    disk.isDirectoryAt (disk.startOf path) = true := by
  rw [Disk.startOf]
  split
  · rfl
  · exact fileTree.home

end IsFileTree

/-- The system accepts a path as one that a file can be written to. -/
structure IsSound (path : Path) : Prop where
  fits : pathFits path = true
  names : ∀ name ∈ path.names, nameFits name = true
  ends : endsInName path = true

/-- Nothing is in the way of a file at a place: no file stands above it, and no directory at it. -/
structure IsOpen (disk : Disk) (place : Place) : Prop where
  above : ∀ other, other <+: place → other ≠ place → disk.hasFileAt other = false
  here : disk.isDirectoryAt place = false

/-- What stands at each place after a text was put at one, with directories above it. -/
def withText
    (place : Place)
    (text : Text)
    (stands : Place → Option Node)
    (other : Place) :
    Option Node :=
  if other = place then
    some (.file (.text text))
  else if other <+: place then
    some .directory
  else
    stands other

variable {path : Path} {text : Text}

/-- The start of a path that the system accepts is accepted as well. -/
theorem pathFits_of_start
    {parent : Path}
    (fits : pathFits path = true)
    (given : parent.isEmpty = false)
    (starts : parent.text <+: path.text) :
    pathFits parent = true := by
  rcases starts with ⟨more, order⟩
  rw [Path.isEmpty] at given
  simp only [pathFits, ← order, Bool.and_eq_true, Bool.not_eq_true', decide_eq_true_eq,
    List.any_append, Bool.or_eq_false_iff, Text.byteLength_append, given] at fits ⊢
  exact ⟨⟨trivial, by omega⟩, fits.2.1⟩

/-- What goes on from a place by a name does not lie above the place. -/
theorem not_concat_isPrefix
    (directory : Place)
    (name : Text) :
    ¬ directory ++ [name] <+: directory := by
  intro isAbove
  have shorter := isAbove.length_le
  rw [List.length_append, List.length_singleton] at shorter
  omega

/-- The directories above a straight path are made where no file stands above its place. -/
theorem IsFileTree.withParent_of_isOpen
    (fileTree : disk.IsFileTree)
    (straight : .parent ∉ path.components)
    (sound : IsSound path)
    (opened : disk.IsOpen (disk.placeNamed path)) :
    ∃ (made : Disk) (directory : Place) (name : Text),
      disk.placeNamed path = directory ++ [name] ∧
        disk.withParent path = (made, true) ∧
        ∀ other,
          made.at? other = if other <+: directory then some .directory else disk.at? other := by
  rcases Path.exists_parent?_of_endsInName sound.ends with
    ⟨parent, name, above, starts, absolute, steps⟩
  have names : path.names = namesOf (segmentsOf parent) ++ [name] := by
    rw [Path.names_eq_namesOf, namesOf, ← Path.steps, steps, List.filterMap_append]
    rfl
  have place :
      disk.placeNamed path = (disk.startOf path ++ namesOf (segmentsOf parent)) ++ [name] := by
    rw [placeNamed, names, List.append_assoc]
  have inside := fileTree.startOf path
  rw [withParent, above]
  dsimp only
  rw [makeDirectories]
  cases given : parent.isEmpty with
  | true =>
    refine ⟨disk, disk.startOf path, name, ?_, rfl, ?_⟩
    · rw [Path.isEmpty, List.isEmpty_iff] at given
      rw [place, segmentsOf, given]
      exact congrArg (· ++ [name]) (List.append_nil _)
    · intro other
      split
      next isAbove => exact fileTree.tree.at?_of_isPrefix inside isAbove
      · rfl
  | false =>
    have start : disk.startOf parent = disk.startOf path := by
      rw [Disk.startOf, Disk.startOf, absolute]
    have straightAbove : ['.', '.'] ∉ segmentsOf parent := by
      intro turned
      apply straight
      rw [Path.components_eq_append_steps, steps]
      exact
        List.mem_append_right _
          (List.mem_append_left _ ((Path.parent_mem_filterMap_iff _).mpr turned))
    have fits := sound.names
    rw [names, List.forall_mem_append] at fits
    have unblocked :
        ∀ other, other <+: disk.startOf path ++ namesOf (segmentsOf parent) →
          disk.hasFileAt other = false := by
      intro other isAbove
      apply opened.above
      · rw [place]
        exact isAbove.trans (List.prefix_append _ _)
      · rintro rfl
        rw [place] at isAbove
        exact not_concat_isPrefix _ name isAbove
    rcases fileTree.tree.makeWay_of_straight inside straightAbove fits.1 unblocked with
      ⟨made, way, stands⟩
    refine ⟨made, _, name, place, ?_, stands⟩
    rw [if_neg Bool.false_ne_true, if_pos (pathFits_of_start sound.fits given starts), start]
    exact way

/-- A straight path that the system accepts leads to its place when the directories above it are
there. -/
theorem place?_of_directories
    {directory : Place}
    {name : Text}
    (straight : .parent ∉ path.components)
    (sound : IsSound path)
    (place : disk.placeNamed path = directory ++ [name])
    (directories : ∀ other, other <+: directory → disk.isDirectoryAt other = true) :
    disk.place? path = some (disk.placeNamed path) := by
  rcases Path.exists_segments_of_endsInName sound.ends with ⟨before, last, order, telling, ahead⟩
  have names : path.names = namesOf before ++ [last] := by
    rw [Path.names_eq_namesOf, order, Path.namesOf_append,
      Path.namesOf_cons_of_telling telling ahead]
    rfl
  have sameDirectory : directory = disk.startOf path ++ namesOf before := by
    rw [placeNamed, names, ← List.append_assoc] at place
    exact (List.append_inj' place rfl).1.symm
  subst sameDirectory
  rw [Path.parent_not_mem_components_iff, order, List.mem_append, not_or] at straight
  have fits := sound.names
  rw [names, List.forall_mem_append] at fits
  have towards :
      disk.follow? (disk.startOf path) (segmentsOf path) =
        disk.follow? (disk.startOf path ++ namesOf before) [last] := by
    rw [order, follow?_append,
      follow?_of_directories straight.1 fits.1 directories, Option.bind_some]
  have lands :
      disk.follow? (disk.startOf path ++ namesOf before) [last] =
        some (disk.startOf path ++ namesOf before ++ [last]) := by
    rw [follow?_cons, if_pos (directories _ List.prefix_rfl), step?_of_telling telling ahead,
      if_pos (fits.2 last (List.mem_singleton_self last))]
    rfl
  rw [place?, if_pos sound.fits, towards, lands, placeNamed, names, List.append_assoc]

/-- A straight path that the system accepts is written where nothing is in the way. -/
theorem IsFileTree.overwrite_of_isOpen
    (fileTree : disk.IsFileTree)
    (straight : .parent ∉ path.components)
    (sound : IsSound path)
    (opened : disk.IsOpen (disk.placeNamed path))
    (text : Text) :
    ∃ next : Disk,
      disk.overwrite path text = (next, .written) ∧
        next.at? = withText (disk.placeNamed path) text disk.at? := by
  rcases fileTree.withParent_of_isOpen straight sound opened with
    ⟨made, directory, name, place, parents, stands⟩
  have furnished := furnished_withParent disk path
  rw [parents] at furnished
  have samePlace := placeNamed_of_working furnished.working path
  have directories : ∀ other, other <+: directory → made.isDirectoryAt other = true := by
    intro other isAbove
    rw [isDirectoryAt, stands, if_pos isAbove]
    rfl
  have free : made.isDirectoryAt (disk.placeNamed path) = false := by
    have outside : ¬ disk.placeNamed path <+: directory := by
      rw [place]
      exact not_concat_isPrefix directory name
    rw [isDirectoryAt, stands, if_neg outside]
    exact opened.here
  have leads : made.place? path = some (disk.placeNamed path) := by
    rw [← samePlace]
    exact place?_of_directories straight sound (samePlace.trans place) directories
  have spot := (spot?_eq_some_iff made path _).mpr ⟨leads, sound.ends, free⟩
  refine ⟨made.put (disk.placeNamed path) (.file (.text text)), ?_, ?_⟩
  · rw [overwrite, parents]
    dsimp only
    rw [store?_eq_map_spot?, spot]
    rfl
  · funext other
    rw [place, at?_put made _ other _ (List.concat_ne_nil name directory), withText, stands]
    split
    · rfl
    next apart => simp only [List.prefix_concat_iff, apart, false_or]

/-- A straight path is written exactly when the system accepts it and nothing is in the way. -/
theorem IsFileTree.overwrite_eq_written_iff
    (fileTree : disk.IsFileTree)
    (straight : .parent ∉ path.components)
    (text : Text) :
    (disk.overwrite path text).2 = .written ↔
      IsSound path ∧ disk.IsOpen (disk.placeNamed path) := by
  constructor
  · intro result
    have writes : disk.overwrite path text = ((disk.overwrite path text).1, .written) :=
      Prod.ext rfl result
    rcases inPlace_of_overwrite writes with ⟨place, -, inPlace, stands⟩
    have grown := grown_overwrite disk path text
    have tree : (disk.overwrite path text).1.IsTree := fileTree.tree.write .always path text
    rcases place?_of_straight straight inPlace.leads with ⟨named, fits, names⟩
    rw [placeNamed_of_working grown.working] at named
    subst named
    refine ⟨⟨fits, names, inPlace.named⟩, ?above, ?here⟩
    case above =>
      rintro other ⟨rest, place⟩ apart
      have further : rest ≠ [] := by
        rintro rfl
        exact apart ((List.append_nil other).symm.trans place)
      rw [← place] at stands
      have directory := tree.isDirectoryAt_of_append further stands
      -- Files stay files, so there was none where a directory is now.
      rw [← Bool.not_eq_true]
      intro file
      rcases (hasFileAt_iff _ other).mp (grown.files other file) with ⟨content, stands⟩
      rw [isDirectoryAt, stands] at directory
      cases directory
    case here =>
      rw [← Bool.not_eq_true]
      intro directory
      have stays := grown.directories _ directory
      rw [inPlace.isDirectoryAt_eq_false] at stays
      cases stays
  · rintro ⟨sound, opened⟩
    rcases fileTree.overwrite_of_isOpen straight sound opened text with ⟨next, writes, -⟩
    rw [writes]

end Scaffold.Disk
