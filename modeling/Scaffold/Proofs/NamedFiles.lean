import Scaffold.Proofs.OutputPlaces
import Scaffold.Proofs.TextLines

/-!
# Files that directives name

A location is refused for one reason only: the file name directive, without white space at its ends,
is not blank and has nothing, `.` or `..` behind its last separator (`NamesNoFile`). Names that a
convention chooses end in a dot and an extension, so they are never refused. A location that is
given leads to an ordinary name, whatever the path directive is.

Directories may stand in either directive. What a file name has in front of its last separator may
as well be put behind the path directive, and a path directive counts by its telling segments alone.
-/

namespace Scaffold.Location

/-! ## Directives that are given -/

theorem given?_of_telling
    {text : Text}
    (telling : Text.trim text ≠ []) :
    given? (some text) = some (Text.trim text) :=
  (given?_eq_some_iff (some text) _).mpr ⟨text, rfl, telling, rfl⟩

/-- A text that is trimmed already and not empty is given as it stands. -/
theorem given?_of_trimmed
    {text : Text}
    (telling : text ≠ [])
    (trimmed : Text.trim text = text) :
    given? (some text) = some text := by
  rw [given?_of_telling (by rwa [trimmed]), trimmed]

/-! ## The last piece of a text -/

theorem lastPiece_of_plain
    {text : Text}
    (plain : ∀ character ∈ text, isSeparator character = false) :
    lastPiece text = text := by
  rw [lastPiece, Text.pieces_of_plain plain]
  rfl

/-- What stands in front of a separator does not belong to the last piece. -/
theorem lastPiece_append_cons
    {separator : Char}
    (separates : isSeparator separator = true)
    (before after : Text) :
    lastPiece (before ++ separator :: after) = lastPiece after := by
  rw [lastPiece, lastPiece, Text.pieces_append_cons separates, Text.getLast?_append_pieces]

/-- A text without a separator is added to the last piece. The recursion cuts the text in front at
its first separator. -/
theorem lastPiece_append_of_plain
    (text : Text)
    {more : Text}
    (plain : ∀ character ∈ more, isSeparator character = false) :
    lastPiece (text ++ more) = lastPiece text ++ more := by
  rcases Text.plain_or_cut isSeparator text with
    whole | ⟨left, separator, right, rfl, separates, -⟩
  · have both : ∀ character ∈ text ++ more, isSeparator character = false :=
      List.forall_mem_append.mpr ⟨whole, plain⟩
    rw [lastPiece_of_plain both, lastPiece_of_plain whole]
  · rw [List.append_assoc, List.cons_append, lastPiece_append_cons separates,
      lastPiece_append_cons separates, lastPiece_append_of_plain right plain]
termination_by text.length
decreasing_by
  subst_vars
  simp only [List.length_append, List.length_cons]
  omega

theorem endsInName_eq_false_iff
    (fileName : Text) :
    endsInName fileName = false ↔
      lastPiece fileName = [] ∨ lastPiece fileName = ['.'] ∨ lastPiece fileName = ['.', '.'] := by
  rw [endsInName, isTelling]
  simp only [Bool.and_eq_false_iff, Bool.not_eq_false', List.isEmpty_iff, bne_eq_false_iff_eq,
    or_assoc]

theorem isSeparator_of_mem_lastPiece
    {text : Text}
    {character : Char}
    (isMember : character ∈ lastPiece text) :
    isSeparator character = false :=
  (Text.mem_and_not_isSeparator_of_mem_pieces (lastPiece_mem_pieces text) character isMember).2

/-! ## Names that conventions choose -/

variable {naming : NamingConvention} {extension template entity : Text}

/-- An extension of letters and digits. -/
structure IsPlainExtension (extension : Text) : Prop where
  telling : extension ≠ []
  plain :
    ∀ character ∈ extension, Text.isLetter character = true ∨ Text.isNumeric character = true

theorem IsPlainExtension.not_mem
    (extended : IsPlainExtension extension)
    {sign : Char}
    (letter : Text.isLetter sign = false)
    (digit : Text.isNumeric sign = false) :
    sign ∉ extension := by
  intro isMember
  rcases extended.plain sign isMember with isLetter | isNumeric
  · rw [letter] at isLetter
    cases isLetter
  · rw [digit] at isNumeric
    cases isNumeric

theorem IsPlainExtension.isSeparator
    (extended : IsPlainExtension extension) :
    ∀ character ∈ extension, isSeparator character = false := by
  intro character isMember
  rw [← Bool.not_eq_true, Location.isSeparator, Bool.or_eq_true, beq_iff_eq, beq_iff_eq]
  rintro (rfl | rfl)
  · exact extended.not_mem (by decide) (by decide) isMember
  · exact extended.not_mem (by decide) (by decide) isMember

/-- A name with an extension ends in the name of a file, whatever its stem is. -/
theorem IsPlainExtension.endsInName
    (extended : IsPlainExtension extension)
    (stem : Text) :
    endsInName (NamingConvention.fileNamed stem extension) = true := by
  rcases List.exists_mem_of_ne_nil extension extended.telling with ⟨character, isMember⟩
  have last :
      lastPiece (NamingConvention.fileNamed stem extension) = lastPiece stem ++ '.' :: extension :=
    lastPiece_append_of_plain stem (List.forall_mem_cons.mpr ⟨rfl, extended.isSeparator⟩)
  have inside : character ∈ lastPiece (NamingConvention.fileNamed stem extension) := by
    rw [last]
    exact List.mem_append_right _ (List.mem_cons_of_mem _ isMember)
  have other : character ≠ '.' := by
    rintro rfl
    exact extended.not_mem (by decide) (by decide) isMember
  rw [← Bool.not_eq_false, endsInName_eq_false_iff]
  rintro (none | current | parent)
  · rw [none] at inside
    cases inside
  · rw [current] at inside
    exact other (List.mem_singleton.mp inside)
  · rw [parent] at inside
    simp only [List.mem_cons, List.not_mem_nil, or_false, or_self] at inside
    exact other inside

theorem exists_stem_of_fallbackName
    (naming : NamingConvention)
    (category : Category)
    (entity template extension : Text) :
    ∃ stem,
      (naming.fallbackName category entity template extension).fileName =
        NamingConvention.fileNamed stem extension := by
  cases category with
  | entity => exact ⟨_, rfl⟩
  | repository => exact ⟨_, rfl⟩
  | usecase => exact ⟨_, rfl⟩
  | handler => exact ⟨_, rfl⟩
  | payload => exact ⟨_, rfl⟩
  | other => exact ⟨_, rfl⟩

/-! ## File names of locations -/

/-- The file name within a directory is the one that a convention chooses, or the last piece of the
directive, which is the whole directive unless that starts with a separator. -/
theorem fileName_withinDirectory
    (naming : NamingConvention)
    (extension template entity : Text)
    (directory : Path)
    (renderedFileName : Option Text) :
    (given? renderedFileName = none ∧
        ∃ stem,
          (withinDirectory naming extension template entity directory renderedFileName).fileName =
            NamingConvention.fileNamed stem extension) ∨
      ∃ text,
        given? renderedFileName = some text ∧
          (withinDirectory naming extension template entity directory renderedFileName).fileName =
            if startsWithSeparator text then lastPiece text else text := by
  rw [withinDirectory]
  cases given : given? renderedFileName with
  | none =>
    left
    rcases
        exists_stem_of_fallbackName naming (Category.ofTemplateName template) entity template
          extension with
      ⟨stem, named⟩
    refine ⟨rfl, stem, ?_⟩
    dsimp only
    split
    · exact named
    · exact named
  | some text =>
    right
    refine ⟨text, rfl, ?_⟩
    dsimp only
    split
    · rfl
    · rfl

/-- The last piece of a directive is that of the file name taken from it. -/
theorem lastPiece_lastPiece
    (text : Text) :
    lastPiece (lastPiece text) = lastPiece text :=
  lastPiece_of_plain fun _ isMember => isSeparator_of_mem_lastPiece isMember

/-- A file name directive that is not blank and has nothing behind its last separator but what
stands for a directory. -/
def NamesNoFile (renderedFileName : Option Text) : Prop :=
  ∃ text,
    renderedFileName = some text ∧
      Text.trim text ≠ [] ∧
      (lastPiece (Text.trim text) = [] ∨
        lastPiece (Text.trim text) = ['.'] ∨ lastPiece (Text.trim text) = ['.', '.'])

theorem endsInName_withinDirectory
    (extended : IsPlainExtension extension)
    (directory : Path)
    (renderedFileName : Option Text) :
    endsInName
          (withinDirectory naming extension template entity directory renderedFileName).fileName =
        false ↔
      NamesNoFile renderedFileName := by
  rcases fileName_withinDirectory naming extension template entity directory renderedFileName with
    ⟨blank, stem, named⟩ | ⟨text, given, named⟩
  · rw [named, extended.endsInName stem]
    refine iff_of_false (Bool.false_ne_true ·.symm) ?_
    rintro ⟨text, rendered, telling, -⟩
    rw [rendered, given?_of_telling telling] at blank
    cases blank
  · have last :
        lastPiece
            (withinDirectory naming extension template entity directory
              renderedFileName).fileName =
          lastPiece text := by
      rw [named]
      split
      · exact lastPiece_lastPiece text
      · rfl
    rw [endsInName_eq_false_iff, last]
    rcases (given?_eq_some_iff renderedFileName text).mp given with ⟨raw, rfl, telling, rfl⟩
    constructor
    · exact fun ends => ⟨raw, rfl, telling, ends⟩
    · rintro ⟨other, same, -, ends⟩
      cases same
      exact ends

/-- A path that goes on with a file name has the name as its last component. -/
theorem exists_getLast?_components
    (directory : Path)
    {fileName : Text}
    (ends : endsInName fileName = true) :
    ∃ name,
      (directory.child fileName).components.getLast? = some (.name name) ∧
        name ≠ [] ∧ name ≠ ['.'] ∧ name ≠ ['.', '.'] := by
  rcases segmentsOf_of_endsInName ends with ⟨others, name, parted, telling, elsewhere, ahead⟩
  refine ⟨name, ?_, by simpa using telling, elsewhere, ahead⟩
  have named : Path.componentOf? name = some (.name name) :=
    Path.componentOf?_of_telling (by simpa [Path.isSilent, telling] using elsewhere) ahead
  have steps :
      (Path.mk fileName).steps = others.filterMap Path.componentOf? ++ [.name name] := by
    rw [Path.steps, parted, List.filterMap_append, List.filterMap_cons_some named,
      List.filterMap_nil]
  rw [Path.components_eq_append_steps, Path.child]
  cases absolute : (Path.mk fileName).isAbsolute with
  | true =>
    rw [Path.join, if_pos absolute, steps, ← List.append_assoc, List.getLast?_concat]
  | false =>
    rw [Path.steps_join absolute, steps, ← List.append_assoc, ← List.append_assoc,
      List.getLast?_concat]

/--
With an extension of letters and digits, a location is refused exactly when the file name directive
names no file. The settings, the convention, the template, the entity and the path directive have no
part in it. A location that is given ends in an ordinary name. Its file name has no separator when
the directive starts with one, and is the trimmed directive when that is not blank and does not.
-/
theorem resolve_fails_iff_namesNoFile
    (settings : Settings)
    (naming : NamingConvention)
    (extended : IsPlainExtension extension)
    (template entity : Text)
    (renderedPath renderedFileName : Option Text) :
    ((∃ cause,
          resolve settings naming extension template entity renderedPath renderedFileName =
            .error cause) ↔
        NamesNoFile renderedFileName) ∧
      ∀ location,
        resolve settings naming extension template entity renderedPath renderedFileName =
            .ok location →
          (∃ name,
              location.path.components.getLast? = some (.name name) ∧
                name ≠ [] ∧ name ≠ ['.'] ∧ name ≠ ['.', '.']) ∧
            ∀ text,
              renderedFileName = some text →
                Text.trim text ≠ [] →
                  if startsWithSeparator (Text.trim text) then
                    ∀ character ∈ location.fileName, isSeparator character = false
                  else
                    location.fileName = Text.trim text := by
  constructor
  · rw [← endsInName_withinDirectory extended
      (startDirectory settings (Category.ofTemplateName template) renderedPath), resolve]
    constructor
    · rintro ⟨cause, fails⟩
      split at fails
      · cases fails
      next ends => exact Bool.eq_false_iff.mpr ends
    · intro ends
      exact ⟨_, if_neg (Bool.eq_false_iff.mp ends)⟩
  · intro location resolved
    rcases (resolve_eq_ok_iff settings renderedPath renderedFileName location).mp resolved with
      ⟨located, ends⟩
    refine ⟨exists_getLast?_components location.directory ends, ?_⟩
    rintro text rfl telling
    rcases
        fileName_withinDirectory naming extension template entity
          (startDirectory settings (Category.ofTemplateName template) renderedPath) (some text) with
      ⟨blank, -⟩ | ⟨given, gives, named⟩
    · rw [given?_of_telling telling] at blank
      cases blank
    · rw [given?_of_telling telling] at gives
      cases gives
      rw [located] at named
      rw [named]
      split
      · exact fun character isMember => isSeparator_of_mem_lastPiece isMember
      · rfl

/-- The settings of a project in one directory. -/
def shopSettings : Settings :=
  .of (Path.of "/shop") (Path.of "schema.sql") (Path.of "templates")

theorem turn_behind_backslash_names_no_file :
    IsPlainExtension "go".toList ∧
      NamesNoFile (some " pkg/sub\\.. ".toList) ∧
      (∃ cause,
        resolve shopSettings .go "go".toList "entity.tmpl".toList "User".toList
            (some "api".toList) (some " pkg/sub\\.. ".toList) =
          .error cause) ∧
      resolve shopSettings .go "go".toList "entity.tmpl".toList "User".toList
          (some "api".toList) (some " \\v1/../user.go ".toList) =
        .ok ⟨Path.of "/shop/api/v1/..", "user.go".toList⟩ ∧
      (∃ name,
        (Location.path ⟨Path.of "/shop/api/v1/..", "user.go".toList⟩).components.getLast? =
            some (.name name) ∧
          name ≠ [] ∧ name ≠ ['.'] ∧ name ≠ ['.', '.']) ∧
      ∀ character ∈ "user.go".toList, isSeparator character = false := by
  have extended : IsPlainExtension "go".toList := ⟨by decide, by decide⟩
  have nameless : NamesNoFile (some " pkg/sub\\.. ".toList) :=
    ⟨_, rfl, by decide +kernel, by decide +kernel⟩
  have resolved :
      resolve shopSettings .go "go".toList "entity.tmpl".toList "User".toList
          (some "api".toList) (some " \\v1/../user.go ".toList) =
        .ok ⟨Path.of "/shop/api/v1/..", "user.go".toList⟩ := by
    decide +kernel
  have refused :=
    (resolve_fails_iff_namesNoFile shopSettings .go extended "entity.tmpl".toList "User".toList
      (some "api".toList) (some " pkg/sub\\.. ".toList)).1.mpr nameless
  rcases
      (resolve_fails_iff_namesNoFile shopSettings .go extended "entity.tmpl".toList "User".toList
        (some "api".toList) (some " \\v1/../user.go ".toList)).2 _ resolved with
    ⟨named, fileName⟩
  have flat := fileName _ rfl (by decide +kernel)
  rw [if_pos (by decide +kernel)] at flat
  exact ⟨extended, nameless, refused, resolved, named, flat⟩

/-! ## Directories in either directive -/

/-- Directories behind a text add their segments to those of the text. -/
theorem segments_append
    {directories : Text}
    (starts : startsWithSeparator directories = true)
    (text : Text) :
    segments (text ++ directories) = segments text ++ segments directories := by
  rcases directories with _ | ⟨separator, rest⟩
  · cases starts
  · have separates : isSeparator separator = true := starts
    rw [segments, Text.pieces_append_cons separates, List.filter_append, segments, segments,
      Text.pieces, if_pos separates]
    rfl

/-- The directories in front of the last separator are the leading segments. -/
theorem leadingSegments_append_cons
    {name : Text}
    (plain : ∀ character ∈ name, isSeparator character = false)
    (directories : Text) :
    leadingSegments (directories ++ '/' :: name) = segments directories := by
  have parted :
      Text.pieces isSeparator (directories ++ '/' :: name) =
        Text.pieces isSeparator directories ++ [name] := by
    rw [Text.pieces_append_cons rfl, Text.pieces_of_plain plain]
  rw [leadingSegments, parted, List.dropLast_concat, segments]

theorem not_isBlank_of_isSeparator
    {character : Char}
    (separates : isSeparator character = true) :
    Text.isBlank character = false := by
  rw [isSeparator, Bool.or_eq_true, beq_iff_eq, beq_iff_eq] at separates
  rcases separates with rfl | rfl
  · rfl
  · rfl

/-- Two texts, the first with nothing to trim in front and the second with nothing to trim behind,
have nothing to trim together. -/
theorem trim_append
    {before after : Text}
    (telling : before ≠ [])
    (more : after ≠ [])
    (keptFirst : ∀ first ∈ before.head?, Text.isBlank first = false)
    (keptLast : ∀ last ∈ after.getLast?, Text.isBlank last = false) :
    Text.trim (before ++ after) = before ++ after := by
  refine Text.trimWhere_eq_self_iff.mpr ⟨?_, ?_⟩
  · rwa [List.head?_append_of_ne_nil before telling]
  · rwa [List.getLast?_append_of_ne_nil before more]

theorem head?_of_startsWithSeparator
    {text : Text}
    (starts : startsWithSeparator text = true) :
    text ≠ [] ∧ ∀ first ∈ text.head?, Text.isBlank first = false := by
  rcases text with _ | ⟨first, rest⟩
  · cases starts
  · refine ⟨List.cons_ne_nil first rest, ?_⟩
    rintro character ⟨⟩
    exact not_isBlank_of_isSeparator starts

theorem startsWithSeparator_append
    {text : Text}
    (starts : startsWithSeparator text = true)
    (more : Text) :
    startsWithSeparator (text ++ more) = true := by
  rcases text with _ | ⟨first, rest⟩
  · cases starts
  · exact starts

theorem startsWithSeparator_of_plain
    {text : Text}
    (plain : ∀ character ∈ text, isSeparator character = false) :
    startsWithSeparator text = false := by
  rcases text with _ | ⟨first, rest⟩
  · rfl
  · exact plain first List.mem_cons_self

/-- Equal locations within a directory are resolved equally. -/
theorem resolve_congr
    {settings : Settings}
    {renderedPath otherPath renderedFileName otherFileName : Option Text}
    (same :
      withinDirectory naming extension template entity
          (startDirectory settings (Category.ofTemplateName template) renderedPath)
          renderedFileName =
        withinDirectory naming extension template entity
          (startDirectory settings (Category.ofTemplateName template) otherPath) otherFileName) :
    resolve settings naming extension template entity renderedPath renderedFileName =
      resolve settings naming extension template entity otherPath otherFileName := by
  rw [resolve, resolve, same]

/--
Directories in front of a file name may be moved behind the path directive: both ways give the same
location or are refused alike. And a path directive that is not blank counts by the telling segments
of its trimmed text alone.
-/
theorem directories_stand_in_either_directive
    (settings : Settings)
    (naming : NamingConvention)
    (extension template entity : Text) :
    (∀ path directories name : Text,
        path ≠ [] →
          Text.trim path = path →
          startsWithSeparator directories = true →
          Text.trimEnd directories = directories →
          name ≠ [] →
          Text.trim name = name →
          (∀ character ∈ name, isSeparator character = false) →
            resolve settings naming extension template entity (some path)
                (some (directories ++ '/' :: name)) =
              resolve settings naming extension template entity (some (path ++ directories))
                (some name)) ∧
      ∀ path other : Text,
        Text.trim path ≠ [] →
          Text.trim other ≠ [] →
          segments (Text.trim path) = segments (Text.trim other) →
            ∀ renderedFileName,
              resolve settings naming extension template entity (some path) renderedFileName =
                resolve settings naming extension template entity (some other)
                  renderedFileName := by
  constructor
  · intro path directories name pathTelling pathTrimmed starts ends nameTelling nameTrimmed plain
    rcases head?_of_startsWithSeparator starts with ⟨directoriesTelling, keptFirst⟩
    have keptLast : ∀ last ∈ directories.getLast?, Text.isBlank last = false := by
      intro last isLast
      rw [← ends] at isLast
      exact Text.drops_getLast?_trimEndWhere isLast
    have givenPath : given? (some (path ++ directories)) = some (path ++ directories) := by
      refine given?_of_trimmed (by simp [pathTelling]) ?_
      exact
        trim_append pathTelling directoriesTelling
          (Text.trimWhere_eq_self_iff.mp pathTrimmed).1 keptLast
    have givenName :
        given? (some (directories ++ '/' :: name)) = some (directories ++ '/' :: name) := by
      refine given?_of_trimmed (by simp) ?_
      refine trim_append directoriesTelling (List.cons_ne_nil '/' name) keptFirst ?_
      rw [List.getLast?_cons_of_ne_nil nameTelling]
      exact (Text.trimWhere_eq_self_iff.mp nameTrimmed).2
    have last : lastPiece (directories ++ '/' :: name) = name := by
      rw [lastPiece_append_cons rfl, lastPiece_of_plain plain]
    apply resolve_congr
    rw [withinDirectory, withinDirectory, givenName, given?_of_trimmed nameTelling nameTrimmed,
      startDirectory, startDirectory, given?_of_trimmed pathTelling pathTrimmed, givenPath]
    dsimp only
    rw [if_pos (startsWithSeparator_append starts _), startsWithSeparator_of_plain plain,
      leadingSegments_append_cons plain, last, segments_append starts, ← Path.below_append]
    rfl
  · intro path other telling otherTelling same renderedFileName
    apply resolve_congr
    rw [startDirectory, startDirectory, given?_of_telling telling, given?_of_telling otherTelling]
    dsimp only
    rw [same]

theorem versions_stand_in_either_directive :
    Text.trim "api\\.//v 1".toList = "api\\.//v 1".toList ∧
      Text.trimEnd "\\../beta".toList = "\\../beta".toList ∧
      Text.trim "x y.go".toList = "x y.go".toList ∧
      resolve shopSettings .kebab "ts".toList "usecase.tmpl".toList "User".toList
          (some "api\\.//v 1".toList) (some "\\../beta/x y.go".toList) =
        resolve shopSettings .kebab "ts".toList "usecase.tmpl".toList "User".toList
          (some "api\\.//v 1\\../beta".toList) (some "x y.go".toList) ∧
      resolve shopSettings .kebab "ts".toList "usecase.tmpl".toList "User".toList
          (some "api\\.//v 1".toList) none =
        resolve shopSettings .kebab "ts".toList "usecase.tmpl".toList "User".toList
          (some " /api/v 1\\. ".toList) none := by
  have pathTrimmed : Text.trim "api\\.//v 1".toList = "api\\.//v 1".toList := by
    decide +kernel
  have ends : Text.trimEnd "\\../beta".toList = "\\../beta".toList := by
    decide +kernel
  have nameTrimmed : Text.trim "x y.go".toList = "x y.go".toList := by
    decide +kernel
  rcases
      directories_stand_in_either_directive shopSettings .kebab "ts".toList "usecase.tmpl".toList
        "User".toList with
    ⟨moved, alike⟩
  refine ⟨pathTrimmed, ends, nameTrimmed, ?moved, ?alike⟩
  case moved =>
    exact
      moved "api\\.//v 1".toList "\\../beta".toList "x y.go".toList (by decide) pathTrimmed rfl ends
        (by decide) nameTrimmed (by decide)
  case alike =>
    exact
      alike "api\\.//v 1".toList " /api/v 1\\. ".toList (by decide +kernel) (by decide +kernel)
        (by decide +kernel) none

end Scaffold.Location
