import Scaffold.Proofs.CaseMapping
import Scaffold.Proofs.PathComponents

/-!
# Where output can go

The output of a template goes to a place below a base directory, which is the project root when a
path directive is given and the directory of the category otherwise. Everything that a location adds
to it is relative, whichever directive or convention it comes from: the segments of the path
directive, the leading segments of a file name, a file name as it stands, and the names that the
naming convention chooses. So the components of the base directory stay in front, no directive
replaces them, and only a segment `..` of a directive leads back out of the directory.

Directives are trimmed before they are cut into segments. A directive that is `..` between blanks
therefore leads out as well.
-/

namespace Scaffold

/-! ## Names that conventions choose -/

namespace Identifier

theorem isFollowing_of_mem
    {name : Text}
    (named : isIdentifier name = true)
    {character : Char}
    (isMember : character ∈ name) :
    isFollowing character = true := by
  rcases name with _ | ⟨first, rest⟩
  · cases isMember
  · rw [isIdentifier, Bool.and_eq_true, List.all_eq_true] at named
    rcases List.mem_cons.mp isMember with rfl | later
    · rcases (Bool.or_eq_true _ _).mp named.1 with letter | underscore
      · simp [isFollowing, letter]
      · simp [isFollowing, underscore]
    · exact named.2 character later

end Identifier

namespace Path

theorem mem_of_mem_splitAtDot
    {name : Text}
    {character : Char}
    (isMember : character ∈ (splitAtDot name).1) :
    character ∈ name := by
  rw [splitAtDot] at isMember
  split at isMember
  · exact isMember
  · exact List.mem_of_mem_take isMember

/-- The stem of a path holds characters of the path only. -/
theorem mem_of_mem_fileStem?
    {path : Path}
    {stem : Text}
    (stands : path.fileStem? = some stem)
    {character : Char}
    (isMember : character ∈ stem) :
    character ∈ path.text := by
  rcases Option.map_eq_some_iff.mp stands with ⟨name, named, rfl⟩
  have inName := mem_of_mem_splitAtDot isMember
  rw [fileName?] at named
  split at named
  next segment last =>
    split at named
    · cases named
    · cases named
      have inBody : name ∈ path.bodySegments := by
        have kept := List.mem_of_getLast? last
        rw [trimmedBody, List.mem_reverse] at kept
        exact List.mem_reverse.mp ((List.dropWhile_sublist isSilent).mem kept)
      rw [bodySegments] at inBody
      exact List.mem_of_mem_drop
        (Text.mem_and_not_isSeparator_of_mem_pieces inBody character inName).1
  · cases named

end Path

namespace NamingConvention

/-- A convention whose names are single segments that do not turn back. -/
structure IsFlat (naming : NamingConvention) : Prop where
  stem :
    ∀ entity,
      Identifier.isIdentifier entity = true →
        '/' ∉ naming.fileStem entity ∧ '.' ∉ naming.fileStem entity
  repositoryStem : '/' ∉ naming.repositoryStem
  usecaseSuffix : '/' ∉ naming.usecaseSuffix

/-- The signs of paths do not come into an identifier in lower case. -/
theorem sign_not_mem_lowerCase
    {entity : Text}
    (named : Identifier.isIdentifier entity = true) :
    '/' ∉ Text.lowerCase entity ∧ '.' ∉ Text.lowerCase entity := by
  constructor
  · intro isMember
    have inEntity := Text.sign_mem_of_mem_lowerCase rfl isMember
    exact absurd (Identifier.isFollowing_of_mem named inEntity) (by decide)
  · intro isMember
    have inEntity := Text.sign_mem_of_mem_lowerCase rfl isMember
    exact absurd (Identifier.isFollowing_of_mem named inEntity) (by decide)

theorem isFlat_go :
    go.IsFlat where
  stem := fun _ named => sign_not_mem_lowerCase named
  repositoryStem := by decide
  usecaseSuffix := by decide

theorem isFlat_kebab :
    kebab.IsFlat where
  stem := by
    intro entity named
    have hyphened {sign : Char} (other : '-' ≠ sign) (absent : sign ∉ Text.lowerCase entity) :
        sign ∉ kebab.fileStem entity := by
      intro isMember
      rcases List.mem_map.mp isMember with ⟨character, inside, image⟩
      split at image
      · exact other image
      · exact absent (image ▸ inside)
    rcases sign_not_mem_lowerCase named with ⟨slash, dot⟩
    exact ⟨hyphened (by decide) slash, hyphened (by decide) dot⟩
  repositoryStem := by decide
  usecaseSuffix := by decide

theorem slash_not_mem_fileNamed
    {stem extension : Text}
    (flatStem : '/' ∉ stem)
    (flatExtension : '/' ∉ extension) :
    '/' ∉ fileNamed stem extension := by
  simp [fileNamed, flatStem, flatExtension]

variable {naming : NamingConvention}

/-- A flat convention gives a file name of one segment. -/
theorem IsFlat.slash_not_mem_fileName
    (flat : naming.IsFlat)
    {entity template extension : Text}
    (named : Identifier.isIdentifier entity = true)
    (flatTemplate : '/' ∉ template)
    (flatExtension : '/' ∉ extension)
    (category : Category) :
    '/' ∉ (naming.fallbackName category entity template extension).fileName := by
  have stem := (flat.stem entity named).1
  cases category with
  | entity => exact slash_not_mem_fileNamed stem flatExtension
  | handler => exact slash_not_mem_fileNamed stem flatExtension
  | payload => exact slash_not_mem_fileNamed stem flatExtension
  | repository => exact slash_not_mem_fileNamed flat.repositoryStem flatExtension
  | usecase =>
    apply slash_not_mem_fileNamed ?_ flatExtension
    simp [stem, flat.usecaseSuffix]
  | other =>
    apply slash_not_mem_fileNamed ?_ flatExtension
    cases stands : (Path.mk template).fileStem? with
    | none => exact flatTemplate
    | some own =>
      intro isMember
      exact flatTemplate (Path.mem_of_mem_fileStem? stands isMember)

/-- A flat convention gives a directory of one segment, which does not turn back. -/
theorem IsFlat.subdirectory
    (flat : naming.IsFlat)
    {entity template extension : Text}
    (named : Identifier.isIdentifier entity = true)
    {category : Category}
    {name : Text}
    (chosen :
      (naming.fallbackName category entity template extension).subdirectory = some name) :
    '/' ∉ name ∧ name ≠ ['.', '.'] := by
  cases category with
  | repository =>
    cases chosen
    rcases flat.stem entity named with ⟨slash, dot⟩
    refine ⟨slash, ?_⟩
    intro back
    exact dot (back ▸ List.mem_cons_self)
  | entity => cases chosen
  | handler => cases chosen
  | payload => cases chosen
  | usecase => cases chosen
  | other => cases chosen

end NamingConvention

namespace Location

open Disk (segmentsOf)

/-! ## What directives and conventions add to a path -/

/-- A directive is given when it is not blank, without the white space at its ends. -/
theorem given?_eq_some_iff
    (rendered : Option Text)
    (given : Text) :
    given? rendered = some given ↔
      ∃ text, rendered = some text ∧ Text.trim text ≠ [] ∧ given = Text.trim text := by
  cases rendered with
  | none => simp [given?]
  | some text =>
    rw [given?]
    by_cases blank : Text.trim text = []
    · simp [blank]
    · rw [if_neg (by simpa using blank)]
      constructor
      · rintro ⟨⟩
        exact ⟨text, rfl, blank, rfl⟩
      · rintro ⟨other, ⟨⟩, -, rfl⟩
        rfl

/-- A directive has a segment that turns back, once it is trimmed. -/
def TurnsBack (rendered : Option Text) : Prop :=
  ∃ text, given? rendered = some text ∧ ['.', '.'] ∈ Text.pieces isSeparator text

/-- A text is added to a path on behalf of a directive: it does not replace the path, and it turns
back only where the directive does. -/
structure AddedFor (rendered : Option Text) (part : Text) : Prop where
  relative : Path.IsRelative part
  turns : ['.', '.'] ∈ segmentsOf ⟨part⟩ → TurnsBack rendered

theorem isRelative_of_head?_ne
    {part : Text}
    (starts : part.head? ≠ some '/') :
    Path.IsRelative part := by
  rcases part with _ | ⟨first, rest⟩
  · rfl
  · have other : ('/' == first) = false := by
      rw [beq_eq_false_iff_ne]
      rintro rfl
      exact starts rfl
    simp [Path.IsRelative, Path.isAbsolute, List.isPrefixOf, other]

/-- A text without a slash is one segment. -/
theorem segmentsOf_of_flat
    {part : Text}
    (flat : '/' ∉ part) :
    segmentsOf ⟨part⟩ = [part] := by
  apply Text.pieces_of_plain
  intro character isMember
  rw [beq_eq_false_iff_ne]
  rintro rfl
  exact flat isMember

theorem isRelative_of_flat
    {part : Text}
    (flat : '/' ∉ part) :
    Path.IsRelative part := by
  apply isRelative_of_head?_ne
  intro starts
  exact flat (List.mem_of_head? starts)

/-- A name of one segment that does not turn back is added for any directive. -/
theorem addedFor_of_flat
    (rendered : Option Text)
    {part : Text}
    (flat : '/' ∉ part)
    (ahead : part ≠ ['.', '.']) :
    AddedFor rendered part where
  relative := isRelative_of_flat flat
  turns := by
    rw [segmentsOf_of_flat flat, List.mem_singleton]
    intro back
    exact absurd back.symm ahead

theorem isSeparator_of_slash
    (character : Char)
    (slash : (character == '/') = true) :
    isSeparator character = true := by
  simp [isSeparator, slash]

/-- The pieces of a directive between separators are added for it. -/
theorem addedFor_of_mem_pieces
    {rendered : Option Text}
    {text part : Text}
    (given : given? rendered = some text)
    (isPiece : part ∈ Text.pieces isSeparator text) :
    AddedFor rendered part := by
  have flat : '/' ∉ part := by
    intro isMember
    have separates := (Text.mem_and_not_isSeparator_of_mem_pieces isPiece '/' isMember).2
    cases separates
  constructor
  · exact isRelative_of_flat flat
  · rw [segmentsOf_of_flat flat, List.mem_singleton]
    rintro rfl
    exact ⟨text, given, isPiece⟩

/-- A directive that does not start with a separator can be added as it stands. -/
theorem addedFor_of_given
    {rendered : Option Text}
    {text : Text}
    (given : given? rendered = some text)
    (starts : startsWithSeparator text = false) :
    AddedFor rendered text := by
  constructor
  · apply isRelative_of_head?_ne
    intro slash
    rcases List.head?_eq_some_iff.mp slash with ⟨rest, rfl⟩
    cases starts
  · intro back
    refine ⟨text, given, Text.mem_pieces_of_finer isSeparator_of_slash ?_ back⟩
    simp [isSeparator]

/-- The directory that a location starts from, before any directive adds to it. -/
def baseDirectory (settings : Settings) (category : Category) (renderedPath : Option Text) : Path :=
  match given? renderedPath with
  | some _ => settings.root
  | none => settings.fallbackDirectory category

/-- A path directive adds its segments to the base directory. -/
theorem startDirectory_eq_below
    (settings : Settings)
    (category : Category)
    (renderedPath : Option Text) :
    ∃ parts,
      startDirectory settings category renderedPath =
          below (baseDirectory settings category renderedPath) parts ∧
        ∀ part ∈ parts, AddedFor renderedPath part := by
  rw [startDirectory, baseDirectory]
  cases given : given? renderedPath with
  | none => exact ⟨[], rfl, by simp⟩
  | some text =>
    refine ⟨segments text, rfl, ?_⟩
    intro part isMember
    exact addedFor_of_mem_pieces given (List.mem_filter.mp isMember).1

theorem lastPiece_mem_pieces
    (text : Text) :
    lastPiece text ∈ Text.pieces isSeparator text := by
  rw [lastPiece]
  cases last : (Text.pieces isSeparator text).getLast? with
  | none => exact absurd (List.getLast?_eq_none_iff.mp last) (Text.pieces_ne_nil isSeparator text)
  | some piece => exact List.mem_of_getLast? last

/-- A name that ends in a file does not turn back, when it is one segment. -/
theorem ne_back_of_endsInName
    {fileName : Text}
    (ends : endsInName fileName = true) :
    fileName ≠ ['.', '.'] := by
  rintro rfl
  cases ends

variable {naming : NamingConvention} {extension template entity : Text}

/-- A file name directive, or the naming convention, adds relative parts to a directory, the last of
which is the file name. -/
theorem path_withinDirectory_eq_below
    (flat : naming.IsFlat)
    (flatTemplate : '/' ∉ template)
    (flatExtension : '/' ∉ extension)
    (named : Identifier.isIdentifier entity = true)
    (directory : Path)
    (renderedFileName : Option Text)
    {location : Location}
    (located :
      withinDirectory naming extension template entity directory renderedFileName = location)
    (ends : endsInName location.fileName = true) :
    ∃ parts,
      location.path = below directory (parts ++ [location.fileName]) ∧
        ∀ part ∈ parts ++ [location.fileName], AddedFor renderedFileName part := by
  simp only [List.forall_mem_append, List.forall_mem_singleton]
  rw [withinDirectory] at located
  cases given : given? renderedFileName with
  | some text =>
    rw [given] at located
    dsimp only at located
    split at located
    · subst located
      refine ⟨leadingSegments text, ?_, ?_, ?_⟩
      · rw [Path.below_append]
        rfl
      · intro part isMember
        have isPiece := List.mem_of_mem_dropLast (List.mem_filter.mp isMember).1
        exact addedFor_of_mem_pieces given isPiece
      · exact addedFor_of_mem_pieces given (lastPiece_mem_pieces text)
    next starts =>
      subst located
      refine ⟨[], rfl, by simp, ?_⟩
      exact addedFor_of_given given (by simpa using starts)
  | none =>
    rw [given] at located
    dsimp only at located
    have flatName :=
      flat.slash_not_mem_fileName named flatTemplate flatExtension
        (Category.ofTemplateName template)
    split at located
    next name chosen =>
      subst located
      rcases flat.subdirectory named chosen with ⟨flatDirectory, ahead⟩
      refine ⟨[name], rfl, ?_, addedFor_of_flat _ flatName (ne_back_of_endsInName ends)⟩
      simpa using addedFor_of_flat renderedFileName flatDirectory ahead
    next =>
      subst located
      exact ⟨[], rfl, by simp, addedFor_of_flat _ flatName (ne_back_of_endsInName ends)⟩

/-- A file name that ends in a name does so as a path. -/
theorem segmentsOf_of_endsInName
    {fileName : Text}
    (ends : endsInName fileName = true) :
    ∃ others name,
      segmentsOf ⟨fileName⟩ = others ++ [name] ∧
        name.isEmpty = false ∧ name ≠ ['.'] ∧ name ≠ ['.', '.'] := by
  rcases List.eq_nil_or_concat (segmentsOf ⟨fileName⟩) with none | ⟨others, name, parted⟩
  · exact absurd none (Text.pieces_ne_nil _ _)
  rw [List.concat_eq_append] at parted
  have last : (segmentsOf ⟨fileName⟩).getLast? = some name := by
    rw [parted, List.getLast?_concat]
  have same : lastPiece fileName = lastPiece name := by
    rw [lastPiece, lastPiece, Text.getLast?_pieces_of_finer isSeparator_of_slash last]
  rw [endsInName, same] at ends
  refine ⟨others, name, parted, ?_, ?_, ?_⟩
  · cases name with
    | nil => cases ends
    | cons first rest => rfl
  · rintro rfl
    cases ends
  · rintro rfl
    cases ends

theorem resolve_eq_ok_iff
    (settings : Settings)
    (renderedPath renderedFileName : Option Text)
    (location : Location) :
    resolve settings naming extension template entity renderedPath renderedFileName =
        .ok location ↔
      withinDirectory naming extension template entity
          (startDirectory settings (Category.ofTemplateName template) renderedPath)
          renderedFileName =
        location ∧
        endsInName location.fileName = true := by
  rw [resolve]
  constructor
  · intro resolved
    split at resolved
    next ends =>
      cases resolved
      exact ⟨rfl, ends⟩
    · cases resolved
  · rintro ⟨rfl, ends⟩
    rw [if_pos ends]

/-- What a location adds to its base directory, ending in the file name. -/
theorem path_of_resolve
    (flat : naming.IsFlat)
    (flatTemplate : '/' ∉ template)
    (flatExtension : '/' ∉ extension)
    (named : Identifier.isIdentifier entity = true)
    {settings : Settings}
    {renderedPath renderedFileName : Option Text}
    {location : Location}
    (resolved :
      resolve settings naming extension template entity renderedPath renderedFileName =
        .ok location) :
    ∃ parts,
      location.path =
          below (baseDirectory settings (Category.ofTemplateName template) renderedPath)
            (parts ++ [location.fileName]) ∧
        ∀ part ∈ parts ++ [location.fileName],
          AddedFor renderedPath part ∨ AddedFor renderedFileName part := by
  rcases (resolve_eq_ok_iff settings renderedPath renderedFileName location).mp resolved with
    ⟨located, ends⟩
  rcases startDirectory_eq_below settings (Category.ofTemplateName template) renderedPath with
    ⟨outer, starts, outerAdded⟩
  rcases
      path_withinDirectory_eq_below flat flatTemplate flatExtension named _ renderedFileName
        located ends with
    ⟨inner, leads, innerAdded⟩
  refine ⟨outer ++ inner, ?_, ?_⟩
  · rw [leads, starts, ← Path.below_append, List.append_assoc]
  · intro part isMember
    rw [List.append_assoc] at isMember
    rcases List.mem_append.mp isMember with inOuter | inInner
    · exact Or.inl (outerAdded part inOuter)
    · exact Or.inr (innerAdded part inInner)

/-- A directive turns back when it does so once it is trimmed. -/
theorem turn_mem_of_turnsBack
    {rendered : Option Text}
    (turns : TurnsBack rendered) :
    ∃ text, rendered = some text ∧ ['.', '.'] ∈ Text.pieces isSeparator (Text.trim text) := by
  rcases turns with ⟨given, gives, isPiece⟩
  rcases (given?_eq_some_iff rendered given).mp gives with ⟨text, rfl, -, rfl⟩
  exact ⟨text, rfl, isPiece⟩

/--
The components of a location extend those of its base directory by directories and a file name, and
none of these is the root. If no directive has a segment that turns back once it is trimmed, no
directory turns back, and on every disk the file lies inside the base directory.
-/
theorem components_extend_base
    {settings : Settings}
    (conventional : naming = .go ∨ naming = .kebab)
    (flatTemplate : '/' ∉ template)
    (flatExtension : ∀ character ∈ extension, isSeparator character = false)
    (named : Identifier.isIdentifier entity = true)
    {renderedPath renderedFileName : Option Text}
    {location : Location}
    (resolved :
      resolve settings naming extension template entity renderedPath renderedFileName =
        .ok location) :
    ∃ directories name,
      location.path.components =
          (baseDirectory settings (Category.ofTemplateName template) renderedPath).components ++
            (directories ++ [.name name]) ∧
        .root ∉ directories ∧
        ((∀ text,
            renderedPath = some text ∨ renderedFileName = some text →
              ['.', '.'] ∉ Text.pieces isSeparator (Text.trim text)) →
          .parent ∉ directories ∧
            ∀ (disk : Disk) (start place : Place),
              disk.place?
                    (baseDirectory settings (Category.ofTemplateName template) renderedPath) =
                  some start →
                disk.place? location.path = some place →
                  ∃ inner, place = start ++ (inner ++ [name])) := by
  have flat : naming.IsFlat := by
    rcases conventional with rfl | rfl
    · exact NamingConvention.isFlat_go
    · exact NamingConvention.isFlat_kebab
  have noSlash : '/' ∉ extension := by
    intro isMember
    cases flatExtension '/' isMember
  have ends :=
    ((resolve_eq_ok_iff settings renderedPath renderedFileName location).mp resolved).2
  rcases path_of_resolve flat flatTemplate noSlash named resolved with ⟨parts, leads, added⟩
  rcases segmentsOf_of_endsInName ends with ⟨others, name, parted, telling, elsewhere, ahead⟩
  have relative : ∀ part ∈ parts ++ [location.fileName], Path.IsRelative part := by
    intro part isMember
    rcases added part isMember with forPath | forFileName
    · exact forPath.relative
    · exact forFileName.relative
  have segments :
      Path.segmentsOfAll (parts ++ [location.fileName]) =
        (Path.segmentsOfAll parts ++ others) ++ [name] := by
    simp [Path.segmentsOfAll, parted]
  have last : Path.componentOf? name = some (.name name) := by
    rw [Path.componentOf?, Path.isSilent, telling, if_neg (by simpa using elsewhere), if_neg ahead]
  rcases
      Path.components_below
        (baseDirectory settings (Category.ofTemplateName template) renderedPath) relative with
    ⟨start, components, current⟩
  rw [← leads, segments, List.filterMap_append, List.filterMap_cons_some last, List.filterMap_nil,
    ← List.append_assoc start] at components
  refine ⟨_, name, components, ?_, ?_⟩
  · rw [List.mem_append, not_or]
    refine ⟨?_, Path.root_not_mem_filterMap _⟩
    intro isMember
    cases current _ isMember
  · intro straight
    have ahead : ['.', '.'] ∉ Path.segmentsOfAll (parts ++ [location.fileName]) := by
      intro isMember
      rcases List.mem_flatMap.mp isMember with ⟨part, inParts, back⟩
      rcases added part inParts with forPath | forFileName
      · rcases turn_mem_of_turnsBack (forPath.turns back) with ⟨text, rendered, isPiece⟩
        exact straight text (Or.inl rendered) isPiece
      · rcases turn_mem_of_turnsBack (forFileName.turns back) with ⟨text, rendered, isPiece⟩
        exact straight text (Or.inr rendered) isPiece
    constructor
    · rw [List.mem_append, not_or, Path.parent_mem_filterMap_iff]
      constructor
      · intro isMember
        cases current _ isMember
      · intro isMember
        rw [segments] at ahead
        exact ahead (List.mem_append_left _ isMember)
    · intro disk base place baseLeads pathLeads
      rw [leads] at pathLeads
      have onward := Disk.follow?_of_place?_below relative baseLeads pathLeads
      apply Disk.below_of_follow? ahead ?_ telling elsewhere onward
      rw [segments, List.getLast?_concat]

/-- A path directive that is `..` behind a blank has no segment that turns back, and leads out of
the project. -/
theorem blank_before_turn_leads_out :
    resolve (.of (Path.of "/app") (Path.of "schema.sql") (Path.of "templates")) .go "go".toList
          "entity.tmpl".toList "User".toList (some " ..".toList) (some "x.go".toList) =
        .ok ⟨Path.of "/app/..", "x.go".toList⟩ ∧
      ['.', '.'] ∉ Text.pieces isSeparator " ..".toList ∧
      ['.', '.'] ∉ Text.pieces isSeparator "x.go".toList ∧
      (Path.of "/app").components = [.root, .name "app".toList] ∧
      Location.path ⟨Path.of "/app/..", "x.go".toList⟩ = Path.of "/app/../x.go" ∧
      (Path.of "/app/../x.go").components =
        [.root, .name "app".toList, .parent, .name "x.go".toList] := by
  decide +kernel

/-- Separators of both kinds, doubled ones among them, in front of directives and inside them. -/
theorem separators_stay_inside :
    resolve (.of (Path.of "app") (Path.of "schema.sql") (Path.of "templates")) .kebab "ts".toList
          "repository.tmpl".toList "Order_Item".toList (some "\\\\/api//./v1 ".toList)
          (some " /sub\\deep/x.ts".toList) =
        .ok ⟨Path.of "app/api/v1/sub/deep", "x.ts".toList⟩ ∧
      ∃ directories name,
        (Path.of "app/api/v1/sub/deep/x.ts").components =
            (Path.of "app").components ++ (directories ++ [.name name]) ∧
          .root ∉ directories ∧ .parent ∉ directories := by
  have resolved :
      resolve (.of (Path.of "app") (Path.of "schema.sql") (Path.of "templates")) .kebab "ts".toList
          "repository.tmpl".toList "Order_Item".toList (some "\\\\/api//./v1 ".toList)
          (some " /sub\\deep/x.ts".toList) =
        .ok ⟨Path.of "app/api/v1/sub/deep", "x.ts".toList⟩ := by
    decide +kernel
  rcases
      components_extend_base (Or.inr rfl) (by decide) (by simp [isSeparator])
        (by decide +kernel) resolved with
    ⟨directories, name, components, noRoot, inside⟩
  have straight :
      ∀ text,
        some "\\\\/api//./v1 ".toList = some text ∨ some " /sub\\deep/x.ts".toList = some text →
          ['.', '.'] ∉ Text.pieces isSeparator (Text.trim text) := by
    intro text rendered
    rcases rendered with same | same
    · cases same
      decide +kernel
    · cases same
      decide +kernel
  exact ⟨resolved, directories, name, components, noRoot, (inside straight).1⟩

end Location

end Scaffold
