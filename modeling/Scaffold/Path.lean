import Scaffold.Text.Basic

/-!
# Paths

A path is kept as it was written, because reports show it that way. It is read as a sequence of
components: a leading `/` is the root, a leading `.` is the current directory, `..` is the parent
directory, and every other segment between slashes is a name. Empty segments, and `.` anywhere but
at the start, stand for nothing. Joining never removes a component of its first path, unless the
second path is absolute and replaces it.
-/

namespace Scaffold

/-- A path as it was written. -/
structure Path where
  text : Text
  deriving DecidableEq, Repr

namespace Path

/-- One step of a path. -/
inductive Component where
  | root
  | current
  | parent
  | name (text : Text)
  deriving DecidableEq, Repr

/-- The path that has no component. -/
def empty : Path :=
  ⟨[]⟩

/-- A path written as a literal. -/
def of (literal : String) : Path :=
  ⟨literal.toList⟩

/-- Whether a path has an empty text. -/
def isEmpty (path : Path) : Bool :=
  path.text.isEmpty

/-- Whether a path starts at the root. -/
def isAbsolute (path : Path) : Bool :=
  ['/'].isPrefixOf path.text

/-- Two paths, one below the other. An absolute second path replaces the first. -/
def join (path next : Path) : Path :=
  if next.isAbsolute then
    next
  else if path.text.isEmpty || ['/'].isSuffixOf path.text then
    ⟨path.text ++ next.text⟩
  else
    ⟨path.text ++ '/' :: next.text⟩

/-- A path followed by the segment `name`. -/
def child (path : Path) (name : Text) : Path :=
  path.join ⟨name⟩

/-- The start of a path before its body: the root, the current directory or nothing. -/
def head (path : Path) : Text :=
  match path.text with
  | '/' :: _ => ['/']
  | ['.'] => ['.']
  | '.' :: '/' :: _ => ['.']
  | _ => []

/-- The segments between slashes after the start of a path. -/
def bodySegments (path : Path) : List Text :=
  Text.pieces (· == '/') (path.text.drop path.head.length)

/-- Whether a segment of the body stands for nothing. -/
def isSilent (segment : Text) : Bool :=
  segment.isEmpty || segment == ['.']

/-- The body without the silent segments at its end. -/
def trimmedBody (segments : List Text) : List Text :=
  (segments.reverse.dropWhile isSilent).reverse

/-- The component that a segment of the body stands for. -/
def componentOf? (segment : Text) : Option Component :=
  if isSilent segment then
    none
  else if segment = ['.', '.'] then
    some .parent
  else
    some (.name segment)

/-- The component that the start of a path stands for. -/
def headComponents (path : Path) : List Component :=
  match path.head with
  | ['/'] => [.root]
  | ['.'] => [.current]
  | _ => []

/-- The components of a path, from the first to the last. -/
def components (path : Path) : List Component :=
  path.headComponents ++ path.bodySegments.filterMap componentOf?

/-- The path without its last component, written as before. -/
def parent? (path : Path) : Option Path :=
  match (trimmedBody path.bodySegments).reverse with
  | _ :: before =>
    some ⟨path.head ++ Text.joined ['/'] (trimmedBody before.reverse)⟩
  | [] => if path.head = ['.'] then some empty else none

/-- The name that a path ends in. -/
def fileName? (path : Path) : Option Text :=
  match (trimmedBody path.bodySegments).getLast? with
  | some segment => if segment = ['.', '.'] then none else some segment
  | none => none

/-- A file name before its last dot and after it. A name that starts with its only dot has no
extension. -/
def splitAtDot (name : Text) : Text × Option Text :=
  let tail := (name.reverse.takeWhile (· != '.')).reverse
  let stem := name.take (name.length - tail.length - 1)
  if tail.length = name.length || stem.isEmpty || name == ['.', '.'] then
    (name, none)
  else
    (stem, some tail)

/-- The file name without its extension. -/
def fileStem? (path : Path) : Option Text :=
  path.fileName?.map fun name => (splitAtDot name).1

/-- The part of the file name after its last dot. -/
def extension? (path : Path) : Option Text :=
  path.fileName?.bind fun name => (splitAtDot name).2

/-- The body after its first `count` components. -/
def bodyAfter : (count : Nat) → List Text → List Text
  | 0, segments => segments.dropWhile isSilent
  | _ + 1, [] => []
  | count + 1, segment :: segments =>
    if isSilent segment then
      bodyAfter (count + 1) segments
    else
      bodyAfter count segments

/-- The path below `base`, written as before, when the components of `base` start the path. -/
def relativeTo? (path base : Path) : Option Path :=
  let start := base.components
  if start.isPrefixOf path.components then
    if start.isEmpty then
      some ⟨path.head ++ Text.joined ['/'] (trimmedBody path.bodySegments)⟩
    else
      let body := bodyAfter (start.length - path.headComponents.length) path.bodySegments
      some ⟨Text.joined ['/'] (trimmedBody body)⟩
  else
    none

end Path

end Scaffold
