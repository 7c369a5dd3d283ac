import Scaffold.Stencil.Tag
import Scaffold.Text.Blank

/-!
# Layout

Tags shape the text around them. A tag may remove all white space before or after it, and a tag that
outputs nothing by itself and stands alone on its line takes the whole line with it: the blanks
before it and the line end after it. Layout removes this white space, so that what is left of the
text is written as it stands.
-/

namespace Scaffold.Stencil

/-- A part of a stencil source whose white space is settled. -/
inductive LaidPiece where
  | text (content : Text)
  | tag (kind : TagKind) (placement : Placement)

/-- What the tags so far do to the text that follows. -/
structure Pending where
  /-- White space is removed. -/
  trims : Bool
  /-- The rest of the line is removed. -/
  endsLine : Bool

/-- Whether a tag outputs nothing by itself, so that its line may vanish. -/
def TagKind.mayStandAlone : TagKind → Bool
  | .output _ => false
  | _ => true

/-- A text without blanks at its start and one line end after them. -/
def withoutLineStart (text : Text) : Text :=
  match text.dropWhile isIndentation with
  | '\r' :: '\n' :: rest => rest
  | '\n' :: rest => rest
  | rest => rest

/-- The last piece with its text changed, if it is a text. The pieces are in reverse order. -/
def withLastText (change : Text → Text) : List LaidPiece → List LaidPiece
  | .text content :: before => .text (change content) :: before
  | pieces => pieces

/-- The pieces laid out so far, in reverse order, and what is pending. -/
structure LayoutState where
  laid : List LaidPiece
  pending : Pending

/-- Lays out a text. -/
def layText (state : LayoutState) (content : Text) (isGap : Bool) : LayoutState :=
  let { trims, endsLine } := state.pending
  if isGap && trims then
    state
  else
    let kept :=
      if trims then Text.trimStart content
      else if endsLine then withoutLineStart content
      else content
    ⟨.text kept :: state.laid, ⟨trims, false⟩⟩

/-- Lays out a tag. -/
def layTag
    (state : LayoutState)
    (tag : Tag)
    (indentation : Text)
    (opensLine closesLine : Bool) :
    LayoutState :=
  let isAlone := tag.kind.mayStandAlone && opensLine && closesLine
  let laid :=
    if tag.trimsBefore then withLastText Text.trimEnd state.laid
    else if isAlone then withLastText (Text.trimEndWhere isIndentation) state.laid
    else state.laid
  let placement : Placement :=
    { indentation := if tag.trimsBefore || indentation.isEmpty then none else some indentation
      isAlone := isAlone && !tag.trimsBefore }
  let trims :=
    match tag.kind with
    | .comment => state.pending.trims
    | _ => tag.trimsAfter
  let endsLine := if tag.kind.mayStandAlone then isAlone else state.pending.endsLine
  ⟨.tag tag.kind placement :: laid, ⟨trims, endsLine⟩⟩

/-- Lays out one piece. -/
def layPiece (state : LayoutState) : Piece → LayoutState
  | .text content isGap => layText state content isGap
  | .tag tag indentation opensLine closesLine =>
    layTag state tag indentation opensLine closesLine

/-- The pieces with their white space settled. -/
def laidOut (pieces : List Piece) : List LaidPiece :=
  (pieces.foldl layPiece ⟨[], ⟨false, false⟩⟩).laid.reverse

end Scaffold.Stencil
