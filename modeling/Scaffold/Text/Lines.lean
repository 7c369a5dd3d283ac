import Scaffold.Text.Basic

/-!
# Lines

A line ends at a line feed, which may follow a carriage return; both belong to the ending. Text
after the last line feed is a line too, unless it is empty, and keeps a carriage return that ends
it. `written` is the reverse direction: it ends every line with one line feed.
-/

namespace Scaffold.Text

/-- A line without the carriage return of its ending. -/
def withoutReturn (line : Text) : Text :=
  match line.reverse with
  | '\r' :: start => start.reverse
  | _ => line

/-- The lines among the pieces of a text between line feeds. -/
def linesOfPieces : List Text → List Text
  | [] => []
  | [last] => if last.isEmpty then [] else [last]
  | line :: next :: others => withoutReturn line :: linesOfPieces (next :: others)

/-- The lines of a text without their endings. -/
def lines (text : Text) : List Text :=
  linesOfPieces (pieces (· == '\n') text)

/-- The lines of a list, each ended by one line feed. -/
def written (lines : List Text) : Text :=
  lines.flatMap (· ++ ['\n'])

@[simp]
theorem written_nil :
    written [] = [] :=
  rfl

@[simp]
theorem written_cons
    (line : Text)
    (others : List Text) :
    written (line :: others) = line ++ '\n' :: written others := by
  simp [written]

theorem written_append
    (first second : List Text) :
    written (first ++ second) = written first ++ written second :=
  List.flatMap_append

end Scaffold.Text
