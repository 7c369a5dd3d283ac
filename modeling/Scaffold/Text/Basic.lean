/-!
# Text as a list of characters

Every text of the library is a list of characters, so that recursion and induction follow the
characters one by one. This module holds the operations that do not depend on what a character is:
cutting at separators, joining, searching, trimming, and the order by code point. Trimming keeps the
middle of a text untouched, and cutting loses nothing but the separators (`joined_pieces`). Where a
text occurs in another is counted in bytes of UTF-8, because diagnostics point into files that way.
-/

namespace Scaffold

/-- A text is the list of its characters. -/
abbrev Text := List Char

namespace Text

/-- The pieces of a text between the characters that separate them. There is always one piece. -/
def pieces (isSeparator : Char → Bool) : Text → List Text
  | [] => [[]]
  | character :: rest =>
    if isSeparator character then
      [] :: pieces isSeparator rest
    else
      match pieces isSeparator rest with
      | [] => [[character]]
      | piece :: others => (character :: piece) :: others

/-- The texts of a list, one after the other, with `separator` between neighbours. -/
def joined (separator : Text) : List Text → Text
  | [] => []
  | [text] => text
  | text :: next :: others => text ++ separator ++ joined separator (next :: others)

/-- Whether `needle` stands somewhere in a text. The empty text stands everywhere. -/
def contains (needle : Text) : Text → Bool
  | [] => needle.isEmpty
  | character :: rest =>
    needle.isPrefixOf (character :: rest) || contains needle rest

/-- The text after `start`, when it begins with it. -/
def after? : (start : Text) → Text → Option Text
  | [], text => some text
  | _ :: _, [] => none
  | expected :: start, character :: rest =>
    if expected = character then after? start rest else none

/-- The text before the first occurrence of `mark` and the text after it. -/
def cutAt? (mark : Text) : Text → Option (Text × Text)
  | [] => if mark.isEmpty then some ([], []) else none
  | character :: rest =>
    match after? mark (character :: rest) with
    | some remainder => some ([], remainder)
    | none => (cutAt? mark rest).map fun (before, remainder) => (character :: before, remainder)

/-- A text without the trailing characters that satisfy `drops`. -/
def trimEndWhere (drops : Char → Bool) (text : Text) : Text :=
  (text.reverse.dropWhile drops).reverse

/-- A text without the leading and trailing characters that satisfy `drops`. -/
def trimWhere (drops : Char → Bool) (text : Text) : Text :=
  trimEndWhere drops (text.dropWhile drops)

/-- Whether one text stands before or at another in code point order. -/
def precedes (left right : Text) : Bool :=
  !decide (right < left)

/-- The number of bytes that a text takes in UTF-8. -/
def byteLength (text : Text) : Nat :=
  text.foldr (fun character length => character.utf8Size + length) 0

/-- The byte offsets of `needle` in a text that starts at `offset`, after `skipped` characters that
belong to an earlier occurrence. -/
def occurrencesFrom (needle : Text) : (offset skipped : Nat) → Text → List Nat
  | _, _, [] => []
  | offset, skipped + 1, character :: rest =>
    occurrencesFrom needle (offset + character.utf8Size) skipped rest
  | offset, 0, character :: rest =>
    if needle.isPrefixOf (character :: rest) then
      offset :: occurrencesFrom needle (offset + character.utf8Size) (needle.length - 1) rest
    else
      occurrencesFrom needle (offset + character.utf8Size) 0 rest

/-- The byte offsets of the occurrences of `needle` in a text. -/
def occurrences (needle text : Text) : List Nat :=
  occurrencesFrom needle 0 0 text

theorem pieces_ne_nil
    (isSeparator : Char → Bool)
    (text : Text) :
    pieces isSeparator text ≠ [] := by
  cases text with
  | nil => simp [pieces]
  | cons character rest =>
    unfold pieces
    split
    · simp
    · split <;> simp

@[simp]
theorem joined_cons_cons
    (separator text next : Text)
    (others : List Text) :
    joined separator (text :: next :: others) =
      text ++ separator ++ joined separator (next :: others) :=
  rfl

/-- Joining the pieces of a text with the one character that separates them gives it back. -/
theorem joined_pieces
    (separator : Char)
    (text : Text) :
    joined [separator] (pieces (· == separator) text) = text := by
  induction text with
  | nil => rfl
  | cons character rest hypothesis =>
    cases splits : pieces (· == separator) rest with
    | nil => exact absurd splits (pieces_ne_nil _ _)
    | cons piece others =>
      rw [splits] at hypothesis
      by_cases same : character = separator
      · subst same
        simp [pieces, splits, hypothesis]
      · cases others with
        | nil =>
          simp only [joined] at hypothesis
          simp [pieces, splits, same, joined, hypothesis]
        | cons next more =>
          simp only [joined_cons_cons] at hypothesis
          simp only [pieces, splits, beq_iff_eq, same, if_false, joined_cons_cons]
          simp only [List.cons_append, hypothesis]

theorem byteLength_cons
    (character : Char)
    (text : Text) :
    byteLength (character :: text) = character.utf8Size + byteLength text :=
  rfl

@[simp]
theorem byteLength_append
    (left right : Text) :
    byteLength (left ++ right) = byteLength left + byteLength right := by
  induction left with
  | nil => simp [byteLength]
  | cons character left hypothesis =>
    simp only [List.cons_append, byteLength_cons, hypothesis, Nat.add_assoc]

end Text

end Scaffold
