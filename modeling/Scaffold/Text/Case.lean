import Scaffold.Text.Letter
import Scaffold.Text.CaseTable

/-!
# Upper and lower case

A character may have several characters as its upper-case or lower-case form. Texts are upper-cased
character by character. Lower-casing a whole text also looks at the neighbourhood of a capital
sigma, which becomes a final sigma at the end of a word; lower-casing single characters does not.
-/

namespace Scaffold.Text

namespace CaseRun

/-- The image of a code point, when the run reaches it. -/
def image? (run : CaseRun) (code : Nat) : Option Nat :=
  if run.first ≤ code ∧ code ≤ run.last ∧ (code - run.first) % run.step = 0 then
    some (code + run.distance).toNat
  else
    none

end CaseRun

/-- The image of a character beyond ASCII under a case mapping, itself when it has none. -/
def mappedBy
    (runs : List CaseRun)
    (expansions : List (Nat × List Nat))
    (character : Char) :
    Text :=
  match expansions.lookup character.toNat with
  | some codes => codes.map Char.ofNat
  | none =>
    match runs.findSome? (·.image? character.toNat) with
    | some code => [Char.ofNat code]
    | none => [character]

/-- The upper-case form of a character. -/
def upperForm (character : Char) : Text :=
  if character.toNat < 0x80 then
    [character.toUpper]
  else
    mappedBy upperRuns upperExpansions character

/-- The lower-case form of a character, whatever stands around it. -/
def lowerForm (character : Char) : Text :=
  if character.toNat < 0x80 then
    [character.toLower]
  else
    mappedBy lowerRuns lowerExpansions character

/-- A text in upper case. -/
def upperCase (text : Text) : Text :=
  text.flatMap upperForm

/-- A text in lower case, each character taken by itself. -/
def lowerCaseEach (text : Text) : Text :=
  text.flatMap lowerForm

/-- Whether the first character that is not case-ignorable is a cased one. -/
def reachesCased (text : Text) : Bool :=
  match text.dropWhile (inRanges caseIgnorableRanges) with
  | [] => false
  | character :: _ => inRanges casedRanges character

/-- The lower-case form of a text that follows `before`, whose characters are in reverse order. -/
def lowerCaseAfter (before : Text) : Text → Text
  | [] => []
  | character :: rest =>
    let image :=
      if character = 'Σ' then
        if reachesCased before && !reachesCased rest then ['ς'] else ['σ']
      else
        lowerForm character
    image ++ lowerCaseAfter (character :: before) rest

/-- A text in lower case, with a final sigma at the end of a word. -/
def lowerCase (text : Text) : Text :=
  lowerCaseAfter [] text

/-- Whether two texts are equal up to the case of ASCII letters. -/
def foldedEqual (left right : Text) : Bool :=
  left.map Char.toLower == right.map Char.toLower

end Scaffold.Text
