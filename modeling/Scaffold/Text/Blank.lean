import Scaffold.Text.Basic

/-!
# White space

White space is the Unicode property *White_Space*. It surrounds lines, directives and rendered
values, where it is trimmed away, and it separates the words of a line. The words of a text are its
non-empty pieces between white space, so no word is empty and none holds white space.
-/

namespace Scaffold.Text

/-- Whether a character has the Unicode property White_Space. -/
def isBlank (character : Char) : Bool :=
  let code := character.toNat
  (9 ≤ code && code ≤ 13) || code == 0x20 || code == 0x85 || code == 0xA0 || code == 0x1680 ||
    (0x2000 ≤ code && code ≤ 0x200A) || code == 0x2028 || code == 0x2029 || code == 0x202F ||
    code == 0x205F || code == 0x3000

/-- A text without leading white space. -/
def trimStart (text : Text) : Text :=
  text.dropWhile isBlank

/-- A text without trailing white space. -/
def trimEnd (text : Text) : Text :=
  trimEndWhere isBlank text

/-- A text without white space at its ends. -/
def trim (text : Text) : Text :=
  trimWhere isBlank text

/-- The longest runs of characters that are not white space, in order. -/
def words (text : Text) : List Text :=
  (pieces isBlank text).filter (!·.isEmpty)

end Scaffold.Text
