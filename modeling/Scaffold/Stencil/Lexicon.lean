import Scaffold.Text.Basic

/-!
# Words of stencils

The smallest parts of what is written inside a hole: blanks, symbols, and words made of symbols.
-/

namespace Scaffold.Stencil

/-- Whether a character may stand between the parts of a hole. -/
def isSpace (character : Char) : Bool :=
  character == ' ' || character == '\t' || character == '\n' || character == '\r'

/-- Whether a character indents a line. -/
def isIndentation (character : Char) : Bool :=
  character == ' ' || character == '\t'

/-- Whether a character ends a line. -/
def isLineEnd (character : Char) : Bool :=
  character == '\n' || character == '\r'

/-- A text without the blanks at its start. -/
def skipSpace (text : Text) : Text :=
  text.dropWhile isSpace

/-- Whether a character belongs to words and to the names of other stencils. -/
def isLetter (character : Char) : Bool :=
  character.isAlphanum || character == '_' || character == '-' || character == '$' ||
    0x80 ≤ character.toNat

/-- Whether a character may stand in a word. -/
def isSymbol (character : Char) : Bool :=
  isLetter character || character == ':'

/-- Whether a character may stand in the name of another stencil. -/
def isNameSymbol (character : Char) : Bool :=
  isLetter character || character == '/' || character == '.' || character == '@'

/-- The longest run of characters that satisfy `belongs`, unless it is empty, and the rest. -/
def run? (belongs : Char → Bool) (text : Text) : Option (Text × Text) :=
  match text.takeWhile belongs with
  | [] => none
  | word => some (word, text.dropWhile belongs)

/-- A word at the start of a text. -/
def word? (text : Text) : Option (Text × Text) :=
  run? isSymbol text

/-- Whether a text starts with a symbol. -/
def startsWithSymbol : Text → Bool
  | [] => false
  | character :: _ => isSymbol character

/-- The text after `keyword`, when no word goes on there. -/
def keyword? (keyword : Text) (text : Text) : Option Text :=
  match Text.after? keyword text with
  | some rest => if startsWithSymbol rest then none else some rest
  | none => none

/-- The content of single quotes in which backslashes protect quotes, and the rest. -/
def quotedContent? : Text → Option (Text × Text)
  | [] => none
  | '\\' :: '\'' :: rest =>
    (quotedContent? rest).map fun (content, rest) => ('\\' :: '\'' :: content, rest)
  | '\'' :: rest => some ([], rest)
  | character :: rest =>
    (quotedContent? rest).map fun (content, rest) => (character :: content, rest)

/-- The name of another stencil: a run of symbols, or a text in single quotes that keeps them. -/
def stencilName? (text : Text) : Option (Text × Text) :=
  match text with
  | '\'' :: rest =>
    match quotedContent? rest with
    | some ([], _) => none
    | some (content, rest) => some ('\'' :: content ++ ['\''], rest)
    | none => none
  | _ => run? isNameSymbol text

end Scaffold.Stencil
