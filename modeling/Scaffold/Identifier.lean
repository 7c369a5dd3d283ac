import Scaffold.Text.Case

/-!
# Identifiers

Names of generated code are derived from names of the database by their underscore-separated
segments. An identifier consists of letters, digits and underscores and does not start with a digit.
-/

namespace Scaffold.Identifier

/-- The first character in upper case and the others in lower case. -/
def titleCase : Text → Text
  | [] => []
  | first :: rest => Text.upperForm first ++ Text.lowerCaseEach rest

/-- The first character in upper case and the others as they are. -/
def capitalized : Text → Text
  | [] => []
  | first :: rest => Text.upperForm first ++ rest

/-- The segments of a name between its underscores. -/
def segments (name : Text) : List Text :=
  Text.pieces (· == '_') name

/-- A segment of a field name, where the segment `id` is an acronym. -/
def fieldSegment (segment : Text) : Text :=
  if segment = ['i', 'd'] then ['I', 'D'] else titleCase segment

/-- The field name of a column, such as `UserID` for `user_id`. -/
def fieldName (column : Text) : Text :=
  (segments column).flatMap fieldSegment

/-- The segments of a name, each with a capital first letter and without the underscores. -/
def pascalCase (name : Text) : Text :=
  (segments name).flatMap capitalized

/-- Whether a name may start with this character. -/
def isFirst (character : Char) : Bool :=
  Text.isLetter character || character == '_'

/-- Whether a name may go on with this character. -/
def isFollowing (character : Char) : Bool :=
  Text.isLetter character || Text.isNumeric character || character == '_'

/-- Whether a text is an identifier. -/
def isIdentifier : Text → Bool
  | [] => false
  | first :: rest => isFirst first && rest.all isFollowing

end Scaffold.Identifier
