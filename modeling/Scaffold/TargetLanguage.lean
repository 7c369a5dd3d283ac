import Scaffold.ColumnType

/-!
# Target languages

A target language gives every kind of column a type, a way to write a type whose value may be
absent, and the extension of its source files. A nullable column has the wrapped type, unless its
type holds absent values by itself, as text does when the language does not say otherwise.
-/

namespace Scaffold

/-- What generated code needs to know of the language that it is written in. -/
structure TargetLanguage where
  /-- The extension of source files, without a dot. -/
  fileExtension : Text
  /-- The type of a kind of column. -/
  typeName : ColumnType → Text
  /-- The type whose values may be absent. -/
  nullableType : Text → Text
  /-- Whether the type of a kind of column holds absent values by itself. -/
  holdsAbsence : ColumnType → Bool := ColumnType.holdsAbsence

namespace TargetLanguage

/-- The type of a column as it stands in the generated code. -/
def columnType
    (language : TargetLanguage)
    (rawType : Text)
    (nullable : Bool) :
    Text :=
  let kind := ColumnType.classify rawType
  if nullable && !language.holdsAbsence kind then
    language.nullableType (language.typeName kind)
  else
    language.typeName kind

/-- Go, where a pointer may be absent. -/
def go : TargetLanguage where
  fileExtension := "go".toList
  typeName
    | .integer => "int".toList
    | .bigInteger => "int64".toList
    | .text => "string".toList
    | .boolean => "bool".toList
    | .instant => "time.Time".toList
    | .float => "float64".toList
  nullableType name := '*' :: name

/-- TypeScript, where a union with `null` may be absent. -/
def typeScript : TargetLanguage where
  fileExtension := "ts".toList
  typeName
    | .integer | .bigInteger | .float => "number".toList
    | .text => "string".toList
    | .boolean => "boolean".toList
    | .instant => "Date".toList
  nullableType name := name ++ " | null".toList

end TargetLanguage

end Scaffold
