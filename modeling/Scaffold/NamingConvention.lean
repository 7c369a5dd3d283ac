import Scaffold.Category
import Scaffold.Identifier
import Scaffold.Path

/-!
# Naming conventions

A naming convention derives the field names of generated code from column names, and the names of
generated files from entity names. A template without a file name of its own gets the fallback name
of its category: repositories are collected in a directory per entity, use cases carry a suffix, and
templates of no category keep the stem of their own name.
-/

namespace Scaffold

/-- How fields and files are named. -/
structure NamingConvention where
  /-- The field name of a column. -/
  fieldName : Text → Text
  /-- The stem of the files of an entity. -/
  fileStem : Text → Text
  /-- The stem of repository files. -/
  repositoryStem : Text
  /-- What follows the entity in the stem of use case files. -/
  usecaseSuffix : Text

/-- A file name and the directory below the output directory that holds it. -/
structure FallbackName where
  subdirectory : Option Text
  fileName : Text
  deriving DecidableEq

namespace NamingConvention

/-- The file name `stem.extension`. -/
def fileNamed (stem extension : Text) : Text :=
  stem ++ '.' :: extension

/-- The name of a template's output when the template does not give one. -/
def fallbackName
    (naming : NamingConvention)
    (category : Category)
    (entity template extension : Text) :
    FallbackName :=
  let stem := naming.fileStem entity
  match category with
  | .entity | .handler | .payload => ⟨none, fileNamed stem extension⟩
  | .repository => ⟨some stem, fileNamed naming.repositoryStem extension⟩
  | .usecase => ⟨none, fileNamed (stem ++ naming.usecaseSuffix) extension⟩
  | .other => ⟨none, fileNamed ((Path.mk template).fileStem?.getD template) extension⟩

/-- Go: fields in title case, file stems in lower case. -/
def go : NamingConvention where
  fieldName := Identifier.fieldName
  fileStem := Text.lowerCase
  repositoryStem := "postgres".toList
  usecaseSuffix := "_usecase".toList

/-- Kebab case: fields as the columns are named, file stems in lower case with hyphens. -/
def kebab : NamingConvention where
  fieldName column := column
  fileStem entity :=
    (Text.lowerCase entity).map fun character => if character = '_' then '-' else character
  repositoryStem := "repo".toList
  usecaseSuffix := ".service".toList

end NamingConvention

end Scaffold
