import Scaffold.Text.Basic

/-!
# Diagnostics

Every error of the library is a cause, and each kind of cause has one wording: the message, a stable
code, and a hint where there is one.
-/

namespace Scaffold

/-- How an error is told to the user. -/
structure Diagnostic where
  message : Text
  code : Option Text
  help : Option Text
  deriving DecidableEq

namespace Diagnostic

/-- A text in single quotes, as messages show names and paths. -/
def quoted (text : Text) : Text :=
  '\'' :: text ++ ['\'']

end Diagnostic

end Scaffold
