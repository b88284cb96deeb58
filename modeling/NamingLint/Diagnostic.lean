import NamingLint.Instant
import NamingLint.Location
import NamingLint.Path
import NamingLint.Severity

/-!
# Diagnostics
-/

namespace NamingLint

/-- A finding of a rule, attached to a place in a file. -/
structure Diagnostic where
  ruleId : String
  severity : Severity
  file : Path
  location : Option Location := none
  message : String
  /-- The offending name. -/
  name : Option String := none
  /-- The source around the finding. -/
  context : Option String := none
  suggestion : Option String := none
  detectedAt : Instant
  deriving DecidableEq, Repr, Inhabited

namespace Diagnostic

/-- The one-line text `file:line:column [severity] message`. -/
def render (diagnostic : Diagnostic) : String :=
  let place := match diagnostic.location with
    | some location => ":" ++ location.render
    | none => ""
  diagnostic.file.text ++ place ++ " [" ++ diagnostic.severity.name ++ "] " ++ diagnostic.message

end Diagnostic

end NamingLint
