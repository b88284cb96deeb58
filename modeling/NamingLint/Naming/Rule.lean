import NamingLint.Naming.Declaration
import NamingLint.Severity

/-!
# The catalog of rules

A rule is described by its texts, its severity, the kinds of declarations that it applies to unless
configured otherwise, and the decision procedure behind it.
-/

namespace NamingLint.Naming

/-- A message with places for the offending name. -/
inductive MessagePart where
  | literal (text : String)
  | name
  deriving DecidableEq, Repr

/-- The static description of a naming rule. -/
structure Rule where
  id : String
  title : String
  message : List MessagePart
  description : String
  defaultSeverity : Severity
  /-- Whether a configuration may change the severity. -/
  severityConfigurable : Bool
  enabledByDefault : Bool
  defaultKinds : List DeclarationKind
  /-- The violation of the rule by a declaration, if there is one. -/
  violation? : Declaration → Exemptions → Option Violation

namespace Rule

/-- The message about an offending name. -/
def renderMessage (rule : Rule) (name : String) : String :=
  String.join (rule.message.map fun
    | .literal text => text
    | .name => name)

/-- The message with a placeholder for the name. -/
def messageFormat (rule : Rule) : String :=
  rule.renderMessage "\x7bname\x7d"

/-- Names must begin with a lower-case letter. -/
def lowerCase : Rule where
  id := "element_must_begin_with_lower_case"
  title := "Element must begin with lower-case letter"
  message := [.literal "Element '", .name, .literal "' must begin with a lower-case letter"]
  description :=
    "The name of a local function begins with an upper-case letter or an underscore. " ++
    "Names inside native interop containers and trait implementations are exempt. " ++
    "The rule ships disabled and reports nothing until it is enabled."
  defaultSeverity := .error
  severityConfigurable := false
  enabledByDefault := false
  defaultKinds := [.localFunction]
  violation? declaration exemptions :=
    evaluate declaration.identifier declaration.context exemptions

/-- Every rule of the tool. -/
def catalog : List Rule := [lowerCase]

/-- The rule of the catalog with this identifier. -/
def find? (id : String) : Option Rule :=
  catalog.find? fun rule => rule.id == id

end Rule

end NamingLint.Naming
