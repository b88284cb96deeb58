import NamingLint.Config.Format
import NamingLint.Failure
import NamingLint.Regex.Pattern

/-!
# Valid configurations

A configuration is checked as a whole: its version, the pattern for native containers, and every
rule that it mentions, in the order of their identifiers. `Config.load` reads and checks a text.
-/

namespace NamingLint.Config

open NamingLint.Naming (Rule)

/-- Check the settings of a rule: the catalog has to know it, and a severity that cannot be
configured must not be changed. -/
def validateRule (id : String) (settings : RuleSettings) : Except Failure Unit :=
  match Rule.find? id with
  | none => .error (.configuration (.unknownRule id))
  | some rule =>
    match settings.severity with
    | some severity =>
      if !rule.severityConfigurable && severity ≠ rule.defaultSeverity then
        .error (.configuration (.fixedSeverity id rule.defaultSeverity))
      else .ok ()
    | none => .ok ()

/-- Check the settings of several rules. -/
def validateRules : List (String × RuleSettings) → Except Failure Unit
  | [] => .ok ()
  | (id, settings) :: rest =>
    match validateRule id settings with
    | .error failure => .error failure
    | .ok () => validateRules rest

/-- Check a configuration. -/
def validate (config : Config) : Except Failure Unit :=
  if !supportedVersions.contains config.version then
    .error (.configuration (.unsupportedVersion config.version))
  else
    match Regex.parse config.nativePattern with
    | .error fault => .error (.configuration (.nativePattern fault.message))
    | .ok _ => validateRules config.rules.entries

/-- A configuration that has been checked. -/
def checked (config : Config) : Except Failure Config :=
  match config.validate with
  | .ok () => .ok config
  | .error failure => .error failure

/-- What is wrong with a text that holds no configuration. -/
def malformedDetail : String := "not a configuration"

/-- The configuration of a text, checked. A text that holds none fails with the given cause. -/
def loadOr (cause : String → ConfigurationCause) (text : String) : Except Failure Config :=
  match (Yaml.document? text).bind ofDocument? with
  | some config => config.checked
  | none => .error (.configuration (cause malformedDetail))

/-- The configuration of a text, checked. -/
def load (text : String) : Except Failure Config :=
  loadOr .malformed text

end NamingLint.Config
