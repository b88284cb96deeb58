import NamingLint.Config.Basic
import NamingLint.Json.Value
import NamingLint.Yaml.Printer

/-!
# Configurations as documents

`Config.ofDocument?` reads a configuration from a document, `Config.toValue` writes it as one.
Fields that are left out take their defaults; which rules and settings make sense is not decided
here.
-/

namespace NamingLint

open NamingLint.Naming (DeclarationKind)

namespace Config

/-! ## Reading -/

/-- Read a kind of declarations. -/
def kindOf? (document : Document) : Option DeclarationKind :=
  document.choice?.bind DeclarationKind.ofName?

/-- Read the settings of a rule. -/
def RuleSettings.ofDocument? (document : Document) : Option RuleSettings := do
  let names := ["enabled", "severity", "allow_underscore_digit", "declaration_kinds"]
  match ← document.fields? names with
  | [enabled, severity, allowUnderscoreDigit, kinds] =>
    return {
      enabled := ← enabled.withDefault false Document.truth?
      severity := ← severity.withDefault none (Document.optional? Severity.ofDocument?)
      allowUnderscoreDigit := ← allowUnderscoreDigit.withDefault false Document.truth?
      declarationKinds :=
        ← kinds.withDefault none (Document.optional? (Document.list? kindOf?)) }
  | _ => none

/-- Read which paths are analysed. -/
def pathsOf? (document : Document) : Option PathSettings := do
  match ← document.fields? ["patterns", "ignore_file"] with
  | [patterns, ignoreFile] =>
    return {
      patterns := ← patterns.required (Document.list? Document.text?)
      ignoreFile := ← ignoreFile.optional Document.text? }
  | _ => none

/-- Read the settings of all rules. -/
def rulesOf? (document : Document) : Option RuleMap := do
  return RuleMap.ofList (← document.record? RuleSettings.ofDocument?)

/-- Read a configuration. -/
def ofDocument? (document : Document) : Option Config := do
  match ← document.fields? ["version", "paths", "native_container_pattern", "rules"] with
  | [version, paths, nativePattern, rules] =>
    return {
      version := ← version.required Document.text?
      paths := ← paths.required pathsOf?
      nativePattern := ← nativePattern.withDefault defaultNativePattern Document.text?
      rules := ← rules.withDefault RuleMap.empty rulesOf? }
  | _ => none

/-! ## Writing -/

/-- A list of names. -/
def namesValue (names : List String) : Json.Value :=
  .array (names.map .string)

/-- Write the settings of a rule. Absent settings are left out. -/
def RuleSettings.toValue (settings : RuleSettings) : Json.Value :=
  let severity := match settings.severity with
    | some severity => [("severity", Json.Value.string severity.name)]
    | none => []
  let kinds := match settings.declarationKinds with
    | some kinds => [("declaration_kinds", namesValue (kinds.map DeclarationKind.name))]
    | none => []
  .object ([("enabled", .bool settings.enabled)] ++ severity ++
    [("allow_underscore_digit", .bool settings.allowUnderscoreDigit)] ++ kinds)

/-- Write a configuration. -/
def toValue (config : Config) : Json.Value :=
  .object [
    ("version", .string config.version),
    ("paths", .object [
      ("patterns", namesValue config.paths.patterns),
      ("ignore_file", .ofOption .string config.paths.ignoreFile)]),
    ("native_container_pattern", .string config.nativePattern),
    ("rules", .object (config.rules.entries.map fun (id, settings) => (id, settings.toValue)))]

/-- The configuration as a JSON text. -/
def toJson (config : Config) : String :=
  config.toValue.pretty

/-- The configuration as a YAML text. -/
def toYaml (config : Config) : String :=
  Yaml.print config.toValue

end Config

end NamingLint
