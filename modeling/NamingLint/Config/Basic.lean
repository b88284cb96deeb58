import NamingLint.Config.RuleMap
import NamingLint.Naming.Rule

/-!
# Configurations

A configuration says which paths are analysed, which containers hold native functions and how each
rule is set. `Config.default` lists every rule of the catalog with its default settings.
-/

namespace NamingLint

open NamingLint.Config (RuleMap RuleSettings)
open NamingLint.Naming (Rule)

/-- Which paths are analysed. -/
structure PathSettings where
  /-- Patterns applied in order; see `PathFilter`. -/
  patterns : List String
  /-- The name of the ignore files that directories may hold. -/
  ignoreFile : Option String
  deriving DecidableEq, Inhabited

/-- A configuration. -/
structure Config where
  version : String
  paths : PathSettings
  /-- A regular expression for the names of containers that hold native functions. -/
  nativePattern : String
  rules : RuleMap
  deriving DecidableEq, Inhabited

namespace Config

/-- Containers that hold native functions, unless configured otherwise. -/
def defaultNativePattern : String := "(?:NativeMethods|native_methods)$"

/-- The names under which a configuration is looked up in a directory. -/
def fileNames : List String :=
  ["case_guardian.yaml", "case_guardian.yml", ".case_guardian.yaml", ".case_guardian.yml"]

/-- The paths analysed unless configured otherwise. -/
def defaultPaths : PathSettings where
  patterns := ["target/", "**/.git/", "**/*.generated.*"]
  ignoreFile := some ".caseguardianignore"

/-- The settings that a rule of the catalog starts with. -/
def defaultSettings (rule : Rule) : RuleSettings :=
  { enabled := rule.enabledByDefault, declarationKinds := some rule.defaultKinds }

/-- The configuration used when none is given. -/
def default : Config where
  version := "1.0"
  paths := defaultPaths
  nativePattern := defaultNativePattern
  rules := RuleMap.ofList (Rule.catalog.map fun rule => (rule.id, defaultSettings rule))

/-- The settings of a rule; disabled ones if the configuration does not mention it. -/
def settingsOf (config : Config) (id : String) : RuleSettings :=
  (config.rules.find? id).getD {}

end Config

end NamingLint
