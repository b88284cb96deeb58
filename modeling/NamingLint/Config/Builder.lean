import NamingLint.Config.Validation

/-!
# Building configurations

A configuration may be built from the default one by steps; `Config.build` checks the result.
-/

namespace NamingLint.Config

/-- A change to a configuration. -/
inductive Step where
  /-- Enable a rule and keep its other settings. -/
  | enable (id : String)
  /-- Replace the settings of a rule. -/
  | rule (id : String) (settings : RuleSettings)
  | addPattern (pattern : String)
  | ignoreFile (name : String)
  | nativePattern (pattern : String)
  deriving DecidableEq, Inhabited

/-- Enable a rule and keep its other settings. -/
def enableRule (config : Config) (id : String) : Config :=
  { config with rules := config.rules.enable id }

/-- Apply a change. -/
def apply (config : Config) : Step → Config
  | .enable id => config.enableRule id
  | .rule id settings => { config with rules := config.rules.insert id settings }
  | .addPattern pattern =>
    { config with
      paths := { config.paths with patterns := config.paths.patterns ++ [pattern] } }
  | .ignoreFile name => { config with paths := { config.paths with ignoreFile := some name } }
  | .nativePattern pattern => { config with nativePattern := pattern }

/-- The default configuration after some changes, checked. -/
def build (steps : List Step) : Except Failure Config :=
  (steps.foldl apply default).checked

end NamingLint.Config
