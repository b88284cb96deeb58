import NamingLint.Config.Validation
import NamingLint.Filter
import NamingLint.Naming.RuleTable
import NamingLint.Source.Collector
import NamingLint.Source.Generated
import NamingLint.Source.Grammar

/-!
# Analyzers

An `Analyzer` is what a configuration comes to: a filter for paths, a table of rules and a test for
the names of native containers. `Analyzer.analyzeSource` applies the rules to the declarations of a
source text.
-/

namespace NamingLint

open NamingLint.Naming (Declaration DeclarationKind Rule RuleTable)

/-- What the analysis of files has found. -/
structure FileAnalysis where
  diagnostics : List Diagnostic := []
  /-- The declarations that at least one rule looked at. -/
  declarationsChecked : Nat := 0
  deriving DecidableEq, Repr, Inhabited

/-- The findings of two analyses, one after the other. -/
def FileAnalysis.append (first second : FileAnalysis) : FileAnalysis :=
  ⟨first.diagnostics ++ second.diagnostics,
    first.declarationsChecked + second.declarationsChecked⟩

/-- The findings about the declarations of a file that the table has rules for. -/
def Naming.RuleTable.analyze (table : RuleTable) (now : Instant) (file : Path)
    (declarations : List Declaration) : FileAnalysis :=
  let handled := declarations.filter fun declaration => table.handles declaration.kind
  ⟨handled.flatMap fun declaration => table.check now declaration file, handled.length⟩

/-- A configuration made ready for analysis. -/
structure Analyzer where
  config : Config
  filter : PathFilter
  table : RuleTable
  /-- Accepts the names of native containers. -/
  nativeName : String → Bool

namespace Analyzer

/-! ## Construction -/

/-- Report registrations of rules for kinds. -/
def reportRegistrations : List (DeclarationKind × Naming.ActiveRule) → Journal Unit
  | [] => return
  | (kind, active) :: rest => do
    Journal.report .debug .rules
      ("Registering rule '" ++ active.rule.id ++ "' for " ++ kind.name ++ " declarations")
    reportRegistrations rest

/-- The name of the ignore files, if a configuration has one that can name a file. -/
def ignoreFileOf (config : Config) : Option String :=
  config.paths.ignoreFile.filter fun name => !name.isEmpty

/-- The filter for the paths of a configuration. -/
def filterOf (config : Config) : Except Failure PathFilter :=
  match PathFilter.ofPatterns config.paths.patterns (ignoreFileOf config) with
  | .ok filter => .ok filter
  | .error (.pattern cause) => .error (.configuration (.pathFilter cause))
  | .error failure => .error failure

/-- The test for the names of native containers. -/
def nativeNameOf (config : Config) : Except Failure (String → Bool) :=
  match Regex.parse config.nativePattern with
  | .ok regex => .ok regex.isMatch
  | .error fault => .error (.pattern (.native config.nativePattern fault.message))

/-- The analyzer for a configuration, which is checked first. -/
def ofConfig (config : Config) : Journal Analyzer := do
  Journal.ofExcept config.validate
  let table ← Journal.ofExcept (RuleTable.ofConfig config)
  reportRegistrations (config.rules.enabled.flatMap RuleTable.registrationsFor)
  if table.isEmpty then
    Journal.report .debug .analysis "No naming rules enabled; analysis will report nothing"
  let filter ← Journal.ofExcept (filterOf config)
  let nativeName ← Journal.ofExcept (nativeNameOf config)
  return ⟨config, filter, table, nativeName⟩

/-! ## Statistics -/

/-- The rules of the catalog by whether they are enabled, and the kinds that rules look at. -/
structure Statistics where
  enabled : Nat
  disabled : Nat
  kinds : List DeclarationKind
  deriving DecidableEq, Repr, Inhabited

/-- The number of rules. -/
def Statistics.total (statistics : Statistics) : Nat :=
  statistics.enabled + statistics.disabled

/-- The statistics of an analyzer. -/
def statistics (analyzer : Analyzer) : Statistics :=
  let isEnabled (rule : Rule) : Bool := (analyzer.config.settingsOf rule.id).enabled
  { enabled := Rule.catalog.countP isEnabled
    disabled := Rule.catalog.countP fun rule => !isEnabled rule
    kinds := analyzer.table.registeredKinds }

/-! ## Analysis -/

/-- What is wrong with a text that is no source file. -/
def malformedSource : String := "not a source file"

/-- Apply the rules to a source text. A file of another type, a generated file and a text that is no
source file have no findings. -/
def analyzeSource (analyzer : Analyzer) (now : Instant) (file : Path) (content : String) :
    Journal FileAnalysis :=
  if !PathFilter.isSourceFile file || analyzer.table.isEmpty then return {}
  else if Source.isGenerated content then do
    Journal.report .debug .sourceAnalysis ("Skipping generated file " ++ file.text)
    return {}
  else
    match Source.outline? content with
    | some outlines =>
      return analyzer.table.analyze now file (Source.declarations analyzer.nativeName outlines)
    | none => do
      Journal.report .debug .sourceAnalysis
        ("Failed to parse Rust file " ++ file.text ++ ": " ++ malformedSource)
      return {}

/-- Read a file and apply the rules to it. -/
def readAndAnalyze (analyzer : Analyzer) (tree : FileTree) (now : Instant) (file : Path) :
    Journal FileAnalysis :=
  match tree.readText file with
  | .ok content => analyzer.analyzeSource now file content
  | .error cause => Journal.fail (.analysis file.text (.unreadable cause))

/-- Apply the rules to a file, unless the filter leaves it out. -/
def analyzeFile (analyzer : Analyzer) (tree : FileTree) (now : Instant) (file : Path) :
    Journal FileAnalysis := do
  if ← analyzer.filter.shouldAnalyze tree file then analyzer.readAndAnalyze tree now file
  else return {}

end Analyzer

end NamingLint
