import NamingLint.Analysis.Run
import NamingLint.CommandLine.Help
import NamingLint.CommandLine.Invocation
import NamingLint.CommandLine.Log

/-!
# Running commands

`run` says what a command line comes to in an environment: an exit code, the texts for the standard
streams and the events for the log.
-/

namespace NamingLint.CommandLine

open NamingLint.Naming (Rule)

/-- What a command finds around it. -/
structure Environment where
  /-- The files of the system. -/
  tree : FileTree
  now : Instant
  /-- Which events are shown, if the environment says so. -/
  logSetting : Option String := none
  /-- Standard output shows colours. -/
  showsColors : Bool := false
  /-- The order in which analyses that run at once are completed. -/
  schedule : (count : Nat) → Schedule count := Schedule.inTurn

/-- What a command comes to. -/
structure Outcome where
  exitCode : Nat
  /-- The text for standard output; it may say how many milliseconds the command has taken. -/
  output : Nat → String := fun _ => ""
  /-- The events to show, before the errors. -/
  log : List Event := []
  /-- The text for the standard error stream. -/
  errors : String := ""

namespace Outcome

/-- Only events that a filter admits are shown. -/
def filterLog (filter : LogFilter) (outcome : Outcome) : Outcome :=
  { outcome with log := outcome.log.filter filter.shows }

end Outcome

/-- A text of lines. -/
def textOfLines (lines : List String) : String :=
  String.join (lines.map fun line => line ++ "\n")

/-! ## Colours -/

/-- Standard output shows colours: it is a terminal that may show them, unless variables force them
or forbid them. A variable set to 0 asks for the opposite. -/
def showsColors (isTerminal : Bool) (force forbid allow : Option String) : Bool :=
  if force.any (· != "0") then true
  else if forbid.isSome then false
  else isTerminal && allow.all (· != "0")

/-! ## Configurations -/

/-- The configuration file that is given, or else the one found in the working directory. -/
def loadConfiguration (tree : FileTree) (file : Option Path) : Journal Config :=
  match file with
  | some file => Journal.ofExcept (Config.loadFile tree file)
  | none => Config.discover tree ⟨"."⟩

/-- The activity that a failure to load a configuration is a part of. -/
def loadingText (file : Option Path) : String :=
  match file with
  | some file => "Failed to load configuration from " ++ file.text
  | none => "Failed to load default configuration"

/-- The line about a failure in an activity. -/
def errorLine (activity : String) (failure : Failure) : String :=
  "Error: " ++ activity ++ ": " ++ failure.message ++ "\n"

/-! ## Checking files -/

/-- What may go wrong in checking files. -/
inductive CheckFailure where
  | loading (file : Option Path) (cause : Failure)
  | construction (cause : Failure)
  | analysis (cause : Failure)
  deriving DecidableEq, Repr

/-- The line about a failure. -/
def CheckFailure.line : CheckFailure → String
  | loading file cause => errorLine (loadingText file) cause
  | construction cause => errorLine "Invalid configuration" cause
  | analysis cause => errorLine "Analysis failed" cause

namespace CheckOptions

/-- The paths that are checked: the working directory if none are given. -/
def effectivePaths (options : CheckOptions) : List Path :=
  if options.paths.isEmpty then [⟨"."⟩] else options.paths

/-- How the run goes. -/
def runOptions (options : CheckOptions) : RunOptions where
  parallel := options.parallel
  failFast := options.failFast
  excludePatterns := options.excludePatterns
  withoutIgnoreFiles := options.withoutIgnoreFiles

/-- What the report shows. -/
def reportOptions (options : CheckOptions) (colors : Bool) : Report.Options where
  colors
  maxViolations := options.maxViolations
  minSeverity := options.minSeverity

/-- The configuration with the rules enabled that the options name. -/
def enableRules (options : CheckOptions) (config : Config) : Config :=
  options.enabledRules.foldl Config.enableRule config

/-- Load the configuration, make an analyzer of it and analyse the files. -/
def report (options : CheckOptions) (environment : Environment) (file : Option Path) :
    List Event × Except CheckFailure Report :=
  let loaded := loadConfiguration environment.tree file
  match loaded.result with
  | .error cause => (loaded.events, .error (.loading file cause))
  | .ok config =>
    let constructed := Analyzer.ofConfig (options.enableRules config)
    match constructed.result with
    | .error cause => (loaded.events ++ constructed.events, .error (.construction cause))
    | .ok analyzer =>
      let run := analyzer.analyzePaths environment.tree environment.now options.runOptions
        environment.schedule options.effectivePaths
      (loaded.events ++ constructed.events ++ run.events, run.result.mapError .analysis)

/-- The report as the command prints it, with the time that it has taken. -/
def outputText (options : CheckOptions) (environment : Environment) (colors : Bool)
    (report : Report) (milliseconds : Nat) : String :=
  (report.apply (.milliseconds milliseconds)).render options.style
    (options.reportOptions colors) environment.showsColors ++ "\n"

/-- Check files. The exit code tells a failure from a report with errors and from one without. -/
def run (options : CheckOptions) (environment : Environment) (file : Option Path)
    (colors : Bool) : Outcome :=
  let (events, result) := options.report environment file
  match result with
  | .ok report => {
      exitCode := if report.hasErrors then 1 else 0
      output := options.outputText environment colors report
      log := events }
  | .error failure => { exitCode := 2, log := events, errors := failure.line }

end CheckOptions

/-! ## The other commands -/

/-- Apply the lower-case rule to a single name. -/
def runEvaluate (name : String) (context : Naming.Context) (exemptions : Naming.Exemptions) :
    Outcome :=
  match Naming.evaluate ⟨name, ⟨1, 1⟩, true⟩ context exemptions with
  | some violation => {
      exitCode := 1
      output := fun _ => Rule.lowerCase.renderMessage violation.text ++ " (" ++
        Rule.lowerCase.id ++ ")\n" }
  | none => { exitCode := 0, output := fun _ => "'" ++ name ++ "' is accepted\n" }

/-- The configuration file to validate: the given one, or the first of the usual ones that there is,
or the first of the usual ones. -/
def fileToValidate (tree : FileTree) (file : Option Path) : Path :=
  match file with
  | some file => file
  | none =>
    let usual := Config.fileNames.map Path.mk
    ((usual.find? tree.isFile).orElse fun _ => usual.head?).getD ⟨""⟩

/-- Validate a configuration file. -/
def runValidateConfig (tree : FileTree) (file : Option Path) : Outcome :=
  let file := fileToValidate tree file
  let opening := "Validating configuration: " ++ file.text
  match Config.loadFile tree file with
  | .ok config => {
      exitCode := 0
      output := fun _ => textOfLines [
        opening,
        "Configuration is valid",
        "Configuration summary:",
        "  Rules: " ++ toString config.rules.entries.length ++ " configured, " ++
          toString config.rules.enabled.length ++ " enabled",
        "  Path patterns: " ++ toString config.paths.patterns.length,
        "  Native container pattern: " ++ config.nativePattern,
        "  Fingerprint: " ++ config.fingerprint] }
  | .error failure => {
      exitCode := 1
      output := fun _ => textOfLines [opening]
      errors := "Configuration validation failed: " ++ failure.message ++ "\n" }

/-- The kinds of declarations in words. -/
def kindsText (kinds : List Naming.DeclarationKind) : String :=
  ", ".intercalate (kinds.map Naming.DeclarationKind.name)

/-- Describe a rule. -/
def ruleLines (rule : Rule) : List String := [
  "Rule: " ++ rule.id,
  "Title: " ++ rule.title,
  "Severity: " ++ rule.defaultSeverity.name ++
    (if rule.severityConfigurable then "" else " (fixed)"),
  "Enabled by default: " ++ toString rule.enabledByDefault,
  "Declaration kinds: " ++ kindsText rule.defaultKinds,
  "",
  "Description:",
  "   " ++ rule.description,
  "",
  "Message:",
  "   " ++ rule.messageFormat]

/-- Explain a rule. -/
def runExplain (ruleId : String) : Outcome :=
  match Rule.find? ruleId with
  | some rule => { exitCode := 0, output := fun _ => textOfLines (ruleLines rule) }
  | none => {
      exitCode := 1
      output := fun _ => textOfLines
        (["", "Available rules:"] ++ Rule.catalog.map fun rule => "  - " ++ rule.id)
      errors := "Rule '" ++ ruleId ++ "' not found\n" }

/-- The lines about a rule in the list of rules. -/
def ruleEntry (config : Config) (rule : Rule) : List String :=
  let settings := config.settingsOf rule.id
  let status := if settings.enabled then "enabled" else "disabled"
  ["  " ++ rule.id ++ " [" ++ (settings.severity.getD rule.defaultSeverity).name ++ "] (" ++
      status ++ ") - " ++ rule.title,
    "      kinds: " ++ kindsText (settings.kindsOr rule.defaultKinds)]

/-- List the rules, or only those that a configuration enables. -/
def runRules (tree : FileTree) (file : Option Path) (enabledOnly : Bool) : Outcome :=
  let loaded := loadConfiguration tree file
  match loaded.result with
  | .error failure =>
    { exitCode := 2, log := loaded.events, errors := errorLine (loadingText file) failure }
  | .ok config =>
    let shown := Rule.catalog.filter fun rule =>
      !enabledOnly || (config.settingsOf rule.id).enabled
    { exitCode := 0
      output := fun _ =>
        textOfLines (["Available Rules", ""] ++ shown.flatMap (ruleEntry config))
      log := loaded.events }

/-! ## Command lines -/

/-- What an invocation comes to. -/
def Invocation.run (invocation : Invocation) (environment : Environment) : Outcome :=
  let tree := environment.tree
  Outcome.filterLog (LogFilter.choose environment.logSetting invocation.verbose) <|
    match invocation.command with
    | .check options => options.run environment invocation.config invocation.colors
    | .evaluate name context exemptions => runEvaluate name context exemptions
    | .validateConfig file => runValidateConfig tree (file.orElse fun _ => invocation.config)
    | .explain ruleId => runExplain ruleId
    | .rules enabledOnly => runRules tree invocation.config enabledOnly

/-- What a command line without a command comes to. -/
def Stop.outcome : Stop → Outcome
  | misuse fault => {
      exitCode := 2
      errors := textOfLines
        ["error: " ++ fault.message, "", "For more information, try '--help'."] }
  | help command => { exitCode := 0, output := fun _ => helpText command }
  | version => { exitCode := 0, output := fun _ => Product.name ++ " " ++ Product.version ++ "\n" }
  | nothing => { exitCode := 2, errors := helpText none }

/-- What a command line comes to. -/
def run (environment : Environment) (arguments : List String) : Outcome :=
  match Invocation.ofArguments arguments with
  | .ok invocation => invocation.run environment
  | .error stop => stop.outcome

end NamingLint.CommandLine
