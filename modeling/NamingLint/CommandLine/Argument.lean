import NamingLint.Path
import NamingLint.Product
import NamingLint.Report.Render

/-!
# Arguments of commands

What may stand on a command line: the options and positional arguments of each command, and the
values that they take.
-/

namespace NamingLint.CommandLine

open NamingLint.Report (Style)

/-! ## Values -/

/-- What the values of an argument have to be. -/
inductive ValueType where
  | text
  | path
  | style
  | severity
  | count
  deriving DecidableEq, Repr, Inhabited

/-- A value of an argument. -/
inductive Value where
  /-- The argument is there and takes no value. -/
  | given
  | text (text : String)
  | path (path : Path)
  | style (style : Style)
  | severity (severity : Severity)
  | count (count : Nat)
  deriving DecidableEq, Repr, Inhabited

/-- What may be wrong with a count. -/
inductive CountFault where
  | empty
  | noDigit
  | tooLarge
  deriving DecidableEq, Repr, Inhabited

/-- The wording of a fault. -/
def CountFault.message : CountFault → String
  | empty => "cannot parse integer from empty string"
  | noDigit => "invalid digit found in string"
  | tooLarge => "number too large to fit in target type"

/-- The number that digits make up behind others. -/
def digitsFrom (value : Nat) : List Char → Except CountFault Nat
  | [] => .ok value
  | c :: rest =>
    if !c.isDigit then .error .noDigit
    else
      let next := 10 * value + (c.toNat - '0'.toNat)
      if next < 1 <<< 64 then digitsFrom next rest else .error .tooLarge

/-- The count that a text stands for: digits, with or without a plus sign. -/
def countOf : List Char → Except CountFault Nat
  | [] => .error .empty
  | '+' :: rest => if rest.isEmpty then .error .noDigit else digitsFrom 0 rest
  | digits => digitsFrom 0 digits

/-- What may be wrong with a value. -/
inductive ValueFault where
  /-- An empty text where there has to be a value. -/
  | missing
  /-- None of the values that there are. -/
  | unknown
  | count (fault : CountFault)
  deriving DecidableEq, Repr, Inhabited

/-- The value that a name stands for among some. -/
def named (value : Option Value) (text : String) : Except ValueFault Value :=
  match value with
  | some value => .ok value
  | none => .error (if text.isEmpty then .missing else .unknown)

/-- Read a value. -/
def ValueType.read (type : ValueType) (text : String) : Except ValueFault Value :=
  match type with
  | .text => .ok (.text text)
  | .path => if text.isEmpty then .error .missing else .ok (.path ⟨text⟩)
  | .style => named ((Style.all.find? fun style => style.name == text).map .style) text
  | .severity => named ((Severity.ofName? text).map .severity) text
  | .count => ((countOf text.toList).map .count).mapError .count

/-! ## Arguments -/

/-- What an argument is about. -/
inductive Topic where
  | verbose
  | config
  | noColor
  | help
  | version
  | paths
  | format
  | severity
  | maxViolations
  | exclude
  | noIgnore
  | noParallel
  | failFast
  | enable
  | name
  | allowUnderscoreDigit
  | nativeContainer
  | implementsInterface
  | configFile
  | ruleId
  | enabledOnly
  deriving DecidableEq, Repr, Inhabited

/-- How an argument is used. -/
inductive Role where
  /-- An option without a value. -/
  | flag
  /-- An argument with one value. -/
  | single
  /-- An argument that may be there several times. -/
  | many
  /-- Asks for help instead of anything else. -/
  | help
  /-- Asks for the version instead of anything else. -/
  | version
  deriving DecidableEq, Repr, Inhabited

/-- An option, or a positional argument if it has no long name. -/
structure Argument where
  topic : Topic
  about : String
  role : Role := .flag
  long : Option String := none
  short : Option Char := none
  valueName : String := ""
  type : ValueType := .text
  required : Bool := false
  deriving DecidableEq, Repr, Inhabited

namespace Argument

/-- The argument has a value. -/
def takesValue (argument : Argument) : Bool :=
  argument.role = .single || argument.role = .many

/-- The argument as it is shown to users. -/
def usage (argument : Argument) : String :=
  match argument.long with
  | some name =>
    if argument.takesValue then "--" ++ name ++ " <" ++ argument.valueName ++ ">" else "--" ++ name
  | none =>
    (if argument.required then "<" ++ argument.valueName ++ ">"
      else "[" ++ argument.valueName ++ "]") ++
    (if argument.role = .many then "..." else "")

end Argument

/-! ## Commands -/

/-- The commands. -/
inductive CommandName where
  | check
  | evaluate
  | validateConfig
  | explain
  | rules
  deriving DecidableEq, Repr, Inhabited

namespace CommandName

/-- All commands. -/
def all : List CommandName := [check, evaluate, validateConfig, explain, rules]

/-- The name of a command. -/
def text : CommandName → String
  | check => "check"
  | evaluate => "evaluate"
  | validateConfig => "validate-config"
  | explain => "explain"
  | rules => "rules"

/-- The command with a name. -/
def ofText? (text : String) : Option CommandName :=
  all.find? fun command => command.text == text

/-- What a command does. -/
def about : CommandName → String
  | check => "Check files for naming violations"
  | evaluate => "Run the lower-case check on a single name"
  | validateConfig => "Validate configuration file"
  | explain => "Explain what a specific rule does"
  | rules => "List available rules"

end CommandName

/-- The command that shows help. -/
def helpCommand : String := "help"

/-- What may stand behind the name of the tool or of a command. -/
structure Signature where
  /-- The command, or nothing for the tool itself. -/
  command : Option CommandName
  options : List Argument
  positionals : List Argument := []
  deriving Inhabited

namespace Signature

/-- The options that the tool and all commands have. -/
def sharedOptions : List Argument := [
  { topic := .verbose, long := "verbose", short := 'v', about := "Enable verbose logging" },
  { topic := .config, long := "config", short := 'c', role := .single, valueName := "CONFIG",
    type := .path, about := "Configuration file path" },
  { topic := .noColor, long := "no-color", about := "Disable colored output" },
  { topic := .help, long := "help", short := 'h', role := .help, about := "Print help" }]

/-- The options of `check`. -/
def checkOptions : List Argument := [
  { topic := .format, long := "format", short := 'f', role := .single, valueName := "FORMAT",
    type := .style, about := "Output format" },
  { topic := .severity, long := "severity", short := 's', role := .single,
    valueName := "SEVERITY", type := .severity, about := "Minimum severity level to report" },
  { topic := .maxViolations, long := "max-violations", role := .single,
    valueName := "MAX_VIOLATIONS", type := .count,
    about := "Maximum number of violations to report" },
  { topic := .exclude, long := "exclude", role := .many, valueName := "EXCLUDE",
    about := "Additional exclude patterns" },
  { topic := .noIgnore, long := "no-ignore", about := "Ignore .caseguardianignore files" },
  { topic := .noParallel, long := "no-parallel", about := "Disable parallel processing" },
  { topic := .failFast, long := "fail-fast", about := "Fail on first error" },
  { topic := .enable, long := "enable", role := .many, valueName := "RULE",
    about := "Enable a rule for this run regardless of configuration" }]

/-- The options of `evaluate`. -/
def evaluateOptions : List Argument := [
  { topic := .allowUnderscoreDigit, long := "allow-underscore-digit",
    about := "Accept an underscore followed by a digit" },
  { topic := .nativeContainer, long := "native-container",
    about := "Treat the name as declared inside a native interop container" },
  { topic := .implementsInterface, long := "implements-interface",
    about := "Treat the name as a trait implementation member" }]

/-- The options of `rules`. -/
def rulesOptions : List Argument := [
  { topic := .enabledOnly, long := "enabled-only", about := "Show only enabled rules" }]

/-- What may stand behind the name of the tool, in front of a command. -/
def tool : Signature where
  command := none
  options := sharedOptions ++ [
    { topic := .version, long := "version", short := 'V', role := .version,
      about := "Print version" }]

/-- What may stand behind the name of a command. -/
def ofCommand (command : CommandName) : Signature :=
  match command with
  | .check => {
      command
      options := checkOptions ++ sharedOptions
      positionals := [
        { topic := .paths, role := .many, valueName := "PATHS", type := .path,
          about := "Paths to analyze (files or directories)" }] }
  | .evaluate => {
      command
      options := evaluateOptions ++ sharedOptions
      positionals := [
        { topic := .name, role := .single, valueName := "NAME", required := true,
          about := "Name to check" }] }
  | .validateConfig => {
      command
      options := sharedOptions
      positionals := [
        { topic := .configFile, role := .single, valueName := "CONFIG_FILE", type := .path,
          about := "Configuration file to validate" }] }
  | .explain => {
      command
      options := sharedOptions
      positionals := [
        { topic := .ruleId, role := .single, valueName := "RULE_ID", required := true,
          about := "Rule ID to explain" }] }
  | .rules => {
      command
      options := rulesOptions ++ sharedOptions }

/-- The names that may stand in the place of a command. -/
def commandNames (signature : Signature) : List String :=
  match signature.command with
  | none => CommandName.all.map CommandName.text ++ [helpCommand]
  | some _ => []

end Signature

end NamingLint.CommandLine
