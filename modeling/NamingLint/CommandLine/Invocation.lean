import NamingLint.CommandLine.Argument
import NamingLint.Naming.Casing

/-!
# Command lines

`Invocation.ofArguments` finds out what a command line asks for. Arguments are taken up from left to
right. An argument that takes values stays open until another one starts, so that a fault in its
values comes to light no sooner than that.
-/

namespace NamingLint.CommandLine

open NamingLint.Report (Style)

/-! ## What may go wrong -/

/-- What may be wrong with a command line. -/
inductive Misuse where
  | unexpectedArgument (text : String)
  | unrecognizedCommand (text : String)
  | noCommand
  | missingArguments (usages : List String)
  | missingValue (usage : String)
  | invalidValue (text usage : String)
  | invalidCount (text usage : String) (fault : CountFault)
  | repeated (usage : String)
  | unneededValue (text usage : String)
  deriving DecidableEq, Repr, Inhabited

/-- The wording of a misuse. -/
def Misuse.message : Misuse → String
  | unexpectedArgument text => "unexpected argument '" ++ text ++ "' found"
  | unrecognizedCommand text => "unrecognized subcommand '" ++ text ++ "'"
  | noCommand => "'" ++ Product.name ++ "' requires a subcommand but one was not provided"
  | missingArguments usages =>
    "the following required arguments were not provided:" ++
      String.join (usages.map fun usage => "\n  " ++ usage)
  | missingValue usage => "a value is required for '" ++ usage ++ "' but none was supplied"
  | invalidValue text usage => "invalid value '" ++ text ++ "' for '" ++ usage ++ "'"
  | invalidCount text usage fault =>
    "invalid value '" ++ text ++ "' for '" ++ usage ++ "': " ++ fault.message
  | repeated usage => "the argument '" ++ usage ++ "' cannot be used multiple times"
  | unneededValue text usage =>
    "unexpected value '" ++ text ++ "' for '" ++ usage ++ "' found; no more were expected"

/-- Why a command line does not lead to a command. -/
inductive Stop where
  | misuse (fault : Misuse)
  /-- Help is asked for. -/
  | help (command : Option CommandName)
  | version
  /-- There is nothing on the command line. -/
  | nothing
  deriving DecidableEq, Repr, Inhabited

/-! ## Taking up arguments -/

/-- What has been taken up so far. -/
structure Reading where
  found : List (Topic × Value) := []
  /-- An argument whose values are not complete. -/
  pending : Option (Argument × List String) := none
  /-- The number of positional arguments that are complete. -/
  position : Nat := 0
  /-- No more options follow. -/
  positionalOnly : Bool := false
  deriving Inhabited

namespace Reading

/-- The argument has been found. -/
def has (reading : Reading) (topic : Topic) : Bool :=
  reading.found.any fun entry => entry.1 = topic

/-- The misuse that a faulty value is. -/
def misuseOf (argument : Argument) (text : String) : ValueFault → Misuse
  | .missing => .missingValue argument.usage
  | .unknown => .invalidValue text argument.usage
  | .count fault => .invalidCount text argument.usage fault

/-- Read the values of an argument. -/
def readValues (argument : Argument) : List String → Except Stop (List (Topic × Value))
  | [] => .ok []
  | text :: rest =>
    match argument.type.read text with
    | .ok value =>
      (readValues argument rest).map fun values => (argument.topic, value) :: values
    | .error fault => .error (.misuse (misuseOf argument text fault))

/-- Take up an argument with all its values. -/
def add (signature : Signature) (argument : Argument) (values : List String) (reading : Reading) :
    Except Stop Reading := do
  match argument.role with
  | .help => .error (.help signature.command)
  | .version => .error .version
  | .flag =>
    if reading.has argument.topic then .error (.misuse (.repeated argument.usage))
    else return { reading with found := reading.found ++ [(argument.topic, .given)] }
  | role =>
    if values.isEmpty then .error (.misuse (.missingValue argument.usage))
    else if role = .single && reading.has argument.topic then
      .error (.misuse (.repeated argument.usage))
    else return { reading with found := reading.found ++ (← readValues argument values) }

/-- Take up the argument whose values have not been complete so far. -/
def settle (signature : Signature) (reading : Reading) : Except Stop Reading :=
  match reading.pending with
  | some (argument, values) => add signature argument values { reading with pending := none }
  | none => .ok reading

/-- Take up an argument with all its values, behind one that has been open so far. -/
def take (signature : Signature) (argument : Argument) (values : List String)
    (reading : Reading) : Except Stop Reading := do
  add signature argument values (← reading.settle signature)

/-- Start an option whose value is to follow. -/
def start (signature : Signature) (argument : Argument) (reading : Reading) :
    Except Stop Reading := do
  return { ← reading.settle signature with pending := some (argument, []) }

/-- An option is waiting for its value. -/
def awaitsValue (reading : Reading) : Bool :=
  match reading.pending with
  | some (_, []) => true
  | _ => false

/-- Take up an option by its long name, behind the hyphens. -/
def takeLong (signature : Signature) (text : List Char) (reading : Reading) :
    Except Stop Reading :=
  let name := String.ofList (text.takeWhile (· ≠ '='))
  let value? := match text.dropWhile (· ≠ '=') with
    | _ :: value => some (String.ofList value)
    | [] => none
  match signature.options.find? fun option => option.long = some name with
  | none => .error (.misuse (.unexpectedArgument ("--" ++ name)))
  | some argument =>
    match argument.takesValue, value? with
    | true, some value => take signature argument [value] reading
    | true, none => start signature argument reading
    | false, some value => .error (.misuse (.unneededValue value argument.usage))
    | false, none => take signature argument [] reading

/-- Take up options by their short names, behind the hyphen. What follows an option that takes a
value is its value. -/
def takeShort (signature : Signature) : List Char → Reading → Except Stop Reading
  | [], reading => .ok reading
  | c :: rest, reading =>
    match signature.options.find? fun option => option.short = some c with
    | none => .error (.misuse (.unexpectedArgument (String.ofList ['-', c])))
    | some argument =>
      if argument.takesValue then
        match rest with
        | [] => start signature argument reading
        | '=' :: value => take signature argument [String.ofList value] reading
        | value => take signature argument [String.ofList value] reading
      else do takeShort signature rest (← take signature argument [] reading)

/-- Take up a positional argument. -/
def takePositional (signature : Signature) (text : String) (reading : Reading) :
    Except Stop Reading := do
  match signature.positionals[reading.position]? with
  | some argument =>
    let isOpen := argument.role = .many &&
      reading.pending.any fun (pending, _) => pending.topic = argument.topic
    let reading ← if isOpen then pure reading else reading.settle signature
    let values := match reading.pending with
      | some (_, values) => values
      | none => []
    return { reading with
      pending := some (argument, values ++ [text])
      position := if argument.role = .many then reading.position else reading.position + 1 }
  | none =>
    let names := signature.commandNames
    if names.isEmpty || reading.positionalOnly && names.contains text then
      .error (.misuse (.unexpectedArgument text))
    else .error (.misuse (.unrecognizedCommand text))

/-- Take up the value that an option is waiting for, or else a positional argument. -/
def takePlain (signature : Signature) (text : String) (reading : Reading) : Except Stop Reading :=
  match reading.pending with
  | some (argument, []) => .ok { reading with pending := some (argument, [text]) }
  | _ => takePositional signature text reading

/-- Take up the arguments up to the name of a command; what stands behind it is left over. -/
def takeAll (signature : Signature) :
    List String → Reading → Except Stop (Reading × Option (String × List String))
  | [], reading => .ok (reading, none)
  | text :: rest, reading => do
    if reading.positionalOnly then
      takeAll signature rest (← takePositional signature text reading)
    else if !reading.awaitsValue && signature.commandNames.contains text then
      return (reading, some (text, rest))
    else
      match text.toList with
      | ['-', '-'] => takeAll signature rest { reading with positionalOnly := true }
      | '-' :: '-' :: long => takeAll signature rest (← takeLong signature long reading)
      | '-' :: c :: short => takeAll signature rest (← takeShort signature (c :: short) reading)
      | _ => takeAll signature rest (← takePlain signature text reading)

/-- Complete what has been taken up; all arguments that are required have to be there. -/
def finish (signature : Signature) (reading : Reading) : Except Stop Reading := do
  let reading ← reading.settle signature
  match signature.positionals.filter fun argument =>
    argument.required && !reading.has argument.topic with
  | [] => return reading
  | missing => .error (.misuse (.missingArguments (missing.map Argument.usage)))

/-! ## What has been found -/

/-- The texts of an argument. -/
def texts (reading : Reading) (topic : Topic) : List String :=
  reading.found.filterMap fun
    | (found, .text text) => if found = topic then some text else none
    | _ => none

/-- The paths of an argument. -/
def paths (reading : Reading) (topic : Topic) : List Path :=
  reading.found.filterMap fun
    | (found, .path path) => if found = topic then some path else none
    | _ => none

/-- The style that is asked for. -/
def style? (reading : Reading) : Option Style :=
  reading.found.findSome? fun
    | (_, .style style) => some style
    | _ => none

/-- The severity that is asked for. -/
def severity? (reading : Reading) : Option Severity :=
  reading.found.findSome? fun
    | (_, .severity severity) => some severity
    | _ => none

/-- The count that is asked for. -/
def count? (reading : Reading) : Option Nat :=
  reading.found.findSome? fun
    | (_, .count count) => some count
    | _ => none

end Reading

/-! ## What is asked for -/

/-- How files are to be checked. -/
structure CheckOptions where
  paths : List Path := []
  style : Style := .human
  minSeverity : Option Severity := none
  maxViolations : Option Nat := none
  excludePatterns : List String := []
  withoutIgnoreFiles : Bool := false
  parallel : Bool := true
  failFast : Bool := false
  /-- Rules that are enabled whatever the configuration says. -/
  enabledRules : List String := []
  deriving DecidableEq, Repr, Inhabited

/-- A command with its arguments. -/
inductive Command where
  | check (options : CheckOptions)
  | evaluate (name : String) (context : Naming.Context) (exemptions : Naming.Exemptions)
  | validateConfig (file : Option Path)
  | explain (ruleId : String)
  | rules (enabledOnly : Bool)
  deriving DecidableEq, Repr, Inhabited

/-- What a command line asks for. -/
structure Invocation where
  command : Command
  verbose : Bool
  /-- The configuration file that is given. -/
  config : Option Path
  colors : Bool
  deriving DecidableEq, Repr, Inhabited

/-- The command that has been found. -/
def CommandName.commandOf (name : CommandName) (reading : Reading) : Command :=
  match name with
  | .check => .check {
      paths := reading.paths .paths
      style := reading.style?.getD .human
      minSeverity := reading.severity?
      maxViolations := reading.count?
      excludePatterns := reading.texts .exclude
      withoutIgnoreFiles := reading.has .noIgnore
      parallel := !reading.has .noParallel
      failFast := reading.has .failFast
      enabledRules := reading.texts .enable }
  | .evaluate =>
    .evaluate ((reading.texts .name).headD "")
      ⟨if reading.has .nativeContainer then .native else .ordinary,
        reading.has .implementsInterface⟩
      ⟨reading.has .allowUnderscoreDigit⟩
  | .validateConfig => .validateConfig (reading.paths .configFile).head?
  | .explain => .explain ((reading.texts .ruleId).headD "")
  | .rules => .rules (reading.has .enabledOnly)

/-- The help that is asked for behind the command that shows help. -/
def helpStop : List String → Stop
  | [] => .help none
  | [text] =>
    match CommandName.ofText? text with
    | some command => .help (some command)
    | none => if text == helpCommand then .help none else .misuse (.unrecognizedCommand text)
  | text :: next :: _ =>
    if (CommandName.ofText? text).isSome || text == helpCommand then
      .misuse (.unrecognizedCommand next)
    else .misuse (.unrecognizedCommand text)

/-- What a command line asks for. Options that the tool and the command share may stand on either
side of the command; its own side comes first. -/
def Invocation.ofArguments (arguments : List String) : Except Stop Invocation := do
  let (outer, behind) ← Reading.takeAll .tool arguments {}
  match behind with
  | none =>
    let outer ← outer.settle .tool
    .error (if outer.found.isEmpty then .nothing else .misuse .noCommand)
  | some (text, rest) =>
    match CommandName.ofText? text with
    | none => .error (helpStop rest)
    | some name =>
      let signature := Signature.ofCommand name
      let (inner, _) ← Reading.takeAll signature rest {}
      let inner ← inner.finish signature
      let outer ← outer.settle .tool
      return {
        command := name.commandOf inner
        verbose := inner.has .verbose || outer.has .verbose
        config := (inner.paths .config ++ outer.paths .config).head?
        colors := !(inner.has .noColor || outer.has .noColor) }

end NamingLint.CommandLine
