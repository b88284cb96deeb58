import NamingLint.CommandLine.Argument
import NamingLint.Journal
import NamingLint.Timestamp
import NamingLint.Unicode.Alphabetic
import NamingLint.Unicode.Blank

/-!
# Logs

A `LogFilter` decides which events are shown. It is written as directives between commas, each for
the events of a target or for all of them; of the directives for an event the one with the longest
target decides.
-/

namespace NamingLint

/-! ## Events as lines -/

/-- The name of a level. -/
def EventLevel.name : EventLevel → String
  | debug => "DEBUG"
  | info => "INFO"
  | warning => "WARN"

/-- The target of an event, which directives refer to. -/
def EventOrigin.target : EventOrigin → String
  | configuration => "case_guardian::config"
  | rules => "case_guardian::naming::rules"
  | filter => "case_guardian::filter"
  | analysis => "case_guardian::analyzer"
  | sourceAnalysis => "case_guardian::analyzer::rust"

/-- A character of a log line; control characters that a terminal obeys are shown by their codes. -/
def logChar (c : Char) : List Char :=
  let code := c.toNat
  let low := Json.hexDigit (code % 16)
  if code = 7 || code = 8 || code = 12 then ['\\', 'x', '0', low]
  else if code = 27 then ['\\', 'x', '1', low]
  else if code = 127 then ['\\', 'x', '7', low]
  else if 128 ≤ code && code < 160 then
    ['\\', 'u', '\x7b', Json.hexDigit (code / 16), low, '\x7d']
  else [c]

/-- The line that shows an event. -/
def Event.line (event : Event) : String :=
  event.level.name ++ " " ++ String.ofList (event.text.toList.flatMap logChar)

/-- The line that shows an event with the time. Levels end in the same column. -/
def Event.stampedLine (now : Instant) (event : Event) : String :=
  let indent := String.ofList (List.replicate (6 - event.level.name.length) ' ')
  now.render "Z" ++ indent ++ event.line

namespace CommandLine

/-! ## Directives -/

/-- Which events are shown, in ascending order. -/
inductive Verbosity where
  | off
  | error
  | warning
  | info
  | debug
  | trace
  deriving DecidableEq, Repr, Inhabited

namespace Verbosity

/-- The position in ascending order. -/
def rank : Verbosity → Nat
  | off => 0
  | error => 1
  | warning => 2
  | info => 3
  | debug => 4
  | trace => 5

/-- All verbosities, in ascending order. -/
def all : List Verbosity := [off, error, warning, info, debug, trace]

/-- The name of a verbosity. -/
def name : Verbosity → String
  | off => "off"
  | error => "error"
  | warning => "warn"
  | info => "info"
  | debug => "debug"
  | trace => "trace"

/-- The verbosity with a name, in whatever letter case, or with a number. -/
def ofText? (text : String) : Option Verbosity :=
  match countOf text.toList with
  | .ok number => all.find? fun verbosity => verbosity.rank = number
  | .error _ => all.find? fun verbosity => verbosity.name == text.toLower

/-- The verbosity that it takes to show events of a level. -/
def ofLevel : EventLevel → Verbosity
  | .debug => debug
  | .info => info
  | .warning => warning

end Verbosity

/-- The verbosity of the events of a target, or of all events. A directive for spans of events
applies to none. -/
structure Directive where
  target : Option String
  verbosity : Verbosity
  ofSpans : Bool := false
  deriving DecidableEq, Repr, Inhabited

namespace Directive

/-- The verbosity behind an equals sign; all events if nothing stands there. -/
def verbosityOf? (text : List Char) : Option Verbosity :=
  if text.isEmpty then some .trace else Verbosity.ofText? (String.ofList text)

/-- What stands behind a bracket: the closing bracket, and a verbosity or nothing. -/
def spans? (target : Option String) (text : List Char) : Option Directive :=
  match text.dropWhile (· ≠ ']') with
  | [_] => some ⟨target, .trace, true⟩
  | _ :: '=' :: verbosity => (verbosityOf? verbosity).map fun verbosity => ⟨target, verbosity, true⟩
  | _ => none

/-- Whether a directive may start with a character that is no bracket. -/
def mayStart (c : Char) : Bool :=
  c = '-' || c = ':' || c = '_' || Unicode.isAlphabetic c || Unicode.isNumeric c

/-- A directive: a verbosity, a target, or both with an equals sign in between. -/
def parse? (text : List Char) : Option Directive :=
  let chars := Unicode.trim text
  let front := chars.takeWhile fun c => c ≠ '=' && c ≠ '['
  let target := if front.isEmpty then none else some (String.ofList front)
  if !front.head?.all mayStart then none
  else
    match chars.dropWhile fun c => c ≠ '=' && c ≠ '[' with
    | '[' :: rest => spans? target rest
    | _ :: rest =>
      if front.isEmpty then none
      else (verbosityOf? rest).map fun verbosity => ⟨target, verbosity, false⟩
    | [] =>
      if front.isEmpty then none
      else match Verbosity.ofText? (String.ofList front) with
        | some verbosity => some ⟨none, verbosity, false⟩
        | none => some ⟨target, .trace, false⟩

/-- The directive applies to an event. -/
def appliesTo (directive : Directive) (event : Event) : Bool :=
  !directive.ofSpans &&
    directive.target.all fun target => target.toList.isPrefixOf event.origin.target.toList

/-- How long the target is; a directive for all events is less specific than any other. -/
def weight (directive : Directive) : Nat :=
  match directive.target with
  | some target => target.length + 1
  | none => 0

end Directive

/-! ## Filters -/

/-- Directives, in the order in which they are written. -/
abbrev LogFilter := List Directive

namespace LogFilter

/-- The filter that shows events of all targets. -/
def ofVerbosity (verbosity : Verbosity) : LogFilter := [⟨none, verbosity, false⟩]

/-- The filter that a text stands for. -/
def parse? (text : String) : Option LogFilter :=
  if text.isEmpty then some (ofVerbosity .error)
  else (text.splitOn ",").mapM fun directive => Directive.parse? directive.toList

/-- The directive that decides about an event: the most specific, and of several for one target the
last. -/
def directiveFor? (filter : LogFilter) (event : Event) : Option Directive :=
  (filter.filter fun directive => directive.appliesTo event).foldl (fun best directive =>
    match best with
    | some other => if other.weight ≤ directive.weight then some directive else some other
    | none => some directive) none

/-- An event is shown. -/
def shows (filter : LogFilter) (event : Event) : Bool :=
  match filter.directiveFor? event with
  | some directive => (Verbosity.ofLevel event.level).rank ≤ directive.verbosity.rank
  | none => false

/-- The filter that the environment asks for, or else the one for a verbose or usual log. -/
def choose (setting : Option String) (verbose : Bool) : LogFilter :=
  (setting.bind parse?).getD (ofVerbosity (if verbose then .debug else .warning))

end LogFilter

end CommandLine

end NamingLint
