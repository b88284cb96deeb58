import NamingLint.Diagnostic

/-!
# Reports

A report holds the diagnostics of a run and its figures. `Report.apply` describes the changes that a
report goes through; the counts by severity follow the diagnostics that are added.
-/

namespace NamingLint

/-- How many diagnostics of each severity there are. -/
structure SeverityCounts where
  error : Nat := 0
  warning : Nat := 0
  info : Nat := 0
  deriving DecidableEq, Repr, Inhabited

namespace SeverityCounts

/-- Count one more diagnostic. -/
def add (counts : SeverityCounts) : Severity → SeverityCounts
  | .error => { counts with error := counts.error + 1 }
  | .warning => { counts with warning := counts.warning + 1 }
  | .info => { counts with info := counts.info + 1 }

end SeverityCounts

/-- The figures of a run. -/
structure Summary where
  totalFiles : Nat := 0
  /-- The declarations that at least one rule looked at. -/
  declarationsChecked : Nat := 0
  counts : SeverityCounts := {}
  /-- How long the run took. -/
  milliseconds : Nat := 0
  validatedAt : Instant
  deriving DecidableEq, Repr, Inhabited

/-- The diagnostics of a run and its figures. -/
structure Report where
  diagnostics : List Diagnostic := []
  summary : Summary
  /-- The fingerprint of the configuration that was used. -/
  configFingerprint : Option String := none
  deriving DecidableEq, Repr, Inhabited

namespace Diagnostic

/-- A place that is absent comes before all others. -/
def compareLocations : Option Location → Option Location → Ordering
  | none, none => .eq
  | none, some _ => .lt
  | some _, none => .gt
  | some left, some right => Location.compare left right

/-- Diagnostics are compared by file, then place, then severity. -/
def compare (left right : Diagnostic) : Ordering :=
  ((Path.compare left.file right.file).then
    (compareLocations left.location right.location)).then
      (Severity.compare left.severity right.severity)

end Diagnostic

namespace Report

/-- The report of a run that starts now. -/
def start (now : Instant) : Report :=
  { summary := { validatedAt := now } }

/-- Add a diagnostic behind the others and count it. -/
def add (report : Report) (diagnostic : Diagnostic) : Report :=
  { report with
    diagnostics := report.diagnostics ++ [diagnostic]
    summary := { report.summary with counts := report.summary.counts.add diagnostic.severity } }

/-- Bring the diagnostics into ascending order; those that compare as equal stay in their order. -/
def sort (report : Report) : Report :=
  { report with
    diagnostics := report.diagnostics.mergeSort fun left right =>
      Diagnostic.compare left right != .gt }

/-- There is any diagnostic. -/
def hasDiagnostics (report : Report) : Bool :=
  !report.diagnostics.isEmpty

/-- There is a diagnostic that makes a check fail. -/
def hasErrors (report : Report) : Bool :=
  report.diagnostics.any fun diagnostic => diagnostic.severity.isBlocking

/-- A change to a report. -/
inductive Change where
  | add (diagnostic : Diagnostic)
  | sort
  | totalFiles (count : Nat)
  | declarationsChecked (count : Nat)
  | milliseconds (count : Nat)
  | configFingerprint (text : String)
  deriving DecidableEq, Repr, Inhabited

/-- Apply a change. -/
def apply (report : Report) : Change → Report
  | .add diagnostic => report.add diagnostic
  | .sort => report.sort
  | .totalFiles count => { report with summary := { report.summary with totalFiles := count } }
  | .declarationsChecked count =>
    { report with summary := { report.summary with declarationsChecked := count } }
  | .milliseconds count => { report with summary := { report.summary with milliseconds := count } }
  | .configFingerprint text => { report with configFingerprint := some text }

end Report

end NamingLint
