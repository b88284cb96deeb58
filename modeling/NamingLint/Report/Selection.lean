import NamingLint.Report.Basic

/-!
# What a report shows

All styles of output show the same selection of a report's diagnostics.
-/

namespace NamingLint.Report

/-- What a report shows, and how. -/
structure Options where
  colors : Bool := true
  context : Bool := true
  suggestions : Bool := true
  /-- No more than this many diagnostics are shown. -/
  maxViolations : Option Nat := none
  /-- Diagnostics that are less severe are not shown. -/
  minSeverity : Option Severity := none
  deriving DecidableEq, Repr, Inhabited

namespace Options

/-- A diagnostic is severe enough to be shown. -/
def admits (options : Options) (diagnostic : Diagnostic) : Bool :=
  options.minSeverity.all fun least => least.rank ≤ diagnostic.severity.rank

/-- The diagnostics that are shown: the first of those that are severe enough. -/
def select (options : Options) (diagnostics : List Diagnostic) : List Diagnostic :=
  let admitted := diagnostics.filter options.admits
  match options.maxViolations with
  | some count => admitted.take count
  | none => admitted

end Options

end NamingLint.Report
