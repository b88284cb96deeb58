import NamingLint.Document

/-!
# Severities
-/

namespace NamingLint

/-- How serious a finding is, in ascending order. -/
inductive Severity where
  | info
  | warning
  | error
  deriving DecidableEq, Repr, Inhabited

namespace Severity

/-- The name used in configurations, options and reports. -/
def name : Severity → String
  | info => "info"
  | warning => "warning"
  | error => "error"

/-- All severities, in ascending order. -/
def all : List Severity := [info, warning, error]

/-- The severity with this name. -/
def ofName? (text : String) : Option Severity :=
  all.find? fun severity => severity.name == text

/-- Read a severity. -/
def ofDocument? (document : Document) : Option Severity :=
  document.choice?.bind ofName?

/-- The position of a severity in ascending order. -/
def rank : Severity → Nat
  | info => 0
  | warning => 1
  | error => 2

/-- Only errors make a check fail. -/
def isBlocking : Severity → Bool
  | error => true
  | _ => false

/-- Severities are compared by rank. -/
def compare (left right : Severity) : Ordering :=
  Ord.compare left.rank right.rank

end Severity

end NamingLint
