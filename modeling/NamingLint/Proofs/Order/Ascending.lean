import Mathlib.Data.List.Lex
import NamingLint.Proofs.Order.Diagnostic
import NamingLint.Proofs.Report.Tally

/-!
# Ascending diagnostics

What it means that paths, places and diagnostics come before one another, without regard to how they
are compared: paths by their components, places by line and column, and diagnostics by these and by
severity. `sort_ascending` says what sorting makes of the diagnostics of a report, and that it
touches nothing else.
-/

namespace NamingLint

open NamingLint.Order

/-! ## Paths -/

namespace Path

/-- A component comes before another one by its form, and a name before another one by its
characters. -/
def Component.Before : Component → Component → Prop
  | .name left, .name right => left < right
  | left, right => left.rank < right.rank

/-- A path comes before another one by the first component in which they differ; a path comes before
those below it. -/
def Before (left right : Path) : Prop :=
  List.Lex Component.Before left.components right.components

theorem Component.compare_lt_iff {left right : Component} :
    Component.compare left right = .lt ↔ left.Before right := by
  cases left <;> cases right <;> first
    | exact compareOfLessAndEq_eq_lt
    | exact Nat.compare_eq_lt

theorem compare_lt_iff {left right : Path} :
    Path.compare left right = .lt ↔ left.Before right := by
  have hgo (first second : List Component) :
      compare.go first second = .lt ↔ List.Lex Component.Before first second := by
    induction first generalizing second with
    | nil => cases second <;> simp [compare.go]
    | cons x xs ih =>
        cases second with
        | nil => simp [compare.go]
        | cons y ys =>
            rw [compare.go, Ordering.then_eq_lt, Component.compare_lt_iff,
              Component.compare_eq_iff, ih, List.cons_lex_cons_iff]
  exact hgo _ _

end Path

/-! ## Places and severities -/

/-- A place comes before another one by its line, and within a line by its column. -/
def Location.Before (left right : Location) : Prop :=
  left.line < right.line ∨ left.line = right.line ∧ left.column < right.column

theorem Location.compare_lt_iff {left right : Location} :
    Location.compare left right = .lt ↔ left.Before right := by
  have hline : Ord.compare left.line right.line = .lt ↔ left.line < right.line :=
    compareOfLessAndEq_eq_lt
  have hcolumn : Ord.compare left.column right.column = .lt ↔ left.column < right.column :=
    compareOfLessAndEq_eq_lt
  rw [Location.compare, Ordering.then_eq_lt, hline, hcolumn, Std.LawfulEqOrd.compare_eq_iff_eq]
  rfl

theorem Location.compare_eq_iff {left right : Location} :
    Location.compare left right = .eq ↔ left = right := by
  rw [Location.compare, Ordering.then_eq_eq, Std.LawfulEqOrd.compare_eq_iff_eq,
    Std.LawfulEqOrd.compare_eq_iff_eq]
  cases left
  cases right
  simp

theorem Severity.compare_eq_iff {left right : Severity} :
    Severity.compare left right = .eq ↔ left = right := by
  cases left <;> cases right <;> decide

namespace Diagnostic

/-- A place that is absent comes before all others. -/
def PlaceBefore : Option Location → Option Location → Prop
  | none, some _ => True
  | some left, some right => left.Before right
  | _, none => False

theorem compare_locations_lt_iff {left right : Option Location} :
    compareLocations left right = .lt ↔ PlaceBefore left right := by
  cases left with
  | none => cases right <;> simp [compareLocations, PlaceBefore]
  | some left =>
      cases right with
      | none => simp [compareLocations, PlaceBefore]
      | some right => exact Location.compare_lt_iff

theorem compare_locations_eq_iff {left right : Option Location} :
    compareLocations left right = .eq ↔ left = right := by
  cases left with
  | none => cases right <;> simp [compareLocations]
  | some left =>
      cases right with
      | none => simp [compareLocations]
      | some right => rw [Option.some.injEq, ← Location.compare_eq_iff, compareLocations]

/-! ## Diagnostics -/

/-- A diagnostic may stand in front of another one: its file comes first, or within the same file
its place, or at the same place it is not the more serious one. -/
def InOrder (left right : Diagnostic) : Prop :=
  left.file.Before right.file ∨
    left.file.components = right.file.components ∧
      (PlaceBefore left.location right.location ∨
        left.location = right.location ∧ left.severity.rank ≤ right.severity.rank)

/-- Two diagnostics are about the same place in the same file and equally serious. -/
def Alike (left right : Diagnostic) : Prop :=
  left.file.components = right.file.components ∧ left.location = right.location ∧
    left.severity = right.severity

instance (left right : Diagnostic) : Decidable (left.Alike right) :=
  inferInstanceAs (Decidable (_ ∧ _ ∧ _))

variable {left right : Diagnostic}

theorem up_to_iff_in_order : upTo Diagnostic.compare left right = true ↔ left.InOrder right := by
  have hseverity : Severity.compare left.severity right.severity ≠ .gt ↔
      left.severity.rank ≤ right.severity.rank :=
    Nat.compare_ne_gt
  rw [upTo, bne_iff_ne, InOrder, ← Path.compare_lt_iff, ← Path.compare_eq_iff,
    ← compare_locations_lt_iff, ← compare_locations_eq_iff, ← hseverity, Diagnostic.compare]
  -- The file decides unless it is the same, and then the place in the same way.
  cases Path.compare left.file right.file <;>
    cases compareLocations left.location right.location <;> simp [Ordering.then]

theorem ties_iff_alike : ties Diagnostic.compare left right = true ↔ left.Alike right := by
  rw [ties_iff, Diagnostic.compare, Ordering.then_eq_eq, Ordering.then_eq_eq, Path.compare_eq_iff,
    compare_locations_eq_iff, Severity.compare_eq_iff, and_assoc, Alike]

end Diagnostic

namespace Report

open Diagnostic (Alike InOrder)

variable {report : Report}

theorem sort_pairwise : report.sort.diagnostics.Pairwise fun left right =>
    upTo Diagnostic.compare left right = true :=
  List.pairwise_mergeSort up_to_trans up_to_total _

/-- Sorting leaves the diagnostics of one place, file and severity in their order. -/
theorem filter_sort (element : Diagnostic) :
    report.sort.diagnostics.filter (fun diagnostic => element.Alike diagnostic) =
      report.diagnostics.filter (fun diagnostic => element.Alike diagnostic) := by
  have hties : (fun diagnostic => decide (element.Alike diagnostic)) =
      ties Diagnostic.compare element := by
    funext diagnostic
    rw [Bool.eq_iff_iff, decide_eq_true_iff, Diagnostic.ties_iff_alike]
  rw [hties]
  exact filter_merge_sort element report.diagnostics

/-- Sorting brings the diagnostics of a report into ascending order and leaves those that are equal
in it in the order in which they were. None is lost or added, nothing else of the report changes,
and sorting again changes nothing at all. -/
theorem sort_ascending (report : Report) :
    report.sort.diagnostics.Perm report.diagnostics ∧
    report.sort.diagnostics.Pairwise InOrder ∧
    (∀ element : Diagnostic,
      report.sort.diagnostics.filter (fun diagnostic => element.Alike diagnostic) =
        report.diagnostics.filter (fun diagnostic => element.Alike diagnostic)) ∧
    report.sort.summary = report.summary ∧
    report.sort.configFingerprint = report.configFingerprint ∧
    report.sort.sort = report.sort := by
  refine ⟨sort_perm, sort_pairwise.imp Diagnostic.up_to_iff_in_order.1, filter_sort, rfl, rfl, ?_⟩
  have hsorted : report.sort.diagnostics.mergeSort (upTo Diagnostic.compare) =
      report.sort.diagnostics :=
    List.mergeSort_of_pairwise sort_pairwise
  show { report.sort with
    diagnostics := report.sort.diagnostics.mergeSort (upTo Diagnostic.compare) } = report.sort
  rw [hsorted]

end Report

end NamingLint
