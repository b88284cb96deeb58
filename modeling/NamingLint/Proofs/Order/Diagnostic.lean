import Mathlib.Data.String.Basic
import NamingLint.Proofs.Order.Sorting
import NamingLint.Report.Basic

/-!
# The order of diagnostics

Diagnostics are compared by file, place and severity, and each of these in an order of its own. All
of these orders are total, and different elements may compare as equal in them: two spellings of a
path, or two diagnostics about the same place. `trans_compare` is the statement for diagnostics, on
which sorting rests.
-/

namespace NamingLint

open Std (TransCmp)

/-! ## Paths -/

namespace Path

/-- The text of a component that is a name. -/
def Component.nameText : Component → String
  | .name text => text
  | _ => ""

theorem Component.compare_eq :
    Component.compare = compareLex (compareOn rank) (compareOn nameText) := by
  funext left right
  cases left <;> cases right <;> rfl

instance Component.trans_compare : TransCmp Component.compare := by
  rw [Component.compare_eq]
  infer_instance

theorem Component.compare_eq_iff {left right : Component} :
    Component.compare left right = .eq ↔ left = right := by
  constructor
  · intro h
    cases left <;> cases right <;> first
      | rfl
      | cases h
      | exact congrArg name ((compareOfLessAndEq_eq_eq (fun _ => le_rfl) not_le).1 h)
  · rintro rfl
    exact Std.ReflCmp.compare_self

theorem compare_go_eq (left right : List Component) :
    compare.go left right = List.compareLex Component.compare left right := by
  induction left generalizing right with
  | nil => cases right <;> rfl
  | cons x xs ih =>
      cases right with
      | nil => rfl
      | cons y ys =>
          rw [compare.go, ih, List.compareLex_cons_cons]

instance trans_compare : TransCmp Path.compare := by
  have hcompare : Path.compare = fun left right =>
      List.compareLex Component.compare left.components right.components := by
    funext left right
    exact compare_go_eq _ _
  rw [hcompare]
  exact Order.trans_on inferInstance components

/-- Paths compare as equal exactly if they have the same components. -/
theorem compare_eq_iff {left right : Path} :
    Path.compare left right = .eq ↔ left.components = right.components := by
  have hgo (first second : List Component) : compare.go first second = .eq ↔ first = second := by
    induction first generalizing second with
    | nil => cases second <;> simp [compare.go]
    | cons x xs ih =>
        cases second with
        | nil => simp [compare.go]
        | cons y ys =>
            rw [compare.go, Ordering.then_eq_eq, Component.compare_eq_iff, ih, List.cons.injEq]
  exact hgo _ _

end Path

/-! ## Places and severities -/

instance Location.trans_compare : TransCmp Location.compare :=
  inferInstanceAs (TransCmp (compareLex (compareOn Location.line) (compareOn Location.column)))

instance Severity.trans_compare : TransCmp Severity.compare :=
  inferInstanceAs (TransCmp (compareOn Severity.rank))

namespace Diagnostic

/-- A place that is absent comes first, and all others are in their own order behind it. -/
instance trans_compare_locations : TransCmp compareLocations where
  eq_swap {left right} := by
    cases left with
    | none => cases right <;> rfl
    | some left =>
        cases right with
        | none => rfl
        | some right => exact Location.trans_compare.eq_swap
  isLE_trans {first second third} h hnext := by
    cases first with
    | none => cases third <;> rfl
    | some first =>
        cases second with
        | none => cases h
        | some second =>
            cases third with
            | none => cases hnext
            | some third => exact Location.trans_compare.isLE_trans h hnext

/-! ## Diagnostics -/

instance trans_compare : TransCmp Diagnostic.compare :=
  have : TransCmp fun left right : Diagnostic => Path.compare left.file right.file :=
    Order.trans_on inferInstance file
  have : TransCmp fun left right : Diagnostic => compareLocations left.location right.location :=
    Order.trans_on inferInstance location
  have : TransCmp fun left right : Diagnostic => Severity.compare left.severity right.severity :=
    Order.trans_on inferInstance severity
  inferInstanceAs (TransCmp (compareLex (compareLex _ _) _))

end Diagnostic

end NamingLint
