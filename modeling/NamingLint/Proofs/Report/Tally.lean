import NamingLint.Report.Basic

/-!
# The tally of a report

A report counts its diagnostics by severity while they are added, and never looks at them again for
the figures. `run_tallies` says that the counts and the diagnostics agree all the same after any
changes, in any order: `Tallied` is what each change preserves, and `Report.run` is where a report
gets to.
-/

namespace NamingLint

namespace SeverityCounts

/-- The count of one severity. -/
def of (counts : SeverityCounts) : Severity → Nat
  | .error => counts.error
  | .warning => counts.warning
  | .info => counts.info

variable {counts : SeverityCounts} {severity : Severity}

/-- A diagnostic counts for its own severity and for no other. -/
theorem of_add (added : Severity) :
    (counts.add added).of severity = counts.of severity + if added = severity then 1 else 0 := by
  cases added <;> cases severity <;> rfl

theorem eq_of_of_eq {other : SeverityCounts}
    (h : ∀ severity, counts.of severity = other.of severity) : counts = other := by
  obtain ⟨error, warning, info⟩ := counts
  obtain ⟨otherError, otherWarning, otherInfo⟩ := other
  obtain rfl : error = otherError := h .error
  obtain rfl : warning = otherWarning := h .warning
  obtain rfl : info = otherInfo := h .info
  rfl

end SeverityCounts

namespace Report

/-- The diagnostic that a change adds, if it adds one. -/
def Change.added? : Change → Option Diagnostic
  | .add diagnostic => some diagnostic
  | _ => none

/-- The report that starts now, after some changes. -/
def run (now : Instant) (changes : List Change) : Report :=
  changes.foldl apply (start now)

/-- The diagnostics of a severity among others. -/
def countOf (severity : Severity) (diagnostics : List Diagnostic) : Nat :=
  diagnostics.countP fun diagnostic => diagnostic.severity = severity

/-- The counts of a report are those of its diagnostics. -/
def Tallied (report : Report) : Prop :=
  ∀ severity, report.summary.counts.of severity = countOf severity report.diagnostics

variable {report : Report} {now : Instant} {changes : List Change}

/-! ## One change -/

theorem sort_perm : report.sort.diagnostics.Perm report.diagnostics :=
  List.mergeSort_perm _ _

/-- A report that starts has nothing to count. -/
theorem tallied_start : (start now).Tallied := by
  intro severity
  cases severity <;> rfl

theorem Tallied.add (h : report.Tallied) (diagnostic : Diagnostic) :
    (report.add diagnostic).Tallied := by
  intro severity
  have hcount : countOf severity (report.diagnostics ++ [diagnostic]) =
      countOf severity report.diagnostics + if diagnostic.severity = severity then 1 else 0 := by
    simp [countOf, List.countP_singleton]
  exact (SeverityCounts.of_add _).trans ((congrArg (· + _) (h severity)).trans hcount.symm)

theorem Tallied.sort (h : report.Tallied) : report.sort.Tallied := fun severity =>
  (h severity).trans (sort_perm.countP_eq _).symm

/-- Every change keeps the tally. Only additions touch the counts, and only additions and sorting
touch the diagnostics. -/
theorem Tallied.apply (h : report.Tallied) (change : Change) : (report.apply change).Tallied := by
  cases change with
  | add diagnostic => exact h.add diagnostic
  | sort => exact h.sort
  | totalFiles | declarationsChecked | milliseconds | configFingerprint => exact h

/-- A change adds its diagnostic, if it has one, and loses none. -/
theorem apply_diagnostics_perm (change : Change) :
    (report.apply change).diagnostics.Perm (report.diagnostics ++ change.added?.toList) := by
  cases change with
  | add diagnostic => exact .refl _
  | sort => exact sort_perm.trans (.of_eq (List.append_nil _).symm)
  | totalFiles | declarationsChecked | milliseconds | configFingerprint =>
      exact .of_eq (List.append_nil _).symm

/-! ## Any changes -/

theorem Tallied.apply_all (h : report.Tallied) (changes : List Change) :
    (changes.foldl Report.apply report).Tallied := by
  induction changes generalizing report with
  | nil => exact h
  | cons change rest ih => exact ih (h.apply change)

theorem tallied_run : (run now changes).Tallied :=
  tallied_start.apply_all changes

theorem apply_all_diagnostics_perm : (changes.foldl apply report).diagnostics.Perm
    (report.diagnostics ++ changes.filterMap Change.added?) := by
  induction changes generalizing report with
  | nil => exact .of_eq (List.append_nil _).symm
  | cons change rest ih =>
      have hrest : (change :: rest).filterMap Change.added? =
          change.added?.toList ++ rest.filterMap Change.added? := by
        rw [List.filterMap_cons]
        cases change.added? <;> rfl
      rw [hrest, ← List.append_assoc]
      exact ih.trans ((apply_diagnostics_perm change).append_right _)

/-! ## What the figures say -/

/-- A report has errors exactly if one of its diagnostics is an error. -/
theorem has_errors_iff_exists :
    report.hasErrors = true ↔ ∃ diagnostic ∈ report.diagnostics, diagnostic.severity = .error := by
  have hblocking (severity : Severity) : severity.isBlocking = true ↔ severity = .error := by
    cases severity <;> simp [Severity.isBlocking]
  rw [hasErrors, List.any_eq_true]
  simp only [hblocking]

/-- A report has errors exactly if it counts one. -/
theorem Tallied.has_errors_iff (h : report.Tallied) :
    report.hasErrors = true ↔ 0 < report.summary.counts.error := by
  have hcount : report.summary.counts.error = countOf .error report.diagnostics := h .error
  rw [has_errors_iff_exists, hcount, countOf, List.countP_pos_iff]
  simp only [decide_eq_true_eq]

/-- Every diagnostic is of one of the three severities. -/
theorem count_of_all (diagnostics : List Diagnostic) :
    countOf .error diagnostics + countOf .warning diagnostics + countOf .info diagnostics =
      diagnostics.length := by
  induction diagnostics with
  | nil => rfl
  | cons diagnostic rest ih =>
      simp only [countOf, List.countP_cons, List.length_cons, decide_eq_true_eq] at ih ⊢
      cases diagnostic.severity <;> simp only [reduceCtorEq, if_true, if_false] <;> omega

/-- A report has diagnostics exactly if its counts do not sum up to zero. -/
theorem Tallied.has_diagnostics_iff (h : report.Tallied) :
    report.hasDiagnostics = true ↔
      report.summary.counts.error + report.summary.counts.warning + report.summary.counts.info ≠
        0 := by
  have hsum : report.summary.counts.error + report.summary.counts.warning +
      report.summary.counts.info = report.diagnostics.length := by
    rw [← count_of_all, ← h .error, ← h .warning, ← h .info]
    rfl
  rw [hsum, hasDiagnostics, Ne, List.length_eq_zero_iff]
  cases report.diagnostics <;> simp

/-- After any changes the counts are those of the diagnostics, no diagnostic is lost or made up, and
what the report says about errors and diagnostics can be read off the counts. -/
theorem run_tallies (now : Instant) (changes : List Change) :
    (run now changes).summary.counts.error =
        (run now changes).diagnostics.countP (fun diagnostic => diagnostic.severity = .error) ∧
    (run now changes).summary.counts.warning =
        (run now changes).diagnostics.countP (fun diagnostic => diagnostic.severity = .warning) ∧
    (run now changes).summary.counts.info =
        (run now changes).diagnostics.countP (fun diagnostic => diagnostic.severity = .info) ∧
    (run now changes).diagnostics.Perm (changes.filterMap Change.added?) ∧
    ((run now changes).hasErrors = true ↔ 0 < (run now changes).summary.counts.error) ∧
    ((run now changes).hasDiagnostics = true ↔
      (run now changes).summary.counts.error + (run now changes).summary.counts.warning +
        (run now changes).summary.counts.info ≠ 0) :=
  have htallied : (run now changes).Tallied := tallied_run
  ⟨htallied .error, htallied .warning, htallied .info, apply_all_diagnostics_perm,
    htallied.has_errors_iff, htallied.has_diagnostics_iff⟩

end Report

end NamingLint
