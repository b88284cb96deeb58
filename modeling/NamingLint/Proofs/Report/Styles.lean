import NamingLint.Proofs.Json.Reading
import NamingLint.Proofs.Report.Groups
import NamingLint.Proofs.Report.Tally
import NamingLint.Report.Render

/-!
# Styles of output agree

`styles_agree` says that a report shows the same diagnostics in every style, none twice and none
left out. The styles for programs keep the order of the report. The style for people goes from file
to file, which is the same order if the report is sorted. None is shown as nothing: an entry of a
document tells what it is about (`same_finding_of_entry`), and in a text each diagnostic takes a line
of its own (`shown_in_lines`).
-/

namespace NamingLint.Report

open Json (Value)
open NamingLint.Order

/-- What an object holds under a name. -/
def valueUnder? (name : String) : Value → Option Value
  | .object members => members.lookup name
  | _ => none

variable {options : Options} {report : Report} {diagnostics : List Diagnostic}

/-! ## What is shown -/

/-- The diagnostics that are severe enough are shown up to the largest number, if there is one. -/
theorem select_eq_take : options.select diagnostics =
    (diagnostics.filter fun diagnostic =>
      ∀ least ∈ options.minSeverity, least.rank ≤ diagnostic.severity.rank).take
        (options.maxViolations.getD diagnostics.length) := by
  have hadmits (diagnostic : Diagnostic) : options.admits diagnostic =
      decide (∀ least ∈ options.minSeverity, least.rank ≤ diagnostic.severity.rank) := by
    unfold Options.admits
    cases options.minSeverity <;> simp
  simp only [Options.select, ← hadmits]
  cases options.maxViolations with
  | some count => rfl
  | none => exact (List.take_of_length_le (List.length_filter_le _ _)).symm

theorem select_sublist : (options.select diagnostics).Sublist diagnostics := by
  rw [select_eq_take]
  exact (List.take_sublist _ _).trans List.filter_sublist

/-- A selection from a sorted report is in the order of the files. -/
theorem select_ascending {earlier : Report} (h : diagnostics = earlier.sort.diagnostics) :
    (options.select diagnostics).Pairwise fun left right =>
      upTo compareFiles left right = true := by
  have hsorted : diagnostics.Pairwise fun left right =>
      upTo Diagnostic.compare left right = true :=
    h ▸ List.pairwise_mergeSort up_to_trans up_to_total _
  -- The file comes first when diagnostics are compared.
  refine (hsorted.sublist select_sublist).imp fun {left right} hle => ?_
  unfold upTo Diagnostic.compare at hle
  unfold upTo compareFiles
  cases hfile : Path.compare left.file right.file <;> simp_all [Ordering.then]

/-! ## Styles for programs -/

theorem whole_diagnostic (diagnostic : Diagnostic) : (diagnosticValue diagnostic).Whole := by
  simp [diagnosticValue, positionValue, timeValue]

theorem whole_summary (summary : Summary) : (summaryValue summary).Whole := by
  simp [summaryValue, timeValue]

theorem json_shows (options : Options) (report : Report) :
    ∃ value, Value.parse? (report.jsonText options) = some value ∧
      valueUnder? "diagnostics" value =
        some (.array ((options.select report.diagnostics).map diagnosticValue)) := by
  refine ⟨_, Value.Whole.parse_pretty ?_, rfl⟩
  simp [whole_diagnostic, whole_summary]

theorem whole_result (diagnostic : Diagnostic) : (sarifResult diagnostic).Whole := by
  simp [sarifResult, sarifText]

theorem whole_rule (rule : Naming.Rule) : (sarifRule rule).Whole := by
  simp [sarifRule, sarifText]

theorem sarif_shows (options : Options) (report : Report) :
    ∃ value run, Value.parse? (report.sarifReport options) = some value ∧
      valueUnder? "runs" value = some (.array [run]) ∧
      valueUnder? "results" run =
        some (.array ((options.select report.diagnostics).map sarifResult)) := by
  refine ⟨_, _, Value.Whole.parse_pretty ?_, rfl, rfl⟩
  simp [whole_result, whole_rule]

/-! ## All styles -/

/-- In every style a report shows the first of its diagnostics that are severe enough, each of them
once. The style for people has them under headings, one for each file, and within these in the same
order as the other styles; the whole order is the same if the report is sorted. -/
theorem styles_agree (options : Options) (showsColors : Bool) (report : Report) :
    let shown := (report.diagnostics.filter fun diagnostic =>
      ∀ least ∈ options.minSeverity, least.rank ≤ diagnostic.severity.rank).take
        (options.maxViolations.getD report.diagnostics.length)
    let colors := options.colors && showsColors
    (∃ value, Value.parse? (render .json options showsColors report) = some value ∧
      valueUnder? "diagnostics" value = some (.array (shown.map diagnosticValue))) ∧
    (∃ value run, Value.parse? (render .sarif options showsColors report) = some value ∧
      valueUnder? "runs" value = some (.array [run]) ∧
      valueUnder? "results" run = some (.array (shown.map sarifResult))) ∧
    render .github options showsColors report = String.join (shown.map annotation) ∧
    ∃ groups : List (Path × List Diagnostic),
      render .human options showsColors report = headline colors shown ++
        String.join (groups.map fun group => group.1.text ++ "\n" ++
          String.join (group.2.map (diagnosticLines options colors)) ++ "\n") ++
        summaryLine colors report.summary ∧
      groups.Pairwise (fun left right => Path.compare left.1 right.1 = .lt) ∧
      (∀ group ∈ groups, group.2 ≠ [] ∧ group.2 = shown.filter fun diagnostic =>
        diagnostic.file.components = group.1.components) ∧
      (groups.flatMap Prod.snd).Perm shown ∧
      ∀ earlier : Report, report.diagnostics = earlier.sort.diagnostics →
        groups.flatMap Prod.snd = shown := by
  intro shown colors
  have hshown : options.select report.diagnostics = shown := select_eq_take
  have hheaded := headed_by_file shown
  have horder : (groupByFile shown).flatMap Prod.snd = shown.mergeSort (upTo compareFiles) :=
    entries_eq_merge_sort shown
  have hgroup (group : Path × List Diagnostic) (hgroup : group ∈ groupByFile shown) :
      group.2 ≠ [] := by
    intro hnil
    have hfirst := hheaded.first group hgroup
    rw [hnil] at hfirst
    cases hfirst
  refine ⟨hshown ▸ json_shows options report, hshown ▸ sarif_shows options report,
    hshown ▸ rfl, groupByFile shown, hshown ▸ rfl, hheaded.ascending,
    fun group h => ⟨hgroup group h, group_eq_filter h⟩, ?_, fun earlier hsorted => ?_⟩
  · rw [horder]
    exact List.mergeSort_perm _ _
  · rw [horder]
    exact List.mergeSort_of_pairwise (hshown ▸ select_ascending hsorted)

/-! ## What an entry tells -/

/-- Two diagnostics say the same of the same file. -/
structure SameFinding (left right : Diagnostic) : Prop where
  rule : left.ruleId = right.ruleId
  severity : left.severity = right.severity
  file : left.file.text = right.file.text
  message : left.message = right.message

theorem name_injective {left right : Severity} (h : left.name = right.name) : left = right := by
  cases left <;> cases right <;> first | rfl | exact absurd h (by decide)

theorem level_injective {left right : Severity} (h : sarifLevel left = sarifLevel right) :
    left = right := by
  cases left <;> cases right <;> first | rfl | exact absurd h (by decide)

/-- In the styles that are documents, diagnostics that differ in what they say have entries that
differ. -/
theorem same_finding_of_entry {left right : Diagnostic}
    (h : diagnosticValue left = diagnosticValue right ∨ sarifResult left = sarifResult right) :
    SameFinding left right := by
  rcases h with h | h
  · simp only [diagnosticValue, Value.object.injEq, List.cons.injEq, Prod.mk.injEq,
      Value.string.injEq, true_and, and_true] at h
    obtain ⟨-, -, -, hfile, -, hmessage, -, hrule, hseverity, -⟩ := h
    exact ⟨hrule, name_injective hseverity, hfile, hmessage⟩
  · simp only [sarifResult, sarifText, Value.object.injEq, Value.array.injEq, List.cons.injEq,
      Prod.mk.injEq, Value.string.injEq, true_and, and_true] at h
    obtain ⟨hlevel, ⟨hfile, -⟩, hmessage, hrule⟩ := h
    exact ⟨hrule, level_injective hlevel, hfile, hmessage⟩

/-- The number of lines that end in a text. -/
def lineCount (text : String) : Nat :=
  text.toList.count '\n'

theorem line_count_append (front back : String) :
    lineCount (front ++ back) = lineCount front + lineCount back := by
  rw [lineCount, String.toList_append, List.count_append]
  rfl

/-- Parts that take a line for each of their entries take a line for each of all entries. -/
theorem length_le_line_count {α β : Type} (entriesOf : α → List β) {parts : List α}
    {text : α → String} (h : ∀ part ∈ parts, (entriesOf part).length ≤ lineCount (text part)) :
    (parts.flatMap entriesOf).length ≤ lineCount (String.join (parts.map text)) := by
  rw [lineCount, String.toList_join, List.flatMap_map]
  induction parts with
  | nil => exact Nat.le_refl 0
  | cons part parts ih =>
      obtain ⟨hpart, hparts⟩ := List.forall_mem_cons.1 h
      rw [List.flatMap_cons, List.flatMap_cons, List.length_append, List.count_append]
      exact Nat.add_le_add hpart (ih hparts)

/-- Diagnostics that take a line each take as many lines together. -/
theorem length_le_of_each {text : Diagnostic → String}
    (h : ∀ diagnostic, 1 ≤ lineCount (text diagnostic)) (shown : List Diagnostic) :
    shown.length ≤ lineCount (String.join (shown.map text)) := by
  have hall := length_le_line_count ([·]) fun diagnostic (_ : diagnostic ∈ shown) => h diagnostic
  rwa [List.flatMap_singleton'] at hall

/-- An annotation is never empty. -/
theorem line_count_annotation (diagnostic : Diagnostic) :
    1 ≤ lineCount ( annotation diagnostic) := by
  rw [ annotation, line_count_append]
  exact Nat.le_add_left _ _

section

variable (options : Options) (colors : Bool)

/-- The lines of a diagnostic are never none. -/
theorem line_count_diagnostic (diagnostic : Diagnostic) :
    1 ≤ lineCount (diagnosticLines options colors diagnostic) := by
  have hfirst : lineCount ")\n" = 1 := rfl
  rw [diagnosticLines, line_count_append, line_count_append, line_count_append, hfirst]
  omega

/-- Grouped by file, diagnostics have a line each, besides those that name the files. -/
theorem line_count_groups (shown : List Diagnostic) : shown.length ≤
    lineCount (String.join ((groupByFile shown).map (groupLines options colors))) := by
  have hlength : (entries (groupByFile shown)).length = shown.length := by
    rw [entries_eq_merge_sort]
    exact (List.mergeSort_perm _ _).length_eq
  rw [← hlength]
  refine length_le_line_count Prod.snd fun group _ => ?_
  have hlines := length_le_of_each (line_count_diagnostic options colors) group.2
  rw [groupLines, line_count_append, line_count_append]
  omega

end

/-- Each diagnostic that is shown takes a line of its own in the styles that are no documents. -/
theorem shown_in_lines (options : Options) (showsColors : Bool) (report : Report) :
    (options.select report.diagnostics).length ≤
        lineCount (render .github options showsColors report) ∧
      (options.select report.diagnostics).length ≤
        lineCount (render .human options showsColors report) := by
  refine ⟨length_le_of_each line_count_annotation _, ?_⟩
  have hgroups := line_count_groups options (options.colors && showsColors)
    (options.select report.diagnostics)
  show _ ≤ lineCount (humanText options (options.colors && showsColors) report)
  rw [humanText, line_count_append, line_count_append]
  omega

/-- A report with one diagnostic. -/
def smallReport : Report :=
  (start default).add {
    ruleId := "rule", severity := .warning, file := ⟨"a.rs"⟩, location := some ⟨3, 1⟩
    message := "m", detectedAt := default }

example : render .github {} false smallReport =
    "::warning file=a.rs,line=3,col=1,title=rule::m\n" := by decide

example : render .human {} false smallReport =
    "Naming Violations Found\n\na.rs\n  3:1 [warning] m (rule)\n\n" ++
      "Summary: 1 warning in 0 files, 0 declarations checked (0.0s)\n" := by decide

end NamingLint.Report
