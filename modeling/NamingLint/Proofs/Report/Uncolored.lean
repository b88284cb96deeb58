import NamingLint.Proofs.Report.Groups
import NamingLint.Proofs.Report.Headline
import NamingLint.Report.Render

/-!
# Reports without their colours

Colours are put around parts of lines all over a report. `Fades` is what every such part has in
common with what it becomes without colours, and it is kept when texts are put together, so that it
holds of whole reports: `colors_present_only` says that colours add nothing but control sequences.
-/

namespace NamingLint.Report

/-! ## Fading texts -/

/-- Without its control sequences a text is another one, whatever stands behind it. -/
def Fades (colored plain : String) : Prop :=
  ∀ rest, withoutSequences (colored.toList ++ rest) = plain.toList ++ withoutSequences rest

section

variable {first second third fourth text : String}

theorem Fades.append (h : Fades first second) (hnext : Fades third fourth) :
    Fades (first ++ third) (second ++ fourth) := by
  intro rest
  rw [String.toList_append, String.toList_append, List.append_assoc, List.append_assoc, h, hnext]

/-- A text without escape characters has no colours to lose. -/
theorem fades_of_no_escape (h : '\x1b' ∉ text.toList) : Fades text text :=
  fun _ => without_append h

theorem fades_of_visible (h : Visible text.toList) : Fades text text :=
  fades_of_no_escape h.no_escape

theorem fades_line_feed : Fades "\n" "\n" :=
  fades_of_no_escape (by decide)

theorem fades_paint {colors : Bool} {tone : Tone} (h : '\x1b' ∉ text.toList) :
    Fades (paint colors tone text) text :=
  fun _ => without_paint h

theorem fades_join {α : Type} {elements : List α} {colored plain : α → String}
    (h : ∀ element ∈ elements, Fades (colored element) (plain element)) :
    Fades (String.join (elements.map colored)) (String.join (elements.map plain)) := by
  intro rest
  rw [String.toList_join, String.toList_join, List.flatMap_map, List.flatMap_map]
  induction elements with
  | nil => rfl
  | cons element elements ih =>
      obtain ⟨helement, helements⟩ := List.forall_mem_cons.1 h
      rw [List.flatMap_cons, List.flatMap_cons, List.append_assoc, List.append_assoc, helement,
        ih helements]

theorem Fades.eq (h : Fades first second) : withoutSequences first.toList = second.toList := by
  have hwhole := h []
  rwa [without_nil, List.append_nil, List.append_nil] at hwhole

end

/-! ## The parts of a report -/

/-- The texts of a diagnostic that are shown to people hold no escape character. -/
structure Unescaped (diagnostic : Diagnostic) : Prop where
  file : '\x1b' ∉ diagnostic.file.text.toList
  message : '\x1b' ∉ diagnostic.message.toList
  ruleId : '\x1b' ∉ diagnostic.ruleId.toList
  context : ∀ text ∈ diagnostic.context, '\x1b' ∉ text.toList
  suggestion : ∀ text ∈ diagnostic.suggestion, '\x1b' ∉ text.toList

section

variable {options : Options} {colors : Bool} {diagnostic : Diagnostic} {report : Report}

theorem fades_headline (shown : List Diagnostic) :
    Fades (headline colors shown) (headline false shown) := by
  unfold headline
  split
  · exact (fades_paint (by decide)).append fades_line_feed
  · exact (fades_paint (by decide)).append (fades_of_no_escape (by decide))

theorem fades_detail {wanted : Bool} {mark : String} {tone : Tone} {text : Option String}
    (hmark : Visible mark.toList) (h : ∀ part ∈ text, '\x1b' ∉ part.toList) :
    Fades (detailLine colors wanted mark tone text) (detailLine false wanted mark tone text) := by
  unfold detailLine
  split
  · next part =>
      have hfront : Fades ("    " ++ mark ++ " ") ("    " ++ mark ++ " ") :=
        fades_of_visible (by simp [hmark])
      exact (hfront.append (fades_paint (h part rfl))).append fades_line_feed
  · exact fades_of_visible (by simp)

theorem fades_diagnostic (h : Unescaped diagnostic) :
    Fades (diagnosticLines options colors diagnostic)
      (diagnosticLines options false diagnostic) := by
  have hseverity : Visible diagnostic.severity.name.toList := by
    cases diagnostic.severity <;> simp [Severity.name]
  unfold diagnosticLines
  refine .append (.append (.append (.append (.append (.append (.append (.append (.append (.append
    ?_ (fades_paint (Visible.no_escape ?position))) ?_) (fades_paint hseverity.no_escape)) ?_)
    (fades_of_no_escape h.message)) ?_) (fades_of_no_escape h.ruleId)) ?_)
    (fades_detail (by simp) h.context)) (fades_detail (by simp) h.suggestion)
  case position => cases diagnostic.location <;> simp [Location.render]
  -- What is left are the marks between the parts.
  all_goals exact fades_of_no_escape (by decide)

theorem fades_group {group : Path × List Diagnostic} (hfile : '\x1b' ∉ group.1.text.toList)
    (h : ∀ diagnostic ∈ group.2, Unescaped diagnostic) :
    Fades (groupLines options colors group) (groupLines options false group) := by
  have hlines := fades_join fun diagnostic hdiagnostic =>
    @fades_diagnostic options colors diagnostic (h diagnostic hdiagnostic)
  exact (((fades_of_no_escape hfile).append fades_line_feed).append hlines).append fades_line_feed

/-- The groups of a report hold its diagnostics and are under the files of these. -/
theorem unescaped_groups {shown : List Diagnostic}
    (h : ∀ diagnostic ∈ shown, Unescaped diagnostic) :
    ∀ group ∈ groupByFile shown, '\x1b' ∉ group.1.text.toList ∧
      ∀ diagnostic ∈ group.2, Unescaped diagnostic := by
  intro group hgroup
  have hmembers : ∀ diagnostic ∈ group.2, Unescaped diagnostic := by
    intro diagnostic hdiagnostic
    rw [group_eq_filter hgroup] at hdiagnostic
    exact h diagnostic (List.mem_filter.1 hdiagnostic).1
  obtain ⟨first, hfirst, hfile⟩ :=
    Option.map_eq_some_iff.1 ((headed_by_file shown).first group hgroup)
  rw [← hfile]
  exact ⟨(hmembers first (List.mem_of_head? hfirst)).file, hmembers⟩

theorem fades_summary_line (summary : Summary) :
    Fades (summaryLine colors summary) (summaryLine false summary) := by
  have hcounts : Fades (countText colors summary.counts) (countText false summary.counts) :=
    fun _ => without_count_text
  have hbegin : Fades "Summary: " "Summary: " := fades_of_no_escape (by decide)
  rw [summary_line_eq, summary_line_eq]
  exact hbegin.append (hcounts.append ((fades_of_visible visible_tail).append fades_line_feed))

/-- A report for people is the one without colours and control sequences. -/
theorem fades_human_text (h : ∀ diagnostic ∈ report.diagnostics, Unescaped diagnostic) :
    Fades (report.humanText options colors) (report.humanText options false) := by
  have hshown : ∀ diagnostic ∈ options.select report.diagnostics, Unescaped diagnostic :=
    fun diagnostic hdiagnostic => h diagnostic (select_sublist.subset hdiagnostic)
  have hgroups := fades_join fun group hgroup =>
    have hgroup := unescaped_groups hshown group hgroup
    @fades_group options colors group hgroup.1 hgroup.2
  exact ((fades_headline _).append hgroups).append (fades_summary_line _)

end

/-- Colours are presentation only: a report for people is the same with and without them, apart from
control sequences, wherever it is shown, and the other styles have none. It is assumed that no text
in a diagnostic holds an escape character, with which it could imitate a control sequence. -/
theorem colors_present_only {report : Report}
    (h : ∀ diagnostic ∈ report.diagnostics, Unescaped diagnostic) (options : Options)
    (showsColors : Bool) :
    withoutSequences (render .human options showsColors report).toList =
      (render .human { options with colors := false } showsColors report).toList ∧
    ∀ style, style ≠ .human → ∀ colors elsewhere,
      render style { options with colors := colors } elsewhere report =
        render style options showsColors report := by
  refine ⟨(fades_human_text h).eq, fun style hstyle colors elsewhere => ?_⟩
  cases style with
  | human => exact absurd rfl hstyle
  | json | sarif | github => rfl

/-- A report with two diagnostics of one file, one of which has a context and a suggestion. -/
def detailedReport : Report :=
  Report.run default [
    .add {
      ruleId := "rule"
      severity := .error
      file := ⟨"a.rs"⟩
      location := some ⟨1, 4⟩
      message := "m"
      context := some "fn A ()"
      suggestion := some "a"
      detectedAt := default },
    .add {
      ruleId := "rule"
      severity := .info
      file := ⟨"a.rs"⟩
      message := "[0m"
      detectedAt := default }]

theorem detailed_report_uncolored :
    (∀ diagnostic ∈ detailedReport.diagnostics, Unescaped diagnostic) ∧
    render .human {} true detailedReport ≠
      render .human { colors := false } true detailedReport ∧
    withoutSequences (render .human {} true detailedReport).toList =
      (render .human { colors := false } true detailedReport).toList := by
  have hunescaped : ∀ diagnostic ∈ detailedReport.diagnostics, Unescaped diagnostic := by
    refine List.forall_mem_cons.2 ⟨?_, List.forall_mem_singleton.2 ?_⟩
    · refine ⟨by decide, by decide, by decide, ?_, ?_⟩
      · intro text htext
        obtain rfl := Option.mem_some_iff.1 htext
        decide
      · intro text htext
        obtain rfl := Option.mem_some_iff.1 htext
        decide
    · exact ⟨by decide, by decide, by decide, nofun, nofun⟩
  exact ⟨hunescaped, by decide +kernel, (colors_present_only hunescaped {} true).1⟩

end NamingLint.Report
