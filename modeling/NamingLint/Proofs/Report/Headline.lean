import NamingLint.Proofs.Report.Colors
import NamingLint.Proofs.Report.Styles
import NamingLint.Proofs.Text.Lines

/-!
# The first line and the last

A report for people begins with a headline, which goes by the diagnostics that are shown, and ends
with the figures of the run, which count all of them. `headline_agrees_iff` says when the two agree
on whether there are any violations, and `hidden_violation_announced` that they need not.
-/

namespace NamingLint.Report

open NamingLint.Text (linesOf)

/-! ## Texts without control characters -/

/-- A text without control characters. -/
def Visible (text : List Char) : Prop :=
  ∀ c ∈ text, ' ' ≤ c

instance (text : List Char) : Decidable (Visible text) :=
  List.decidableBAll (fun c => ' ' ≤ c) text

section

variable {c : Char} {front back text : List Char}

@[simp]
theorem visible_append : Visible (front ++ back) ↔ Visible front ∧ Visible back :=
  List.forall_mem_append

@[simp]
theorem visible_cons : Visible (c :: text) ↔ ' ' ≤ c ∧ Visible text :=
  List.forall_mem_cons

@[simp]
theorem visible_nil : Visible [] :=
  fun _ h => absurd h List.not_mem_nil

@[simp]
theorem visible_digits (number : Nat) : Visible (Nat.toDigits 10 number) := by
  intro c hc
  have hdigit : c.isDigit = true := (digits_numeral number).all c (numeral_eq ▸ hc)
  simp only [Char.isDigit, Bool.and_eq_true, decide_eq_true_eq] at hdigit
  have hblank : ' '.val ≤ '0'.val := by decide
  exact hblank.trans hdigit.1

theorem Visible.no_escape (h : Visible text) : '\x1b' ∉ text := by
  intro hescape
  exact absurd (h '\x1b' hescape) (by decide)

theorem Visible.unbroken (h : Visible text) : ∀ c ∈ text, c ≠ '\n' ∧ c ≠ '\r' := by
  intro c hc
  constructor
  · rintro rfl
    exact absurd (h '\n' hc) (by decide)
  · rintro rfl
    exact absurd (h '\r' hc) (by decide)

end

/-! ## The figures of a run -/

/-- The severities that occur, with their numbers in words. -/
def countWords (counts : SeverityCounts) : List (Tone × String) :=
  (if 0 < counts.error then [(.severity .error, plural counts.error "error")] else []) ++
  (if 0 < counts.warning then [(.severity .warning, plural counts.warning "warning")] else []) ++
  (if 0 < counts.info then [(.severity .info, toString counts.info ++ " info")] else [])

/-- What stands behind the counts in the figures of a run. -/
def summaryTail (summary : Summary) : String :=
  " in " ++ toString summary.totalFiles ++ " files, " ++ toString summary.declarationsChecked ++
    " declarations checked (" ++ secondsText summary.milliseconds ++ "s)"

section

variable {colors : Bool} {counts : SeverityCounts} {summary : Summary} {rest : List Char}

theorem count_parts_eq : countParts colors counts =
    (countWords counts).map fun part => paint colors part.1 part.2 := by
  simp only [countParts, countWords, List.map_append, apply_ite (List.map _), List.map_cons,
    List.map_nil]

/-- A number and a noun, which does not begin with a `v`. -/
structure IsCount (text : List Char) : Prop where
  visible : Visible text
  counted : ∃ number c more, text = numeral number ++ ' ' :: c :: more ∧ c ≠ 'v'

theorem is_count_plural (count : Nat) {noun : String} (hvisible : Visible noun.toList)
    (hnoun : ∃ c more, noun.toList = c :: more ∧ c ≠ 'v') : IsCount (plural count noun).toList := by
  obtain ⟨c, more, htext, hc⟩ := hnoun
  unfold plural
  split
  · refine ⟨by simp [hvisible], count, c, more, ?_, hc⟩
    simp [htext, numeral]
  · refine ⟨by simp [hvisible], count, c, more ++ ['s'], ?_, hc⟩
    simp [htext, numeral]

theorem is_count_of_words : ∀ part ∈ countWords counts, IsCount part.2.toList := by
  have hif {p : Prop} [Decidable p] {tone : Tone} {text : String} (h : IsCount text.toList) :
      ∀ part ∈ (if p then [(tone, text)] else []), IsCount part.2.toList := by
    split <;> simp [h]
  have herror : IsCount (plural counts.error "error").toList :=
    is_count_plural _ (by simp) ⟨'e', "rror".toList, by simp, by decide⟩
  have hwarning : IsCount (plural counts.warning "warning").toList :=
    is_count_plural _ (by simp) ⟨'w', "arning".toList, by simp, by decide⟩
  have hinfo : IsCount (toString counts.info ++ " info").toList :=
    ⟨by simp, counts.info, 'i', "nfo".toList, by simp [numeral], by decide⟩
  rw [countWords, List.forall_mem_append, List.forall_mem_append]
  exact ⟨⟨hif herror, hif hwarning⟩, hif hinfo⟩

/-- The counts are words exactly if there is nothing to count. -/
theorem count_words_eq_nil_iff : countWords counts = [] ↔
    counts.error = 0 ∧ counts.warning = 0 ∧ counts.info = 0 := by
  simp [countWords]

theorem visible_intercalate {parts : List (List Char)} (h : ∀ part ∈ parts, Visible part) :
    Visible ([',', ' '].intercalate parts) := by
  induction parts with
  | nil => simp [List.intercalate]
  | cons part parts ih =>
      obtain ⟨hpart, hparts⟩ := List.forall_mem_cons.1 h
      cases parts with
      | nil => simpa [List.intercalate] using hpart
      | cons next parts =>
          rw [List.intercalate_cons_cons, visible_append, visible_append]
          exact ⟨⟨hpart, by simp⟩, ih hparts⟩

theorem without_intercalate {parts : List (Tone × String)}
    (h : ∀ part ∈ parts, Visible part.2.toList) :
    withoutSequences ([',', ' '].intercalate
        (parts.map fun part => (paint colors part.1 part.2).toList) ++ rest) =
      [',', ' '].intercalate (parts.map fun part => part.2.toList) ++ withoutSequences rest := by
  induction parts with
  | nil => rfl
  | cons part parts ih =>
      obtain ⟨hpart, hparts⟩ := List.forall_mem_cons.1 h
      cases parts with
      | nil => simpa [List.intercalate] using without_paint hpart.no_escape
      | cons next parts =>
          have hmark : '\x1b' ∉ [',', ' '] := by decide
          have hrest := ih hparts
          simp only [List.map_cons, List.intercalate_cons_cons, List.append_assoc] at hrest ⊢
          rw [without_paint hpart.no_escape, without_append hmark, hrest]

/-- The counts are written in the same words with and without colours. -/
theorem without_count_text : withoutSequences ((countText colors counts).toList ++ rest) =
    (countText false counts).toList ++ withoutSequences rest := by
  unfold countText
  rw [count_parts_eq, count_parts_eq]
  cases hwords : countWords counts with
  | nil => exact without_paint (by simp)
  | cons first more =>
      have hvisible : ∀ part ∈ first :: more, Visible part.2.toList := by
        intro part hpart
        exact (is_count_of_words part (hwords ▸ hpart)).visible
      have hjoined := @without_intercalate colors rest _ hvisible
      simpa [paint, Function.comp_def] using hjoined

theorem visible_count_text : Visible (countText false counts).toList := by
  unfold countText
  rw [count_parts_eq]
  cases hwords : countWords counts with
  | nil => simp [paint]
  | cons first more =>
      have hvisible : ∀ text ∈ (first :: more).map fun part => part.2.toList, Visible text := by
        rw [← hwords, List.forall_mem_map]
        exact fun part hpart => (is_count_of_words part hpart).visible
      simpa [paint, Function.comp_def] using visible_intercalate hvisible

/-- A number and a noun that does not begin with a `v` are not `0 violations`. -/
theorem IsCount.not_prefix {text : List Char} (h : IsCount text) :
    ¬ "0 violations".toList <+: text ++ rest := by
  obtain ⟨number, c, more, rfl, hc⟩ := h.counted
  rintro ⟨behind, heq⟩
  -- Behind the digits, the first two characters tell the nouns apart.
  have hnouns := congrArg (List.dropWhile Char.isDigit) heq
  rw [List.append_assoc, List.dropWhile_append_of_pos (digits_numeral number).all] at hnouns
  simp at hnouns
  exact hc hnouns.1.symm

/-- The counts say that there are no violations exactly if there are none. -/
theorem no_violations_prefix_iff :
    "0 violations".toList <+: (countText false counts).toList ++ rest ↔ countWords counts = [] := by
  unfold countText
  rw [count_parts_eq]
  cases hwords : countWords counts with
  | nil => simp [paint]
  | cons first more =>
      have hfirst : IsCount first.2.toList :=
        is_count_of_words first (hwords ▸ List.mem_cons_self)
      have hbegins : ∃ behind, (", ".intercalate
          ((first :: more).map fun part => paint false part.1 part.2)).toList =
            first.2.toList ++ behind := by
        cases more with
        | nil => exact ⟨[], by simp [paint]⟩
        | cons next more => exact ⟨_, by simp [paint, List.append_assoc]; rfl⟩
      obtain ⟨behind, hbehind⟩ := hbegins
      simp only [List.map_cons] at hbehind ⊢
      rw [hbehind, List.append_assoc]
      simpa using hfirst.not_prefix

theorem summary_line_eq : summaryLine colors summary =
    "Summary: " ++ (countText colors summary.counts ++ (summaryTail summary ++ "\n")) := by
  have hend : "s)\n" = "s)" ++ "\n" := by decide
  delta summaryLine summaryTail
  simp only [String.append_assoc, hend]

theorem visible_tail : Visible (summaryTail summary).toList := by
  simp [summaryTail, secondsText, Binary64.render]

/-- The figures of a run as they are read. -/
def figures (summary : Summary) : String :=
  "Summary: " ++ (countText false summary.counts ++ summaryTail summary)

theorem visible_figures : Visible (figures summary).toList := by
  have hbegin : Visible "Summary: ".toList := by simp
  rw [figures, String.toList_append, String.toList_append]
  exact visible_append.2 ⟨hbegin, visible_append.2 ⟨visible_count_text, visible_tail⟩⟩

/-- Only the counts among the figures of a run have colours. -/
theorem without_summary_line :
    withoutSequences (summaryLine colors summary).toList = (figures summary).toList ++ ['\n'] := by
  have hbegin : '\x1b' ∉ "Summary: ".toList := by simp
  have htail : '\x1b' ∉ (summaryTail summary).toList := visible_tail.no_escape
  rw [summary_line_eq, figures]
  simp only [String.toList_append, List.append_assoc]
  rw [without_append hbegin, without_count_text, without_append htail]
  rw [show "\n".toList = ['\n'] from rfl, without_cons_feed, without_nil]

end

/-! ## The lines of a report -/

/-- The first of the lines says that there are no violations. -/
def AnnouncesNone (lines : List (List Char)) : Prop :=
  lines.head? = some "No naming violations found".toList

/-- The last of the lines counts no violations. -/
def CountsNone (lines : List (List Char)) : Prop :=
  ∃ line ∈ lines.getLast?, "Summary: 0 violations".toList <+: line

/-- A text of which the last line has an end, if it has any lines. -/
def Complete (text : List Char) : Prop :=
  text = [] ∨ ∃ front, text = front ++ ['\n']

theorem Complete.append {front back : List Char} (hfront : Complete front) (hback : Complete back) :
    Complete (front ++ back) := by
  rcases hback with rfl | ⟨back, rfl⟩
  · rwa [List.append_nil]
  · exact .inr ⟨front ++ back, (List.append_assoc _ _ _).symm⟩

section

variable {options : Options} {colors : Bool} {report : Report} {shown : List Diagnostic}

theorem complete_groups (groups : List (Path × List Diagnostic)) :
    Complete (String.join (groups.map (groupLines options colors))).toList := by
  rw [String.toList_join, List.flatMap_map]
  induction groups with
  | nil => exact .inl rfl
  | cons group groups ih =>
      have hgroup : Complete (groupLines options colors group).toList := by
        rw [groupLines, String.toList_append]
        exact .inr ⟨_, rfl⟩
      exact hgroup.append ih

/-- The headline as it is read. -/
def headlineWords (shown : List Diagnostic) : String :=
  if shown.isEmpty then "No naming violations found" else "Naming Violations Found"

/-- The headline is on a line of its own. -/
theorem headline_form : ∃ tone more, Complete more ∧ (headline colors shown).toList =
    (paint colors tone (headlineWords shown)).toList ++ '\n' :: more := by
  unfold headline headlineWords
  split
  · exact ⟨.good, [], .inl rfl, by simp⟩
  · exact ⟨.heading, ['\n'], .inr ⟨[], rfl⟩, by simp⟩

theorem visible_headline : Visible (headlineWords shown).toList := by
  unfold headlineWords
  split <;> simp

/-- The lines of a report, colours aside. -/
theorem lines_of_human_text : ∃ middle,
    linesOf (withoutSequences (report.humanText options colors).toList) =
      (headlineWords (options.select report.diagnostics)).toList ::
        (middle ++ [(figures report.summary).toList]) := by
  obtain ⟨tone, more, hmore, hheadline⟩ := @headline_form colors (options.select report.diagnostics)
  have hwords : Visible (headlineWords (options.select report.diagnostics)).toList :=
    visible_headline
  have hlast : linesOf (withoutSequences (summaryLine colors report.summary).toList) =
      [(figures report.summary).toList] := by
    rw [without_summary_line, Text.lines_of_unbroken visible_figures.unbroken]
  -- What stands between the headline and the figures consists of whole lines.
  let groups := (groupByFile (options.select report.diagnostics)).map (groupLines options colors)
  have hbody : Complete (more ++ (String.join groups).toList) := hmore.append (complete_groups _)
  have htext : (report.humanText options colors).toList =
      (paint colors tone (headlineWords (options.select report.diagnostics))).toList ++
        '\n' :: (more ++ (String.join groups).toList ++
          (summaryLine colors report.summary).toList) := by
    rw [humanText, String.toList_append, String.toList_append, hheadline]
    simp only [List.append_assoc, List.cons_append, groups]
  rw [htext, without_paint hwords.no_escape, without_cons_feed, Text.lines_of_append_feed,
    Text.lines_of_unbroken hwords.unbroken, List.singleton_append]
  rcases hbody with hnil | ⟨front, hfront⟩
  · exact ⟨[], by rw [hnil, List.nil_append, hlast, List.nil_append]⟩
  · refine ⟨linesOf (withoutSequences front ++ ['\n']), ?_⟩
    rw [hfront, List.append_assoc, List.singleton_append, without_feed, Text.lines_of_append_feed,
      hlast]

/-- The first line says that there are no violations exactly if none are shown. -/
theorem announces_none_iff :
    AnnouncesNone (linesOf (withoutSequences (report.humanText options colors).toList)) ↔
      options.select report.diagnostics = [] := by
  obtain ⟨middle, hlines⟩ := @lines_of_human_text options colors report
  rw [AnnouncesNone, hlines, List.head?_cons, Option.some.injEq, String.toList_inj, headlineWords]
  cases options.select report.diagnostics with
  | nil => simp
  | cons first more => simp

/-- The last line counts no violations exactly if the report counts none. -/
theorem counts_none_iff :
    CountsNone (linesOf (withoutSequences (report.humanText options colors).toList)) ↔
      countWords report.summary.counts = [] := by
  obtain ⟨middle, hlines⟩ := @lines_of_human_text options colors report
  have hbegin : "Summary: 0 violations".toList = "Summary: ".toList ++ "0 violations".toList := by
    simp
  rw [CountsNone, hlines, ← List.cons_append, List.getLast?_concat, hbegin]
  simp only [Option.mem_some_iff, exists_eq_left']
  rw [figures, String.toList_append, List.prefix_append_right_inj, String.toList_append,
    no_violations_prefix_iff]

/-- Nothing is shown if nothing may be shown, or if no diagnostic is severe enough. -/
theorem select_eq_nil_iff : options.select shown = [] ↔ options.maxViolations = some 0 ∨
    ∀ diagnostic ∈ shown, ∃ least ∈ options.minSeverity,
      diagnostic.severity.rank < least.rank := by
  have hfilter : (shown.filter fun diagnostic =>
      ∀ least ∈ options.minSeverity, least.rank ≤ diagnostic.severity.rank) = [] ↔
      ∀ diagnostic ∈ shown, ∃ least ∈ options.minSeverity,
        diagnostic.severity.rank < least.rank := by
    simp [List.filter_eq_nil_iff]
  rw [select_eq_take, List.take_eq_nil_iff, hfilter]
  cases options.maxViolations with
  | none =>
      simp only [Option.getD_none, List.length_eq_zero_iff, reduceCtorEq, false_or]
      constructor
      · rintro (rfl | h)
        · exact fun _ h => absurd h List.not_mem_nil
        · exact h
      · exact Or.inr
  | some count => simp

end

/-- The headline says that there are no violations if none are shown, and the figures if there are
none. So the two agree exactly if the report has no diagnostics or shows one of them. -/
theorem headline_agrees_iff {report : Report} (h : report.Tallied) (options : Options)
    (showsColors : Bool) :
    let lines := linesOf (withoutSequences (render .human options showsColors report).toList)
    (AnnouncesNone lines ↔ options.maxViolations = some 0 ∨
      ∀ diagnostic ∈ report.diagnostics, ∃ least ∈ options.minSeverity,
        diagnostic.severity.rank < least.rank) ∧
    (CountsNone lines ↔ report.diagnostics = []) ∧
    ((AnnouncesNone lines ↔ CountsNone lines) ↔ report.diagnostics = [] ∨
      options.maxViolations ≠ some 0 ∧ ∃ diagnostic ∈ report.diagnostics,
        ∀ least ∈ options.minSeverity, least.rank ≤ diagnostic.severity.rank) := by
  intro lines
  have hfirst : AnnouncesNone lines ↔ options.select report.diagnostics = [] := announces_none_iff
  have hlast : CountsNone lines ↔ report.diagnostics = [] := by
    have hcounts : report.diagnostics ≠ [] ↔ report.summary.counts.error +
        report.summary.counts.warning + report.summary.counts.info ≠ 0 := by
      rw [← h.has_diagnostics_iff, hasDiagnostics, Bool.not_eq_true', List.isEmpty_eq_false_iff]
    have hnone : countWords report.summary.counts = [] ↔ report.diagnostics = [] := by
      rw [count_words_eq_nil_iff, ← not_iff_not, ← ne_eq report.diagnostics, hcounts]
      omega
    exact counts_none_iff.trans hnone
  refine ⟨hfirst.trans select_eq_nil_iff, hlast, ?_⟩
  rw [hfirst, hlast, select_eq_nil_iff]
  constructor
  · intro hagree
    by_cases hempty : report.diagnostics = []
    · exact .inl hempty
    · have hshown := mt hagree.1 hempty
      push Not at hshown
      exact .inr hshown
  · rintro (hempty | ⟨hlimit, hshown⟩)
    · simp [hempty]
    · have hsome : report.diagnostics ≠ [] := by
        obtain ⟨diagnostic, hmem, -⟩ := hshown
        exact List.ne_nil_of_mem hmem
      refine iff_of_false ?_ hsome
      push Not
      exact ⟨hlimit, hshown⟩

/-! ## Diagnostics that are not shown -/

/-- A diagnostic of a severity. -/
def diagnosticOf (severity : Severity) : Diagnostic where
  ruleId := "rule"
  severity := severity
  file := ⟨"a.rs"⟩
  message := "m"
  detectedAt := default

theorem some_shown_in_colors :
    let report := ((Report.start default).add (diagnosticOf .info)).add (diagnosticOf .error)
    let options : Options := { maxViolations := some 1, minSeverity := some .warning }
    let lines := linesOf (withoutSequences (render .human options true report).toList)
    report.Tallied ∧ options.select report.diagnostics = [diagnosticOf .error] ∧
      (AnnouncesNone lines ↔ CountsNone lines) := by
  intro report options lines
  have htallied : report.Tallied := (tallied_start.add _).add _
  obtain ⟨-, -, hagree⟩ := headline_agrees_iff htallied options true
  refine ⟨htallied, rfl, hagree.2 (.inr ⟨by decide, diagnosticOf .error, ?_, by decide⟩)⟩
  exact List.mem_append_right _ (List.mem_singleton_self _)

/-- A report with an error announces that there are no violations if it may not show any, and counts
the error all the same. -/
theorem hidden_violation_announced :
    let report := (Report.start default).add (diagnosticOf .error)
    let options : Options := { colors := false, maxViolations := some 0 }
    let lines := linesOf (withoutSequences (render .human options false report).toList)
    report.Tallied ∧
      render .human options false report =
        "No naming violations found\nSummary: 1 error in 0 files, 0 declarations checked (0.0s)\n" ∧
      AnnouncesNone lines ∧ ¬ CountsNone lines := by
  intro report options lines
  refine ⟨tallied_start.add _, ?_, announces_none_iff.2 rfl, ?_⟩
  · decide
  · exact fun hcounts => absurd (counts_none_iff.1 hcounts) (by decide)

end NamingLint.Report
