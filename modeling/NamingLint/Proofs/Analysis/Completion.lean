import Mathlib.Algebra.GroupWithZero.Nat
import NamingLint.Analysis.Batch
import NamingLint.Proofs.Analysis.Agreement

/-!
# The order in which analyses are completed

Files are analysed in turn or all at once. `together_matches_in_turn` says that this makes no
difference: in whatever order the analyses are completed, the outcome is that of taking the files
one after the other. `takeUpAll` is where both ways meet, since it is given the outcomes in the
order of the files; `take_up_all_ok` and `take_up_all_stop` say what comes out of it.
-/

namespace NamingLint

/-! ## Findings put together -/

namespace FileAnalysis

variable {analysis : FileAnalysis} {analyses : List FileAnalysis}

/-- The findings of several analyses, one after the other. -/
def concat (analyses : List FileAnalysis) : FileAnalysis :=
  analyses.foldr append {}

@[simp] theorem empty_append : append {} analysis = analysis := by
  simp [append]

theorem concat_diagnostics :
    (concat analyses).diagnostics = analyses.flatMap FileAnalysis.diagnostics := by
  induction analyses with
  | nil => rfl
  | cons first rest ih => exact congrArg (first.diagnostics ++ ·) ih

theorem concat_declarations_checked :
    (concat analyses).declarationsChecked =
      (analyses.map FileAnalysis.declarationsChecked).sum := by
  induction analyses with
  | nil => rfl
  | cons first rest ih => exact congrArg (first.declarationsChecked + ·) ih

end FileAnalysis

namespace Analyzer

/-! ## Taking up outcomes -/

section

variable {failFast : Bool} {file : Path} {analysis : FileAnalysis} {failure : Failure}
  {outcomes before after : List (Path × Except Failure FileAnalysis)}

/-- What is found by an analysis that may have failed. -/
def found : Except Failure FileAnalysis → FileAnalysis
  | .ok analysis => analysis
  | .error _ => {}

/-- The analysis of a file gave a result. -/
def Succeeded (outcome : Path × Except Failure FileAnalysis) : Prop :=
  ∃ analysis, outcome.2 = .ok analysis

theorem take_up_all_cons_found :
    (takeUpAll failFast ((file, .ok analysis) :: outcomes)).result =
      (takeUpAll failFast outcomes).result.map analysis.append := by
  rw [takeUpAll, takeUp, Journal.result_bind, Journal.result_pure, Journal.ok_bind,
    Journal.result_bind]
  cases (takeUpAll failFast outcomes).result <;> rfl

theorem take_up_all_cons_stop :
    (takeUpAll true ((file, .error failure) :: outcomes)).result = .error failure := by
  simp [takeUpAll, takeUp]

/-- A failure that does not stop the run is passed over. -/
theorem take_up_all_cons_passed :
    (takeUpAll false ((file, .error failure) :: outcomes)).result =
      (takeUpAll false outcomes).result := by
  simp only [takeUpAll, takeUp, Bool.false_eq_true, if_false, Journal.result_bind,
    Journal.result_report, Journal.result_pure, Journal.ok_bind]
  cases (takeUpAll false outcomes).result with
  | ok analysis => simp
  | error failure => rfl

/-- Outcomes of which none stops the run are put together. -/
theorem take_up_all_ok (h : failFast = true → ∀ outcome ∈ outcomes, Succeeded outcome) :
    (takeUpAll failFast outcomes).result =
      .ok (.concat (outcomes.map fun outcome => found outcome.2)) := by
  induction outcomes with
  | nil => rfl
  | cons outcome outcomes ih =>
      have hrest := ih fun hstop => (List.forall_mem_cons.1 (h hstop)).2
      obtain ⟨file, result⟩ := outcome
      cases result with
      | ok analysis =>
          rw [take_up_all_cons_found, hrest]
          rfl
      | error failure =>
          cases failFast with
          | true =>
              obtain ⟨analysis, hfound⟩ := (List.forall_mem_cons.1 (h rfl)).1
              cases hfound
          | false =>
              rw [take_up_all_cons_passed, hrest]
              exact congrArg Except.ok FileAnalysis.empty_append.symm

/-- If failures stop the run, the first one in the order of the files does. -/
theorem take_up_all_stop (hbefore : ∀ outcome ∈ before, Succeeded outcome) :
    (takeUpAll true (before ++ (file, .error failure) :: after)).result = .error failure := by
  induction before with
  | nil => exact take_up_all_cons_stop
  | cons outcome before ih =>
      obtain ⟨⟨analysis, hfound⟩, hothers⟩ := List.forall_mem_cons.1 hbefore
      obtain ⟨file, result⟩ := outcome
      obtain rfl : result = .ok analysis := hfound
      rw [List.cons_append, take_up_all_cons_found, ih hothers]
      rfl

end

/-! ## Both ways to the outcomes -/

section

variable {analyze : Path → Journal FileAnalysis} {failFast : Bool} {files : List Path}

/-- The outcomes of analysing files, in the order of the files. -/
def outcomesOf (analyze : Path → Journal FileAnalysis) (files : List Path) :
    List (Path × Except Failure FileAnalysis) :=
  files.map fun file => (file, (analyze file).result)

theorem result_analyze_in_turn : (analyzeInTurn analyze failFast files).result =
    (takeUpAll failFast (outcomesOf analyze files)).result := by
  induction files with
  | nil => rfl
  | cons file rest ih => simp [analyzeInTurn, outcomesOf, takeUpAll, ih]

/-- No failure stops an analysis that has been started. -/
theorem result_complete_all {start : Nat → Journal FileAnalysis} {order : List Nat} :
    (completeAll start order).result =
      .ok (order.map fun number => (number, (start number).result)) := by
  induction order with
  | nil => rfl
  | cons number rest ih => simp [completeAll, ih]

/-- Each outcome is found again by its number, wherever in the order it was completed. -/
theorem lookup_completed {α : Type} {order : List Nat} {number : Nat} (outcome : Nat → α)
    (h : number ∈ order) :
    (order.map fun number => (number, outcome number)).lookup number = some (outcome number) := by
  induction order with
  | nil => cases h
  | cons first rest ih =>
      rw [List.map_cons, List.lookup_cons]
      by_cases heq : number = first
      · simp [heq]
      · have hne : (number == first) = false := by simpa using heq
        rw [hne]
        exact ih ((List.mem_cons.1 h).resolve_left heq)

/-- The order in which analyses are completed has no part in the outcome. -/
theorem result_analyze_together (schedule : Schedule files.length) :
    (analyzeTogether analyze failFast files schedule).result =
      (takeUpAll failFast (outcomesOf analyze files)).result := by
  rw [analyzeTogether, Journal.result_bind, result_complete_all, Journal.ok_bind]
  have hnumbered : outcomesOf analyze files =
      files.zipIdx.map fun entry => (entry.1, (analyze entry.1).result) := by
    conv_lhs => rw [outcomesOf, ← List.zipIdx_map_fst 0 files, List.map_map]
    rfl
  rw [hnumbered]
  congr 2
  -- The number of every file is in the schedule, which is a permutation of all numbers.
  refine List.map_congr_left fun (file, number) hentry => ?_
  have hfile : files[number]? = some file := List.mem_zipIdx_iff_getElem?.1 hentry
  obtain ⟨hlt, _⟩ := List.getElem?_eq_some_iff.1 hfile
  have hscheduled : number ∈ schedule.order :=
    schedule.complete.mem_iff.2 (List.mem_range.2 hlt)
  dsimp only
  rw [lookup_completed _ hscheduled, hfile]
  rfl

end

/-! ## Reading and analysing -/

section

variable {analyzer : Analyzer} {tree : FileTree} {now later : Instant} {file : Path}
  {files : List Path}

/-- What an analyzer finds in a source text. -/
def sourceFindings (analyzer : Analyzer) (now : Instant) (file : Path) (content : String) :
    FileAnalysis :=
  if !PathFilter.isSourceFile file || analyzer.table.isEmpty then {}
  else if Source.isGenerated content then {}
  else
    match Source.outline? content with
    | some outlines =>
      analyzer.table.analyze now file (Source.declarations analyzer.nativeName outlines)
    | none => {}

/-- What an analyzer finds in a file: nothing if it cannot be read. -/
def fileFindings (analyzer : Analyzer) (tree : FileTree) (now : Instant) (file : Path) :
    FileAnalysis :=
  match tree.readText file with
  | .ok content => analyzer.sourceFindings now file content
  | .error _ => {}

/-- The analysis of a source text never fails. -/
theorem result_analyze_source_eq {content : String} :
    (analyzer.analyzeSource now file content).result =
      .ok (analyzer.sourceFindings now file content) := by
  unfold analyzeSource sourceFindings
  split
  · rfl
  · split
    · rfl
    · cases Source.outline? content <;> rfl

/-- The analysis of a file fails exactly if the file cannot be read. -/
theorem result_read_and_analyze : (analyzer.readAndAnalyze tree now file).result =
    match tree.readText file with
    | .ok _ => .ok (analyzer.fileFindings tree now file)
    | .error cause => .error (.analysis file.text (.unreadable cause)) := by
  unfold readAndAnalyze fileFindings
  cases tree.readText file with
  | ok content => exact result_analyze_source_eq
  | error cause => rfl

theorem found_read_and_analyze :
    found (analyzer.readAndAnalyze tree now file).result = analyzer.fileFindings tree now file := by
  rw [result_read_and_analyze]
  unfold fileFindings
  cases tree.readText file <;> rfl

/-- A file can be read as text. -/
def Readable (tree : FileTree) (file : Path) : Prop :=
  ∃ content, tree.readText file = .ok content

/-- A file is the first of some that cannot be read as text. -/
def FirstUnreadable (tree : FileTree) (files : List Path) (file : Path) (cause : ReadError) :
    Prop :=
  ∃ before after, files = before ++ file :: after ∧ (∀ other ∈ before, Readable tree other) ∧
    tree.readText file = .error cause

/-- All of some files can be read, or there is a first one that cannot. -/
theorem readable_or_first (tree : FileTree) (files : List Path) :
    (∀ file ∈ files, Readable tree file) ∨ ∃ file cause, FirstUnreadable tree files file cause := by
  induction files with
  | nil => exact .inl nofun
  | cons file rest ih =>
      cases hread : tree.readText file with
      | error cause => exact .inr ⟨file, cause, [], rest, rfl, nofun, hread⟩
      | ok content =>
          rcases ih with hall | ⟨first, cause, before, after, rfl, hbefore, hfirst⟩
          · exact .inl (List.forall_mem_cons.2 ⟨⟨content, hread⟩, hall⟩)
          · exact .inr ⟨first, cause, file :: before, after, rfl,
              List.forall_mem_cons.2 ⟨⟨content, hread⟩, hbefore⟩, hfirst⟩

/-- A run goes through all files, or a first failure stops it. -/
theorem runs_through_or_stops (tree : FileTree) (failFast : Bool) (files : List Path) :
    (failFast = true → ∀ file ∈ files, Readable tree file) ∨
      failFast = true ∧ ∃ file cause, FirstUnreadable tree files file cause := by
  cases failFast with
  | false => exact .inl nofun
  | true =>
      rcases readable_or_first tree files with hall | hfirst
      · exact .inl fun _ => hall
      · exact .inr ⟨rfl, hfirst⟩

theorem succeeded_of_readable (h : Readable tree file) :
    Succeeded (file, (analyzer.readAndAnalyze tree now file).result) := by
  obtain ⟨content, hread⟩ := h
  exact ⟨_, by rw [result_read_and_analyze, hread]⟩

/-- Files of which none stops the run are analysed one after the other. -/
theorem analyze_in_turn_ok {failFast : Bool}
    (h : failFast = true → ∀ file ∈ files, Readable tree file) :
    (analyzeInTurn (analyzer.readAndAnalyze tree now) failFast files).result =
      .ok (.concat (files.map (analyzer.fileFindings tree now))) := by
  have hsucceeded (hstop : failFast = true) :
      ∀ outcome ∈ outcomesOf (analyzer.readAndAnalyze tree now) files, Succeeded outcome :=
    List.forall_mem_map.2 fun file hfile => succeeded_of_readable (h hstop file hfile)
  have hfindings : (outcomesOf (analyzer.readAndAnalyze tree now) files).map
      (fun outcome => found outcome.2) = files.map (analyzer.fileFindings tree now) := by
    rw [outcomesOf, List.map_map]
    exact List.map_congr_left fun file _ => found_read_and_analyze
  rw [result_analyze_in_turn, take_up_all_ok hsucceeded, hfindings]

/-- The first file that cannot be read stops a run that failures stop. -/
theorem analyze_in_turn_stop {cause : ReadError} (h : FirstUnreadable tree files file cause) :
    (analyzeInTurn (analyzer.readAndAnalyze tree now) true files).result =
      .error (.analysis file.text (.unreadable cause)) := by
  obtain ⟨before, after, rfl, hbefore, hread⟩ := h
  have hsucceeded :
      ∀ outcome ∈ outcomesOf (analyzer.readAndAnalyze tree now) before, Succeeded outcome :=
    List.forall_mem_map.2 fun other hother => succeeded_of_readable (hbefore other hother)
  rw [result_analyze_in_turn, outcomesOf, List.map_append, List.map_cons, result_read_and_analyze,
    hread]
  exact take_up_all_stop hsucceeded

/-! ## At other times -/

/-- A declaration is judged the same at any time. -/
theorem untimed_check {table : Naming.RuleTable} {declaration : Naming.Declaration} :
    (table.check now declaration file).map untimed =
      (table.check later declaration file).map untimed := by
  simp only [Naming.RuleTable.check, List.map_filterMap, Naming.ActiveRule.diagnose,
    Option.map_map]
  rfl

theorem same_source_findings {content : String} :
    SameFindings (analyzer.sourceFindings now file content)
      (analyzer.sourceFindings later file content) := by
  unfold sourceFindings
  split
  · exact ⟨rfl, rfl⟩
  · split
    · exact ⟨rfl, rfl⟩
    · cases Source.outline? content with
      | none => exact ⟨rfl, rfl⟩
      | some outlines =>
          refine ⟨rfl, ?_⟩
          simp only [Naming.RuleTable.analyze, List.map_flatMap]
          exact List.flatMap_congr fun declaration _ => untimed_check

/-- What is found in a file does not depend on the time. -/
theorem same_file_findings :
    SameFindings (analyzer.fileFindings tree now file)
      (analyzer.fileFindings tree later file) := by
  unfold fileFindings
  cases tree.readText file with
  | ok content => exact same_source_findings
  | error cause => exact ⟨rfl, rfl⟩

theorem same_findings_concat :
    SameFindings (.concat (files.map (analyzer.fileFindings tree now)))
      (.concat (files.map (analyzer.fileFindings tree later))) := by
  constructor
  · rw [FileAnalysis.concat_declarations_checked, FileAnalysis.concat_declarations_checked,
      List.map_map, List.map_map]
    exact congrArg List.sum (List.map_congr_left fun file _ => same_file_findings.1)
  · rw [FileAnalysis.concat_diagnostics, FileAnalysis.concat_diagnostics, List.map_flatMap,
      List.map_flatMap, List.flatMap_map, List.flatMap_map]
    exact List.flatMap_congr fun file _ => same_file_findings.2

/-- Two runs end alike: with the same failure, or with the same findings apart from the times. -/
def EndAlike : Except Failure FileAnalysis → Except Failure FileAnalysis → Prop
  | .ok first, .ok second => SameFindings first second
  | .error first, .error second => first = second
  | _, _ => False

/-- Files that are analysed all at once give what they give one after the other, in whatever order
the analyses are completed. A failure is that of the first file that cannot be read, and only if
failures stop the run; otherwise the findings are those of all files in their order. -/
theorem together_matches_in_turn (analyzer : Analyzer) (tree : FileTree) (now : Instant)
    (failFast : Bool) (files : List Path) (schedule : Schedule files.length) :
    (analyzeTogether (analyzer.readAndAnalyze tree now) failFast files schedule).result =
        (analyzeInTurn (analyzer.readAndAnalyze tree now) failFast files).result ∧
    (∀ failure, (analyzeInTurn (analyzer.readAndAnalyze tree now) failFast files).result =
        .error failure ↔ failFast = true ∧ ∃ file cause, FirstUnreadable tree files file cause ∧
          failure = .analysis file.text (.unreadable cause)) ∧
    (∀ analysis, (analyzeInTurn (analyzer.readAndAnalyze tree now) failFast files).result =
        .ok analysis ↔ (failFast = true → ∀ file ∈ files, Readable tree file) ∧
          analysis = .concat (files.map (analyzer.fileFindings tree now))) ∧
    ∀ later, EndAlike
      (analyzeTogether (analyzer.readAndAnalyze tree now) failFast files schedule).result
      (analyzeInTurn (analyzer.readAndAnalyze tree later) failFast files).result := by
  have htogether : (analyzeTogether (analyzer.readAndAnalyze tree now) failFast files
      schedule).result = (analyzeInTurn (analyzer.readAndAnalyze tree now) failFast files).result :=
    (result_analyze_together schedule).trans result_analyze_in_turn.symm
  refine ⟨htogether, fun failure => ⟨fun h => ?_, ?_⟩, fun analysis => ⟨fun h => ?_, ?_⟩,
    fun later => ?_⟩
  · rcases runs_through_or_stops tree failFast files with hthrough | ⟨rfl, file, cause, hfirst⟩
    · rw [analyze_in_turn_ok hthrough] at h
      cases h
    · rw [analyze_in_turn_stop hfirst] at h
      exact ⟨rfl, file, cause, hfirst, (Except.error.inj h).symm⟩
  · rintro ⟨rfl, file, cause, hfirst, rfl⟩
    exact analyze_in_turn_stop hfirst
  · rcases runs_through_or_stops tree failFast files with hthrough | ⟨rfl, file, cause, hfirst⟩
    · rw [analyze_in_turn_ok hthrough] at h
      exact ⟨hthrough, (Except.ok.inj h).symm⟩
    · rw [analyze_in_turn_stop hfirst] at h
      cases h
  · rintro ⟨hthrough, rfl⟩
    exact analyze_in_turn_ok hthrough
  · rw [htogether]
    rcases runs_through_or_stops tree failFast files with hthrough | ⟨rfl, file, cause, hfirst⟩
    · rw [analyze_in_turn_ok hthrough, analyze_in_turn_ok hthrough]
      exact same_findings_concat
    · rw [analyze_in_turn_stop hfirst, analyze_in_turn_stop hfirst]
      rfl

end

end Analyzer

end NamingLint
