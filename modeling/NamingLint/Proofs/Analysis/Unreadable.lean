import NamingLint.Proofs.Analysis.Arguments

/-!
# Files that cannot be read

Some of the files that a run analyses may not be readable as text. `analyze_paths_unreadable` says
what becomes of the others: unless failures stop the run, its report says what a run over the
readable files alone says, but counts all of them; otherwise the first file that cannot be read is
the end of the run.
-/

namespace NamingLint.Analyzer

section

variable {analyzer : Analyzer} {tree : FileTree} {options : RunOptions} {now later : Instant}
  {schedule : (count : Nat) → Schedule count} {paths files : List Path} {file : Path}

/-! ## Findings of the readable files -/

/-- Those of some files that can be read as text. -/
def readable (tree : FileTree) (files : List Path) : List Path :=
  files.filter fun file => (tree.readText file).isOk

theorem is_ok_iff : (tree.readText file).isOk = true ↔ Readable tree file := by
  cases h : tree.readText file <;> simp [Readable, h, Except.isOk, Except.toBool]

theorem readable_of_mem (h : file ∈ readable tree files) : Readable tree file :=
  is_ok_iff.1 (List.mem_filter.1 h).2

/-- Nothing is found in a file that cannot be read. -/
theorem findings_of_not_readable (h : ¬ Readable tree file) :
    analyzer.fileFindings tree now file = {} := by
  unfold fileFindings
  cases hread : tree.readText file with
  | ok content => exact absurd ⟨content, hread⟩ h
  | error cause => rfl

theorem readable_cons_of_readable (h : Readable tree file) :
    readable tree (file :: files) = file :: readable tree files := by
  simp [readable, is_ok_iff.2 h]

theorem readable_cons_of_not_readable (h : ¬ Readable tree file) :
    readable tree (file :: files) = readable tree files := by
  simp [readable, mt is_ok_iff.1 h]

/-- Files that cannot be read neither lose nor change the findings in any other file. -/
theorem findings_of_readable :
    analyzer.findingsOf tree now (readable tree files) = analyzer.findingsOf tree now files := by
  induction files with
  | nil => rfl
  | cons file rest ih =>
      have hcons : analyzer.findingsOf tree now (file :: rest) =
          (analyzer.fileFindings tree now file).append (analyzer.findingsOf tree now rest) := rfl
      by_cases hread : Readable tree file
      · rw [readable_cons_of_readable hread, hcons, ← ih]
        rfl
      · rw [readable_cons_of_not_readable hread, hcons, findings_of_not_readable hread,
          FileAnalysis.empty_append, ih]

/-- The readable files alone give what all files give, whatever a run does at a failure. -/
theorem analyze_readable {failFast : Bool} :
    (analyzeInTurn (analyzer.readAndAnalyze tree now) failFast (readable tree files)).result =
      .ok (analyzer.findingsOf tree now files) := by
  rw [analyze_in_turn_ok fun _ file => readable_of_mem]
  exact congrArg Except.ok findings_of_readable

/-- A file that cannot be read leads to a first one. -/
theorem first_unreadable (h : ∃ file ∈ files, ¬ Readable tree file) :
    ∃ file cause, FirstUnreadable tree files file cause := by
  obtain ⟨file, hmem, hunreadable⟩ := h
  exact (readable_or_first tree files).resolve_left fun hall => hunreadable (hall file hmem)

/-! ## Reports -/

/-- Reports with the same findings say the same about them, apart from the times, whatever numbers
of files they count. -/
theorem same_report {total other : Nat} {found again : FileAnalysis}
    (h : SameFindings found again) :
    let report := (analyzer.reportOf now total found).sort
    let repeated := (analyzer.reportOf later other again).sort
    report.diagnostics.map untimed = repeated.diagnostics.map untimed ∧
      report.summary.counts = repeated.summary.counts ∧
      report.summary.declarationsChecked = repeated.summary.declarationsChecked := by
  intro report repeated
  have hdiagnostics : report.diagnostics.map untimed = repeated.diagnostics.map untimed := by
    rw [sorted_diagnostics, sorted_diagnostics, map_untimed_sort, map_untimed_sort, h.2]
  exact ⟨hdiagnostics, tallied_report_of.sort.counts_eq tallied_report_of.sort hdiagnostics, h.1⟩

end

/-- Of the files that a run analyses some may not be readable. Unless failures stop the run it
counts all of the files and finds what it finds in the readable files alone: its report has the
diagnostics, the counts and the number of declarations of any run that analyses those and no others,
which cannot fail, whatever its options are. If failures stop the run, the first file that cannot be
read is what the run fails with. -/
theorem analyze_paths_unreadable {analyzer : Analyzer} {tree : FileTree} {options : RunOptions}
    {paths files : List Path} (hfiles : analyzer.Analyzes tree options paths files) (now : Instant)
    (schedule : (count : Nat) → Schedule count) :
    (options.failFast = false →
      (analyzer.analyzeFiles tree now options schedule files).result =
        (analyzer.analyzeFiles tree now options schedule (readable tree files)).result ∧
      ∃ report, (analyzer.analyzePaths tree now options schedule paths).result = .ok report ∧
        report.summary.totalFiles = files.length ∧
        ∀ other others later order, analyzer.Analyzes tree other others (readable tree files) →
          ∃ alone, (analyzer.analyzePaths tree later other order others).result = .ok alone ∧
            report.diagnostics.map untimed = alone.diagnostics.map untimed ∧
            report.summary.counts = alone.summary.counts ∧
            report.summary.declarationsChecked = alone.summary.declarationsChecked) ∧
    (options.failFast = true → (∃ file ∈ files, ¬ Readable tree file) →
      ∃ file cause, FirstUnreadable tree files file cause ∧
        (analyzer.analyzePaths tree now options schedule paths).result =
          .error (.analysis file.text (.unreadable cause))) := by
  constructor
  · intro hpassed
    have hthrough : (analyzeInTurn (analyzer.readAndAnalyze tree now) options.failFast files).result
        = .ok (analyzer.findingsOf tree now files) :=
      analyze_in_turn_ok fun hstop => absurd (hpassed.symm.trans hstop) Bool.false_ne_true
    refine ⟨?_, (analyzer.reportOf now files.length (analyzer.findingsOf tree now files)).sort, ?_,
      rfl, fun other others later order halone => ?_⟩
    · rw [result_analyze_files, result_analyze_files, hthrough, analyze_readable]
    · rw [result_analyze_chosen hfiles, hthrough]
      rfl
    · let alone := analyzer.reportOf later (readable tree files).length
        (analyzer.findingsOf tree later files)
      refine ⟨alone.sort, ?_, same_report same_findings_concat⟩
      rw [result_analyze_chosen halone, analyze_readable]
      rfl
  · intro hstop hunreadable
    obtain ⟨file, cause, hfirst⟩ := first_unreadable hunreadable
    refine ⟨file, cause, hfirst, ?_⟩
    rw [result_analyze_chosen hfiles, hstop, analyze_in_turn_stop hfirst]
    rfl

/-! ## A file with a stray byte -/

/-- Two files that report one function each, and one between them that is no text. -/
def strayTree : FileTree :=
  .ofEntries [("a.rs", nestedFile), ("b.rs", .file (some ⟨#[0xFF]⟩)), ("c.rs", nestedFile)]

theorem resolve_stray (followLast : Bool) :
    strayTree.resolve ⟨"a.rs"⟩ followLast = .ok nestedFile ∧
    strayTree.resolve ⟨"b.rs"⟩ followLast = .ok (.file (some ⟨#[0xFF]⟩)) ∧
    strayTree.resolve ⟨"c.rs"⟩ followLast = .ok nestedFile := by
  refine ⟨?_, ?_, ?_⟩
  all_goals exact FileTree.resolve_name (by decide) rfl nofun

theorem read_stray : strayTree.readText ⟨"a.rs"⟩ = .ok nestedFunctions ∧
    strayTree.readText ⟨"b.rs"⟩ = .error .invalidEncoding ∧
    strayTree.readText ⟨"c.rs"⟩ = .ok nestedFunctions := by
  obtain ⟨hfirst, hstray, hlast⟩ := resolve_stray true
  exact ⟨FileTree.read_encoded hfirst, FileTree.read_undecodable hstray (by decide),
    FileTree.read_encoded hlast⟩

/-- A source file that no pattern leaves out stands for itself. -/
theorem files_for_source (hfile : tree.isFile file = true)
    (hsource : PathFilter.isSourceFile file = true) :
    (filesFor ⟨[], none⟩ tree file).result = .ok [file] := by
  simp [filesFor, hfile, hsource, PathFilter.shouldAnalyze, FilterPattern.decide]

theorem files_for_stray :
    (filesFor ⟨[], none⟩ strayTree ⟨"a.rs"⟩).result = .ok [⟨"a.rs"⟩] ∧
    (filesFor ⟨[], none⟩ strayTree ⟨"b.rs"⟩).result = .ok [⟨"b.rs"⟩] ∧
    (filesFor ⟨[], none⟩ strayTree ⟨"c.rs"⟩).result = .ok [⟨"c.rs"⟩] := by
  obtain ⟨hfirst, hstray, hlast⟩ := resolve_stray true
  exact ⟨files_for_source (FileTree.is_file_of_resolve hfirst) rfl,
    files_for_source (FileTree.is_file_of_resolve hstray) rfl,
    files_for_source (FileTree.is_file_of_resolve hlast) rfl⟩

/-- The stray byte leaves two of three files to find something in, in a run that goes on, and is
what a run that stops fails with. -/
theorem analyze_paths_stray : ∃ analyzer report alone,
    (ofConfig (lowerCaseOnly none)).result = .ok analyzer ∧
    (analyzer.analyzePaths strayTree default {} .inTurn
      [⟨"a.rs"⟩, ⟨"b.rs"⟩, ⟨"c.rs"⟩]).result = .ok report ∧
    (analyzer.analyzePaths strayTree default { failFast := true } .inTurn
      [⟨"a.rs"⟩, ⟨"c.rs"⟩]).result = .ok alone ∧
    report.summary.totalFiles = 3 ∧
    report.diagnostics.map untimed = alone.diagnostics.map untimed ∧
    alone.diagnostics.map Diagnostic.file = [⟨"a.rs"⟩, ⟨"c.rs"⟩] ∧
    (analyzer.analyzePaths strayTree default { failFast := true } .inTurn
      [⟨"a.rs"⟩, ⟨"b.rs"⟩, ⟨"c.rs"⟩]).result =
      .error (.analysis "b.rs" (.unreadable .invalidEncoding)) := by
  have hvalid := lower_case_only_valid none
  obtain ⟨regex, hregex⟩ := hvalid.nativePattern
  let analyzer := ofValid (lowerCaseOnly none) ⟨[], none⟩ regex
  have hanalyzer : (ofConfig (lowerCaseOnly none)).result = .ok analyzer := by
    rw [result_of_valid hvalid hregex]
    rfl
  obtain ⟨hfirst, hstray, hlast⟩ := files_for_stray
  obtain ⟨hreadFirst, hreadStray, hreadLast⟩ := read_stray
  have hselectLast : (selectFiles ⟨[], none⟩ strayTree [⟨"c.rs"⟩]).result = .ok [⟨"c.rs"⟩] :=
    select_files_cons_iff.2 ⟨_, _, hlast, rfl, rfl⟩
  have hall (failFast : Bool) : analyzer.Analyzes strayTree { failFast }
      [⟨"a.rs"⟩, ⟨"b.rs"⟩, ⟨"c.rs"⟩] [⟨"a.rs"⟩, ⟨"b.rs"⟩, ⟨"c.rs"⟩] :=
    ⟨_, ⟨_, rfl, select_files_cons_iff.2 ⟨_, _, hfirst,
      select_files_cons_iff.2 ⟨_, _, hstray, hselectLast, rfl⟩, rfl⟩⟩, rfl⟩
  have hunreadable : ¬ Readable strayTree ⟨"b.rs"⟩ := by
    rintro ⟨content, hread⟩
    cases hread.symm.trans hreadStray
  have hreadable : readable strayTree [⟨"a.rs"⟩, ⟨"b.rs"⟩, ⟨"c.rs"⟩] =
      [⟨"a.rs"⟩, ⟨"c.rs"⟩] := by
    rw [readable_cons_of_readable ⟨_, hreadFirst⟩, readable_cons_of_not_readable hunreadable,
      readable_cons_of_readable ⟨_, hreadLast⟩]
    rfl
  have halone : analyzer.Analyzes strayTree { failFast := true } [⟨"a.rs"⟩, ⟨"c.rs"⟩]
      (readable strayTree [⟨"a.rs"⟩, ⟨"b.rs"⟩, ⟨"c.rs"⟩]) := by
    rw [hreadable]
    exact ⟨_, ⟨_, rfl, select_files_cons_iff.2 ⟨_, _, hfirst, hselectLast, rfl⟩⟩, rfl⟩
  obtain ⟨_, report, hreport, htotal, hagain⟩ :=
    (analyze_paths_unreadable (hall false) default .inTurn).1 rfl
  obtain ⟨alone, haloneReport, hdiagnostics, _, _⟩ := hagain _ _ default .inTurn halone
  refine ⟨analyzer, report, alone, hanalyzer, hreport, haloneReport, htotal, hdiagnostics, ?_, ?_⟩
  · have hreported : nestedDeclarations.filter (lowerCaseOnly none).reports =
        nestedDeclarations.drop 1 := by decide +kernel
    have hinFirst : (analyzer.fileFindings strayTree default ⟨"a.rs"⟩).diagnostics = _ :=
      findings_in_nested hvalid hreported rfl hreadFirst
    have hinLast : (analyzer.fileFindings strayTree default ⟨"c.rs"⟩).diagnostics = _ :=
      findings_in_nested hvalid hreported rfl hreadLast
    rw [result_analyze_chosen halone, analyze_readable] at haloneReport
    obtain rfl := Except.ok.inj haloneReport
    simp only [Report.sort, report_of_diagnostics, findings_of_diagnostics, List.flatMap_cons,
      List.flatMap_nil, hinFirst, hinLast, findings_of_not_readable hunreadable]
    rw [List.mergeSort_of_pairwise (by decide)]
    rfl
  · obtain ⟨file, cause, hother, hfailed⟩ :=
      (analyze_paths_unreadable (hall true) default .inTurn).2 rfl ⟨_, by simp, hunreadable⟩
    have hfound : FirstUnreadable strayTree [⟨"a.rs"⟩, ⟨"b.rs"⟩, ⟨"c.rs"⟩] ⟨"b.rs"⟩
        .invalidEncoding :=
      ⟨[⟨"a.rs"⟩], [⟨"c.rs"⟩], rfl, List.forall_mem_singleton.2 ⟨_, hreadFirst⟩, hreadStray⟩
    -- There is one first file that cannot be read, since a run fails with it.
    have hsame : Failure.analysis file.text (.unreadable cause) =
        .analysis "b.rs" (.unreadable .invalidEncoding) :=
      Except.error.inj ((@analyze_in_turn_stop analyzer _ default _ _ _ hother).symm.trans
        (analyze_in_turn_stop hfound))
    rw [hfailed, hsame]

end NamingLint.Analyzer
