import NamingLint.Proofs.Analysis.Unreadable

/-!
# A file on its own

A source file may be analysed on its own or as the only path of a run. The two ask the filter, read
the file and put their findings together in different places; `file_agrees_with_run` says that they
come to the same all the same: to one failure, or to reports that differ only in the order of their
diagnostics and in the number of files that they count.
-/

namespace NamingLint.Analyzer

section

variable {analyzer : Analyzer} {tree : FileTree} {options : RunOptions} {filter : PathFilter}
  {now later : Instant} {schedule : (count : Nat) → Schedule count} {file : Path}
  {paths : List Path} {failure : Failure}

/-! ## Without a run -/

/-- A file that the filter lets pass is read and analysed, and any other has no findings. -/
theorem result_report_file : (analyzer.reportFile tree now file).result =
    ((analyzer.filter.shouldAnalyze tree file).result >>= fun passes =>
      if passes then (analyzer.readAndAnalyze tree now file).result else .ok {}).map
        (analyzer.reportOf now 1) := by
  simp only [reportFile, analyzeFile, Journal.result_bind]
  cases (analyzer.filter.shouldAnalyze tree file).result with
  | error failure => rfl
  | ok passes =>
      cases passes with
      | false => rfl
      | true =>
          simp only [Journal.ok_bind, if_true]
          cases (analyzer.readAndAnalyze tree now file).result <;> rfl

/-! ## As the only path of a run -/

/-- A source file stands for itself if the filter lets it pass, and for nothing if not. -/
theorem result_select_file (hfile : tree.isFile file = true)
    (hsource : PathFilter.isSourceFile file = true) :
    (selectFiles filter tree [file]).result =
      (filter.shouldAnalyze tree file).result.map fun passes => if passes then [file] else [] := by
  simp only [selectFiles, filesFor, hfile, hsource, Journal.result_bind, if_true, Bool.not_true,
    Bool.false_eq_true, if_false]
  cases (filter.shouldAnalyze tree file).result with
  | error failure => rfl
  | ok passes => cases passes <;> rfl

/-- A run that cannot select its files fails with what keeps it from doing so. -/
theorem result_of_unselected (hfilter : analyzer.filterFor options = .ok filter)
    (h : (selectFiles filter tree paths).result = .error failure) :
    (analyzer.analyzePaths tree now options schedule paths).result = .error failure := by
  simp [analyzePaths, hfilter, h]

/-- One file is all that a run over it analyses, and a failure stops the run. -/
theorem result_analyze_one :
    (analyzeInTurn (analyzer.readAndAnalyze tree now) true [file]).result =
      (analyzer.readAndAnalyze tree now file).result := by
  rw [result_analyze_in_turn]
  show (takeUpAll true [(file, (analyzer.readAndAnalyze tree now file).result)]).result = _
  cases h : (analyzer.readAndAnalyze tree now file).result with
  | error failure => exact take_up_all_cons_stop
  | ok analysis =>
      rw [take_up_all_cons_found]
      simp [takeUpAll, Except.map, FileAnalysis.append]

/-- A sorted report says what a report of the same findings says that is sorted afterwards, apart
from the number of files. -/
theorem sorted_report {total : Nat} {found again : FileAnalysis} (h : SameFindings found again)
    (hnow : now = later → found = again) :
    let single := analyzer.reportOf now 1 found
    let listed := (analyzer.reportOf later total again).sort
    listed.configFingerprint = single.configFingerprint ∧
      listed.summary.counts = single.summary.counts ∧
      listed.summary.declarationsChecked = single.summary.declarationsChecked ∧
      listed.diagnostics.map untimed = single.sort.diagnostics.map untimed ∧
      (now = later → listed.diagnostics = single.sort.diagnostics) := by
  intro single listed
  have hreport := @same_report analyzer now later 1 total found again h
  refine ⟨rfl, hreport.2.1.symm, hreport.2.2.symm, hreport.1.symm, ?_⟩
  rintro rfl
  obtain rfl := hnow rfl
  exact sorted_diagnostics.trans sorted_diagnostics.symm

end

/-- A source file that is analysed on its own and a run over it alone, which stops at failures, come
to the same: either both fail, and with the same failure, or both give reports with the same
fingerprint, counts and number of declarations, and with the same diagnostics once those of the
first are sorted. Only the times may differ. -/
theorem file_agrees_with_run {analyzer : Analyzer} {tree : FileTree} {file : Path}
    (hfile : tree.isFile file = true) (hsource : PathFilter.isSourceFile file = true)
    (now later : Instant) (schedule : (count : Nat) → Schedule count) :
    (∃ failure, (analyzer.reportFile tree now file).result = .error failure ∧
      (analyzer.analyzePaths tree later { failFast := true } schedule [file]).result =
        .error failure) ∨
    ∃ single listed, (analyzer.reportFile tree now file).result = .ok single ∧
      (analyzer.analyzePaths tree later { failFast := true } schedule [file]).result =
        .ok listed ∧
      listed.configFingerprint = single.configFingerprint ∧
      listed.summary.counts = single.summary.counts ∧
      listed.summary.declarationsChecked = single.summary.declarationsChecked ∧
      listed.diagnostics.map untimed = single.sort.diagnostics.map untimed ∧
      (now = later → listed.diagnostics = single.sort.diagnostics) := by
  have hselect := @result_select_file tree analyzer.filter file hfile hsource
  cases hverdict : (analyzer.filter.shouldAnalyze tree file).result with
  | error failure =>
      -- An ignore file that cannot be read stops both of them.
      rw [hverdict] at hselect
      exact .inl ⟨failure, by rw [result_report_file, hverdict]; rfl,
        result_of_unselected rfl hselect⟩
  | ok passes =>
      have hanalyzes : analyzer.Analyzes tree { failFast := true } [file]
          (if passes then [file] else []) :=
        ⟨_, ⟨_, rfl, hselect.trans (by rw [hverdict]; rfl)⟩, rfl⟩
      rw [result_report_file, hverdict, result_analyze_chosen hanalyzes]
      cases passes with
      | false => exact .inr ⟨_, _, rfl, rfl, sorted_report ⟨rfl, rfl⟩ fun _ => rfl⟩
      | true =>
          simp only [Journal.ok_bind, if_true, result_analyze_one, result_read_and_analyze]
          cases tree.readText file with
          | error cause => exact .inl ⟨_, rfl, rfl⟩
          | ok content =>
              exact .inr ⟨_, _, rfl, rfl, sorted_report same_file_findings fun hnow => by rw [hnow]⟩

/-! ## Findings that are not in order -/

/-- A function with others in an argument and in a condition, the latter of which is met first. -/
def disorderedFunctions : String :=
  "fn f(x: [u8; \x7b fn A() \x7b\x7d 1 \x7d]) " ++
    "where [u8; \x7b fn B() \x7b\x7d 2 \x7d]: Sized \x7b\x7d"

/-- The functions inside the other one, in the order in which they are met. -/
def disorderedDeclarations : List Naming.Declaration :=
  [⟨.localFunction, ⟨"B", ⟨1, 48⟩, true⟩, ⟨.ordinary, false⟩, "fn B ()"⟩,
    ⟨.localFunction, ⟨"A", ⟨1, 19⟩, true⟩, ⟨.ordinary, false⟩, "fn A ()"⟩]

theorem disordered_parsed : ∃ outlines, Source.outline? disorderedFunctions = some outlines ∧
    (Source.declarations (fun _ => false) outlines).filter (lowerCaseOnly none).reports =
      disorderedDeclarations := by
  have hfound : (Source.outline? disorderedFunctions).any (fun outlines => decide (
      (Source.declarations (fun _ => false) outlines).filter (lowerCaseOnly none).reports =
        disorderedDeclarations)) = true := by
    decide +kernel
  obtain ⟨outlines, hread, hfound⟩ := (Option.any_eq_true _ _).1 hfound
  exact ⟨outlines, hread, of_decide_eq_true hfound⟩

/-- A file with these functions and another that is no text. -/
def disorderedTree : FileTree :=
  .ofEntries [("a.rs", .ofText disorderedFunctions), ("b.rs", .file (some ⟨#[0xFF]⟩))]

theorem resolve_disordered :
    disorderedTree.resolve ⟨"a.rs"⟩ true = .ok (.ofText disorderedFunctions) ∧
    disorderedTree.resolve ⟨"b.rs"⟩ true = .ok (.file (some ⟨#[0xFF]⟩)) := by
  constructor
  all_goals exact FileTree.resolve_name (by decide) rfl nofun

theorem read_disordered : disorderedTree.readText ⟨"a.rs"⟩ = .ok disorderedFunctions ∧
    disorderedTree.readText ⟨"b.rs"⟩ = .error .invalidEncoding := by
  obtain ⟨hfirst, hsecond⟩ := resolve_disordered
  exact ⟨FileTree.read_encoded hfirst, FileTree.read_undecodable hsecond (by decide)⟩

/-- An analyzer with the lower-case rule for local functions that leaves out no path. -/
def plainAnalyzer : Analyzer :=
  ⟨lowerCaseOnly none, ⟨[], none⟩, .ofValid (lowerCaseOnly none), fun _ => false⟩

theorem findings_disordered :
    (plainAnalyzer.fileFindings disorderedTree default ⟨"a.rs"⟩).diagnostics =
      disorderedDeclarations.map (finding default ⟨"a.rs"⟩) := by
  obtain ⟨outlines, hparsed, hreported⟩ := disordered_parsed
  have hsource : PathFilter.isSourceFile ⟨"a.rs"⟩ = true := by rfl
  have htable : plainAnalyzer.table.isEmpty = false := by rfl
  have hwritten : Source.isGenerated disorderedFunctions = false := by rfl
  have hfindings : plainAnalyzer.table.analyze default ⟨"a.rs"⟩
      (Source.declarations plainAnalyzer.nativeName outlines) = _ :=
    Naming.RuleTable.analyze_of_valid (lower_case_only_valid none) _
  simp only [fileFindings, read_disordered.1, sourceFindings, hsource, htable, hwritten, hparsed,
    hfindings, Bool.not_true, Bool.or_false, Bool.false_eq_true, if_false, Config.findings]
  rw [← hreported]
  rfl

/-- The findings of the first file come in another order from a run, and the second file makes both
ways fail. -/
theorem disordered_file_agrees :
    (∃ single listed,
      (plainAnalyzer.reportFile disorderedTree default ⟨"a.rs"⟩).result = .ok single ∧
      (plainAnalyzer.analyzePaths disorderedTree default { failFast := true } .inTurn
        [⟨"a.rs"⟩]).result = .ok listed ∧
      single.diagnostics.map Diagnostic.name = [some "B", some "A"] ∧
      listed.diagnostics.map Diagnostic.name = [some "A", some "B"]) ∧
    ∃ failure,
      (plainAnalyzer.reportFile disorderedTree default ⟨"b.rs"⟩).result = .error failure ∧
      (plainAnalyzer.analyzePaths disorderedTree default { failFast := true } .inTurn
        [⟨"b.rs"⟩]).result = .error failure := by
  have hreport (file : Path) : (plainAnalyzer.reportFile disorderedTree default file).result =
      (plainAnalyzer.readAndAnalyze disorderedTree default file).result.map
        (plainAnalyzer.reportOf default 1) := by
    rw [result_report_file]
    rfl
  have hfirst : disorderedTree.isFile ⟨"a.rs"⟩ = true :=
    FileTree.is_file_of_resolve resolve_disordered.1
  have hsecond : disorderedTree.isFile ⟨"b.rs"⟩ = true :=
    FileTree.is_file_of_resolve resolve_disordered.2
  constructor
  · have hsingle := hreport ⟨"a.rs"⟩
    rw [result_read_and_analyze, read_disordered.1] at hsingle
    rcases @file_agrees_with_run plainAnalyzer _ _ hfirst rfl default default .inTurn with
      ⟨failure, hfailed, _⟩ | ⟨single, listed, hdone, hlisted, _, _, _, _, hsorted⟩
    · cases hfailed.symm.trans hsingle
    · obtain rfl := Except.ok.inj (hdone.symm.trans hsingle)
      refine ⟨_, listed, hdone, hlisted, ?_, ?_⟩
      · rw [report_of_diagnostics, findings_disordered]
        rfl
      · have hswapped (le : Diagnostic → Diagnostic → Bool) (first second : Diagnostic)
            (h : le first second = false) : [first, second].mergeSort le = [second, first] := by
          simp [List.mergeSort, h]
        rw [hsorted rfl, sorted_diagnostics, findings_disordered]
        exact congrArg (List.map Diagnostic.name) (hswapped _ _ _ (by decide))
  · have hfailed := hreport ⟨"b.rs"⟩
    rw [result_read_and_analyze, read_disordered.2] at hfailed
    rcases @file_agrees_with_run plainAnalyzer _ _ hsecond rfl default default .inTurn with
      hsame | ⟨single, _, hdone, _⟩
    · exact hsame
    · cases hdone.symm.trans hfailed

end NamingLint.Analyzer
