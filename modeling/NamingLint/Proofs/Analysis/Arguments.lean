import NamingLint.Analysis.Run
import NamingLint.Proofs.Analysis.Completion
import NamingLint.Proofs.FileTree.Below
import NamingLint.Proofs.Order.Diagnostic
import NamingLint.Proofs.Report.Tally

/-!
# The order of the paths of a run

A run is given files and directories, which may overlap or be repeated. `analyze_paths_reordered`
says that their order makes no difference to the report. The files that are selected are the same
but for their order, and so are the findings; the order in which findings about the same place end
up is that within their file, since only findings of equal files compare as equal.
-/

namespace NamingLint

open NamingLint.Order (ties upTo)

namespace Analyzer

/-! ## Selecting files -/

section

variable {filter : PathFilter} {tree : FileTree} {paths others files : List Path}

theorem select_files_cons_iff {path : Path} {rest : List Path} :
    (selectFiles filter tree (path :: rest)).result = .ok files ↔
      ∃ group others, (filesFor filter tree path).result = .ok group ∧
        (selectFiles filter tree rest).result = .ok others ∧ files = group ++ others := by
  rw [selectFiles, Journal.result_bind]
  cases (filesFor filter tree path).result with
  | error failure => simp
  | ok group =>
      rw [Journal.ok_bind, Journal.result_bind]
      cases (selectFiles filter tree rest).result with
      | error failure => simp
      | ok others => simp [eq_comm]

/-- Paths in another order select the same files, in another order as well. -/
theorem select_files_perm (hperm : paths.Perm others)
    (hfiles : (selectFiles filter tree paths).result = .ok files) :
    ∃ again, (selectFiles filter tree others).result = .ok again ∧ files.Perm again := by
  induction hperm generalizing files with
  | nil => exact ⟨files, hfiles, .refl _⟩
  | cons path _ ih =>
      obtain ⟨group, rest, hgroup, hrest, rfl⟩ := select_files_cons_iff.1 hfiles
      obtain ⟨again, hagain, hfiles⟩ := ih hrest
      exact ⟨_, select_files_cons_iff.2 ⟨group, again, hgroup, hagain, rfl⟩,
        hfiles.append_left group⟩
  | swap first second _ =>
      obtain ⟨group, _, hgroup, hothers, rfl⟩ := select_files_cons_iff.1 hfiles
      obtain ⟨next, rest, hnext, hrest, rfl⟩ := select_files_cons_iff.1 hothers
      -- The files of the first path move behind those of the second one as a whole.
      refine ⟨next ++ (group ++ rest), select_files_cons_iff.2 ⟨next, _, hnext,
        select_files_cons_iff.2 ⟨group, rest, hgroup, hrest, rfl⟩, rfl⟩, ?_⟩
      rw [← List.append_assoc, ← List.append_assoc]
      exact List.perm_append_comm.append_right rest
  | trans _ _ ih ihnext =>
      obtain ⟨middle, hmiddle, hfirst⟩ := ih hfiles
      obtain ⟨again, hagain, hsecond⟩ := ihnext hmiddle
      exact ⟨again, hagain, hfirst.trans hsecond⟩

end

/-! ## What a run comes to -/

section

variable {analyzer : Analyzer} {tree : FileTree} {options : RunOptions} {now later : Instant}
  {schedule : (count : Nat) → Schedule count} {paths files others : List Path} {report : Report}

/-- The files that the paths of a run stand for. -/
def Selects (analyzer : Analyzer) (tree : FileTree) (options : RunOptions)
    (paths files : List Path) : Prop :=
  ∃ filter, analyzer.filterFor options = .ok filter ∧
    (selectFiles filter tree paths).result = .ok files

theorem Selects.unique (h : analyzer.Selects tree options paths files)
    (hagain : analyzer.Selects tree options paths others) : files = others := by
  obtain ⟨filter, hfilter, hfiles⟩ := h
  obtain ⟨again, hsame, hothers⟩ := hagain
  obtain rfl : filter = again := Except.ok.inj (hfilter.symm.trans hsame)
  exact Except.ok.inj (hfiles.symm.trans hothers)

/-- What all files together give. -/
def findingsOf (analyzer : Analyzer) (tree : FileTree) (now : Instant) (files : List Path) :
    FileAnalysis :=
  .concat (files.map (analyzer.fileFindings tree now))

/-- Whether files are analysed one after the other or all at once makes no difference. -/
theorem result_analyze_files : (analyzer.analyzeFiles tree now options schedule files).result =
    (analyzeInTurn (analyzer.readAndAnalyze tree now) options.failFast files).result := by
  unfold analyzeFiles
  split
  · rw [result_analyze_together, ← result_analyze_in_turn]
  · rfl

/-- A run selects its files before it analyses them. -/
theorem selects_of_report
    (h : (analyzer.analyzePaths tree now options schedule paths).result = .ok report) :
    ∃ files, analyzer.Selects tree options paths files := by
  unfold analyzePaths at h
  rw [Journal.result_bind, Journal.result_ofExcept] at h
  cases hfilter : analyzer.filterFor options with
  | error failure => simp [hfilter] at h
  | ok filter =>
      cases hfiles : (selectFiles filter tree paths).result with
      | error failure => simp [hfilter, hfiles] at h
      | ok files => exact ⟨files, filter, hfilter, hfiles⟩

/-- The files that a run analyses: the first ones that its paths stand for, up to its limit. -/
def Analyzes (analyzer : Analyzer) (tree : FileTree) (options : RunOptions)
    (paths files : List Path) : Prop :=
  ∃ selected, analyzer.Selects tree options paths selected ∧
    limit options.maxFiles selected = files

/-- A run makes its report of what the files that it analyses give in turn. -/
theorem result_analyze_chosen (hfiles : analyzer.Analyzes tree options paths files) :
    (analyzer.analyzePaths tree now options schedule paths).result =
      (analyzeInTurn (analyzer.readAndAnalyze tree now) options.failFast files).result.map
        fun analysis => (analyzer.reportOf now files.length analysis).sort := by
  obtain ⟨selected, ⟨filter, hfilter, hselected⟩, rfl⟩ := hfiles
  simp only [analyzePaths, hfilter, hselected, result_analyze_files, Journal.result_bind,
    Journal.result_ofExcept, Journal.result_report, Journal.result_pure, Journal.ok_bind]
  cases (analyzeInTurn (analyzer.readAndAnalyze tree now) options.failFast
    (limit options.maxFiles selected)).result <;> rfl

/-- A run that can select its files gives a report exactly if none of those that it analyses stops
it. -/
theorem analyze_chosen_ok_iff (hfiles : analyzer.Analyzes tree options paths files) :
    (analyzer.analyzePaths tree now options schedule paths).result = .ok report ↔
      (options.failFast = true → ∀ file ∈ files, Readable tree file) ∧
        report =
          (analyzer.reportOf now files.length (analyzer.findingsOf tree now files)).sort := by
  rw [result_analyze_chosen hfiles]
  constructor
  · intro h
    rcases runs_through_or_stops tree options.failFast files with
      hthrough | ⟨hfast, file, cause, hfirst⟩
    · rw [analyze_in_turn_ok hthrough] at h
      exact ⟨hthrough, (Except.ok.inj h).symm⟩
    · rw [hfast, analyze_in_turn_stop hfirst] at h
      cases h
  · rintro ⟨hthrough, rfl⟩
    rw [analyze_in_turn_ok hthrough]
    rfl

/-- A run without a limit gives a report exactly if it can select its files and none of them stops
it. -/
theorem analyze_paths_through_iff (hlimit : options.maxFiles = none) :
    (analyzer.analyzePaths tree now options schedule paths).result = .ok report ↔
      ∃ files, analyzer.Selects tree options paths files ∧
        (options.failFast = true → ∀ file ∈ files, Readable tree file) ∧
        report =
          (analyzer.reportOf now files.length (analyzer.findingsOf tree now files)).sort := by
  have hall {files : List Path} (hfiles : analyzer.Selects tree options paths files) :
      analyzer.Analyzes tree options paths files := ⟨files, hfiles, by rw [hlimit, limit]⟩
  constructor
  · intro h
    obtain ⟨files, hfiles⟩ := selects_of_report h
    exact ⟨files, hfiles, (analyze_chosen_ok_iff (hall hfiles)).1 h⟩
  · rintro ⟨files, hfiles, hreport⟩
    exact (analyze_chosen_ok_iff (hall hfiles)).2 hreport

/-- A run that neither stops early nor has a limit only fails before it analyses files. -/
theorem analyze_paths_ok_iff (hfast : options.failFast = false) (hlimit : options.maxFiles = none) :
    (analyzer.analyzePaths tree now options schedule paths).result = .ok report ↔
      ∃ files, analyzer.Selects tree options paths files ∧
        report =
          (analyzer.reportOf now files.length (analyzer.findingsOf tree now files)).sort := by
  rw [analyze_paths_through_iff hlimit]
  simp [hfast]

end

/-! ## Reports -/

section

variable {analyzer : Analyzer} {now : Instant} {total : Nat} {analysis : FileAnalysis}

theorem diagnostics_add_all {report : Report} {diagnostics : List Diagnostic} :
    (diagnostics.foldl Report.add report).diagnostics = report.diagnostics ++ diagnostics := by
  induction diagnostics generalizing report with
  | nil => exact (List.append_nil _).symm
  | cons diagnostic rest ih =>
      rw [List.foldl_cons, ih]
      exact List.append_assoc _ _ _

theorem report_of_diagnostics :
    (analyzer.reportOf now total analysis).diagnostics = analysis.diagnostics :=
  diagnostics_add_all

theorem sorted_diagnostics : (analyzer.reportOf now total analysis).sort.diagnostics =
    analysis.diagnostics.mergeSort (upTo Diagnostic.compare) := by
  rw [Report.sort, report_of_diagnostics]
  rfl

theorem tallied_report_of : (analyzer.reportOf now total analysis).Tallied := by
  have hadded : analysis.diagnostics.foldl Report.add (Report.start now) =
      Report.run now (analysis.diagnostics.map .add) := by
    rw [Report.run, List.foldl_map]
    rfl
  unfold reportOf
  rw [hadded]
  exact Report.tallied_run.apply_all _

end

end Analyzer

/-- Two reports say the same, apart from the times. -/
structure Report.Alike (left right : Report) : Prop where
  diagnostics : left.diagnostics.map Analyzer.untimed = right.diagnostics.map Analyzer.untimed
  counts : left.summary.counts = right.summary.counts
  totalFiles : left.summary.totalFiles = right.summary.totalFiles
  declarationsChecked : left.summary.declarationsChecked = right.summary.declarationsChecked
  configFingerprint : left.configFingerprint = right.configFingerprint

/-- The counts of a tallied report do not depend on the times of its diagnostics. -/
theorem Report.Tallied.counts_eq {left right : Report} (hleft : left.Tallied)
    (hright : right.Tallied)
    (h : left.diagnostics.map Analyzer.untimed = right.diagnostics.map Analyzer.untimed) :
    left.summary.counts = right.summary.counts := by
  have huntimed (severity : Severity) (diagnostics : List Diagnostic) :
      countOf severity (diagnostics.map Analyzer.untimed) = countOf severity diagnostics :=
    List.countP_map
  refine SeverityCounts.eq_of_of_eq fun severity => ?_
  rw [hleft severity, hright severity, ← huntimed, h, huntimed]

namespace Analyzer

/-! ## Findings in another order -/

section

variable {analyzer : Analyzer} {tree : FileTree} {now later : Instant} {files others : List Path}

/-- Every finding is about the file that is analysed. -/
theorem file_of_mem_findings {file : Path} {diagnostic : Diagnostic}
    (h : diagnostic ∈ (analyzer.fileFindings tree now file).diagnostics) :
    diagnostic.file = file := by
  have hchecked {table : Naming.RuleTable} {declarations : List Naming.Declaration}
      (h : diagnostic ∈ (table.analyze now file declarations).diagnostics) :
      diagnostic.file = file := by
    obtain ⟨declaration, _, hmem⟩ := List.mem_flatMap.1 h
    obtain ⟨active, _, hdiagnose⟩ := List.mem_filterMap.1 hmem
    obtain ⟨violation, _, rfl⟩ := Option.map_eq_some_iff.1 hdiagnose
    rfl
  -- Only a source file that can be read and parsed has findings at all.
  unfold fileFindings sourceFindings at h
  repeat' split at h
  all_goals first | exact hchecked h | cases h

theorem findings_of_diagnostics : (analyzer.findingsOf tree now files).diagnostics =
    files.flatMap fun file => (analyzer.fileFindings tree now file).diagnostics := by
  rw [findingsOf, FileAnalysis.concat_diagnostics, List.flatMap_map]

/-- The findings of files in another order are the same once they are sorted, if files that compare
as equal are equal. -/
theorem sorted_findings_perm (hperm : files.Perm others)
    (hspelled : ∀ file ∈ files, ∀ other ∈ files, Path.compare file other = .eq → file = other) :
    (analyzer.findingsOf tree now files).diagnostics.mergeSort (upTo Diagnostic.compare) =
      (analyzer.findingsOf tree now others).diagnostics.mergeSort (upTo Diagnostic.compare) := by
  rw [findings_of_diagnostics, findings_of_diagnostics]
  refine Order.merge_sort_eq_of_filter_eq fun diagnostic => ?_
  rw [List.filter_flatMap, List.filter_flatMap]
  -- Findings that compare as equal to one diagnostic are all in files that compare as equal.
  have hfile (file : Path) (h : (analyzer.fileFindings tree now file).diagnostics.filter
      (ties Diagnostic.compare diagnostic) ≠ []) : Path.compare diagnostic.file file = .eq := by
    obtain ⟨found, hfound⟩ := List.exists_mem_of_ne_nil _ h
    obtain ⟨hmem, hties⟩ := List.mem_filter.1 hfound
    rw [← file_of_mem_findings hmem]
    exact (Ordering.then_eq_eq.1 (Ordering.then_eq_eq.1 (Order.ties_iff.1 hties)).1).1
  refine Order.flat_map_eq_of_perm hperm fun file hmem other hother hfirst hsecond => ?_
  refine hspelled file hmem other hother ?_
  exact Std.TransCmp.eq_trans (Std.OrientedCmp.eq_symm (hfile file hfirst)) (hfile other hsecond)

/-- The time of a finding has no part in where it is sorted. -/
theorem map_untimed_sort {diagnostics : List Diagnostic} :
    (diagnostics.mergeSort (upTo Diagnostic.compare)).map untimed =
      (diagnostics.map untimed).mergeSort (upTo Diagnostic.compare) :=
  List.map_mergeSort fun _ _ _ _ => rfl

/-- Reports about the same files, in any order and at any times, are alike. -/
theorem alike_of_perm (hperm : files.Perm others)
    (hspelled : ∀ file ∈ files, ∀ other ∈ files, Path.compare file other = .eq → file = other) :
    (analyzer.reportOf now files.length (analyzer.findingsOf tree now files)).sort.Alike
      (analyzer.reportOf later others.length (analyzer.findingsOf tree later others)).sort := by
  have htimes : SameFindings (analyzer.findingsOf tree now others)
      (analyzer.findingsOf tree later others) := same_findings_concat
  have hdiagnostics :
      (analyzer.reportOf now files.length
        (analyzer.findingsOf tree now files)).sort.diagnostics.map untimed =
      (analyzer.reportOf later others.length
        (analyzer.findingsOf tree later others)).sort.diagnostics.map untimed :=
    calc _ = ((analyzer.findingsOf tree now files).diagnostics.mergeSort
          (upTo Diagnostic.compare)).map untimed := by
            rw [sorted_diagnostics]
      _ = ((analyzer.findingsOf tree now others).diagnostics.mergeSort
          (upTo Diagnostic.compare)).map untimed := by
            rw [sorted_findings_perm hperm hspelled]
      _ = ((analyzer.findingsOf tree later others).diagnostics.mergeSort
          (upTo Diagnostic.compare)).map untimed := by
            rw [map_untimed_sort, map_untimed_sort, htimes.2]
      _ = _ := by
            rw [sorted_diagnostics]
  refine ⟨hdiagnostics, tallied_report_of.sort.counts_eq tallied_report_of.sort hdiagnostics,
    hperm.length_eq, ?_, rfl⟩
  show (analyzer.findingsOf tree now files).declarationsChecked =
    (analyzer.findingsOf tree later others).declarationsChecked
  rw [← htimes.1, findingsOf, findingsOf, FileAnalysis.concat_declarations_checked,
    FileAnalysis.concat_declarations_checked]
  exact ((hperm.map _).map _).sum_nat

end

/-- A run that neither stops early nor has a limit gives a report that does not depend on the order
of its paths, on the time or on the order in which the analyses are completed. It is assumed that
of the selected files only equal ones compare as equal. -/
theorem analyze_paths_reordered {analyzer : Analyzer} {tree : FileTree} {options : RunOptions}
    {now : Instant} {schedule : (count : Nat) → Schedule count} {paths others : List Path}
    {report : Report} (hperm : paths.Perm others) (hfast : options.failFast = false)
    (hlimit : options.maxFiles = none)
    (hspelled : ∀ files, analyzer.Selects tree options paths files →
      ∀ file ∈ files, ∀ other ∈ files, Path.compare file other = .eq → file = other)
    (hreport : (analyzer.analyzePaths tree now options schedule paths).result = .ok report)
    (later : Instant) (order : (count : Nat) → Schedule count) :
    ∃ again, (analyzer.analyzePaths tree later options order others).result = .ok again ∧
      report.Alike again := by
  obtain ⟨files, ⟨filter, hfilter, hfiles⟩, rfl⟩ := (analyze_paths_ok_iff hfast hlimit).1 hreport
  obtain ⟨again, hagain, hsame⟩ := select_files_perm hperm hfiles
  refine ⟨_, (analyze_paths_ok_iff hfast hlimit).2 ⟨again, ⟨filter, hfilter, hagain⟩, rfl⟩, ?_⟩
  exact alike_of_perm hsame (hspelled files ⟨filter, hfilter, hfiles⟩)

/-! ## Overlapping paths -/

/-- A file that reports one function. -/
def nestedFile : FileEntry := .ofText nestedFunctions

/-- A directory with two files that report the same function. -/
def twins : FileEntry := .directory .full [("a.rs", nestedFile), ("b.rs", nestedFile)]

/-- The directory and nothing else. -/
def twinTree : FileTree := .ofEntries [("src", twins)]

theorem resolve_twins (followLast : Bool) :
    twinTree.resolve ⟨"src"⟩ followLast = .ok twins ∧
    twinTree.resolve ⟨"src/a.rs"⟩ followLast = .ok nestedFile ∧
    twinTree.resolve ⟨"src/b.rs"⟩ followLast = .ok nestedFile ∧
    twinTree.resolve ⟨"gone"⟩ followLast = .error .notFound := by
  exact ⟨FileTree.resolve_name (by decide) rfl nofun,
    FileTree.resolve_within "src" "a.rs" (by decide) rfl (by decide) (by decide) rfl rfl rfl nofun,
    FileTree.resolve_within "src" "b.rs" (by decide) rfl (by decide) (by decide) rfl rfl rfl nofun,
    FileTree.resolve_missing (by decide) rfl⟩

theorem twins_are_sources : PathFilter.isSourceFile ⟨"src/a.rs"⟩ = true ∧
    PathFilter.isSourceFile ⟨"src/b.rs"⟩ = true := ⟨rfl, rfl⟩

/-- A path that leads nowhere stands for no file. -/
theorem files_for_twins :
    (filesFor ⟨[], none⟩ twinTree ⟨"src"⟩).result = .ok [⟨"src/a.rs"⟩, ⟨"src/b.rs"⟩] ∧
    (filesFor ⟨[], none⟩ twinTree ⟨"src/b.rs"⟩).result = .ok [⟨"src/b.rs"⟩] ∧
    (filesFor ⟨[], none⟩ twinTree ⟨"gone"⟩).result = .ok [] := by
  obtain ⟨hdirectory, _, hfile, hgone⟩ := resolve_twins true
  have hfirst : (⟨"src"⟩ : Path).join ⟨"a.rs"⟩ = ⟨"src/a.rs"⟩ :=
    Path.join_name (by decide) (by decide) (by decide)
  have hsecond : (⟨"src"⟩ : Path).join ⟨"b.rs"⟩ = ⟨"src/b.rs"⟩ :=
    Path.join_name (by decide) (by decide) (by decide)
  have hbelow : twinTree.filesUnder ⟨"src"⟩ = [⟨"src/a.rs"⟩, ⟨"src/b.rs"⟩] := by
    rw [FileTree.files_under_listed rfl fun followLast => (resolve_twins followLast).1]
    show [(⟨"src"⟩ : Path).join ⟨"a.rs"⟩, (⟨"src"⟩ : Path).join ⟨"b.rs"⟩] = _
    rw [hfirst, hsecond]
  have hsorted : ([⟨"src/a.rs"⟩, ⟨"src/b.rs"⟩] : List Path).mergeSort
      (fun left right => Path.compare left right != .gt) = [⟨"src/a.rs"⟩, ⟨"src/b.rs"⟩] :=
    List.mergeSort_of_pairwise (by decide)
  refine ⟨?_, ?_, ?_⟩
  · have hnoFile : twinTree.isFile ⟨"src"⟩ = false := by rw [FileTree.isFile, hdirectory]; rfl
    have hisDirectory : twinTree.isDirectory ⟨"src"⟩ = true := by
      rw [FileTree.isDirectory, hdirectory]
      rfl
    simp [filesFor, hnoFile, hisDirectory, PathFilter.findFiles, PathFilter.filterPaths, hbelow,
      twins_are_sources, PathFilter.shouldAnalyze, FilterPattern.decide, hsorted]
  · simp [filesFor, FileTree.is_file_of_resolve hfile, twins_are_sources,
      PathFilter.shouldAnalyze, FilterPattern.decide]
  · simp [filesFor, FileTree.isFile, FileTree.isDirectory, hgone]

/-- A file with these functions has a finding about the inner one, if the configuration looks at
functions inside others. -/
theorem findings_in_nested {config : Config} {tree : FileTree} {now : Instant} {file : Path}
    {filter : PathFilter} {regex : Regex} (hvalid : config.Valid)
    (hreported : nestedDeclarations.filter config.reports = nestedDeclarations.drop 1)
    (hfile : PathFilter.isSourceFile file = true)
    (hread : tree.readText file = .ok nestedFunctions) :
    ((ofValid config filter regex).fileFindings tree now file).diagnostics =
      (nestedDeclarations.drop 1).map (finding now file) := by
  obtain ⟨outlines, hparsed, hdeclared⟩ := nested_functions_parsed
  have hfound := result_analyze_source_eq.symm.trans
    (@result_analyze_source _ now _ filter regex nestedFunctions hvalid hfile)
  simp only [fileFindings, hread, Except.ok.inj hfound, findingsIn, nested_functions_written,
    hparsed, hdeclared, Config.findings, hreported, Bool.false_eq_true, if_false]

/-- A file, the directory that it is in and a path that leads nowhere. -/
def overlappingPaths : List Path := [⟨"src/b.rs"⟩, ⟨"src"⟩, ⟨"gone"⟩]

/-- Overlapping paths give the same report in either direction, with the findings of the file that
is selected twice behind those of the other one. -/
theorem overlapping_paths_alike : ∃ analyzer report again,
    (ofConfig (lowerCaseOnly none)).result = .ok analyzer ∧
    (analyzer.analyzePaths twinTree default {} .inTurn overlappingPaths).result = .ok report ∧
    (analyzer.analyzePaths twinTree default {} .inTurn overlappingPaths.reverse).result =
      .ok again ∧
    report.Alike again ∧
    again.diagnostics.map Diagnostic.file = [⟨"src/a.rs"⟩, ⟨"src/b.rs"⟩, ⟨"src/b.rs"⟩] := by
  have hvalid := lower_case_only_valid none
  obtain ⟨regex, hregex⟩ := hvalid.nativePattern
  obtain ⟨hdirectory, hfile, hgone⟩ := files_for_twins
  let analyzer := ofValid (lowerCaseOnly none) ⟨[], none⟩ regex
  have hanalyzer : (ofConfig (lowerCaseOnly none)).result = .ok analyzer := by
    rw [result_of_valid hvalid hregex]
    rfl
  have hselects : analyzer.Selects twinTree {} overlappingPaths
      [⟨"src/b.rs"⟩, ⟨"src/a.rs"⟩, ⟨"src/b.rs"⟩] :=
    ⟨_, rfl, select_files_cons_iff.2 ⟨_, _, hfile, select_files_cons_iff.2 ⟨_, _, hdirectory,
      select_files_cons_iff.2 ⟨_, _, hgone, rfl, rfl⟩, rfl⟩, rfl⟩⟩
  have hreversed : analyzer.Selects twinTree {} overlappingPaths.reverse
      [⟨"src/a.rs"⟩, ⟨"src/b.rs"⟩, ⟨"src/b.rs"⟩] :=
    ⟨_, rfl, select_files_cons_iff.2 ⟨_, _, hgone, select_files_cons_iff.2 ⟨_, _, hdirectory,
      select_files_cons_iff.2 ⟨_, _, hfile, rfl, rfl⟩, rfl⟩, rfl⟩⟩
  have hspelled (files : List Path) (h : analyzer.Selects twinTree {} overlappingPaths files) :
      ∀ file ∈ files, ∀ other ∈ files, Path.compare file other = .eq → file = other := by
    obtain rfl := hselects.unique h
    decide
  obtain ⟨report, hreport⟩ :
      ∃ report, (analyzer.analyzePaths twinTree default {} .inTurn overlappingPaths).result =
        .ok report := ⟨_, (analyze_paths_ok_iff rfl rfl).2 ⟨_, hselects, rfl⟩⟩
  obtain ⟨again, hagain, halike⟩ := analyze_paths_reordered (List.reverse_perm _).symm rfl rfl
    hspelled hreport default .inTurn
  refine ⟨analyzer, report, again, hanalyzer, hreport, hagain, halike, ?_⟩
  obtain ⟨files, hfiles, rfl⟩ := (analyze_paths_ok_iff rfl rfl).1 hagain
  obtain rfl := hreversed.unique hfiles
  -- In this direction the files come in ascending order, and so do their findings.
  obtain ⟨_, hresolveFirst, hresolveSecond, _⟩ := resolve_twins true
  have hreported : nestedDeclarations.filter (lowerCaseOnly none).reports =
      nestedDeclarations.drop 1 := by decide +kernel
  have hfirst : (analyzer.fileFindings twinTree default ⟨"src/a.rs"⟩).diagnostics = _ :=
    findings_in_nested hvalid hreported twins_are_sources.1 (FileTree.read_encoded hresolveFirst)
  have hsecond : (analyzer.fileFindings twinTree default ⟨"src/b.rs"⟩).diagnostics = _ :=
    findings_in_nested hvalid hreported twins_are_sources.2 (FileTree.read_encoded hresolveSecond)
  simp only [Report.sort, report_of_diagnostics, findings_of_diagnostics, List.flatMap_cons,
    List.flatMap_nil, hfirst, hsecond]
  rw [List.mergeSort_of_pairwise (by decide)]
  rfl

end Analyzer

end NamingLint
