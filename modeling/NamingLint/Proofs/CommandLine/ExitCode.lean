import NamingLint.CommandLine.Run
import NamingLint.Proofs.Analysis.Arguments
import NamingLint.Proofs.Filter.Spelling

/-!
# Exit codes of checks

A check ends with the code 0, 1 or 2. `check_exit_code` says with which: 2 if it fails on its way to
a report, and otherwise 1 or 0, depending on whether there is an error in the report. Read `Reaches`
first: it says what a check looks at, and nothing in it speaks of what is shown in the end.
-/

namespace NamingLint.CommandLine

open NamingLint.Analyzer (Readable)

/-! ## What a check comes to -/

namespace CheckOptions

/-- What a check comes to before anything is shown: it fails if its configuration cannot be loaded,
if no analyzer can be built from it or if the analysis of the paths fails, and it has a report
otherwise. -/
inductive Ends (options : CheckOptions) (environment : Environment) (file : Option Path) :
    Except CheckFailure Report → Prop
  | unloaded {cause : Failure}
      (hload : (loadConfiguration environment.tree file).result = .error cause) :
      Ends options environment file (.error (.loading file cause))
  | unbuilt {config : Config} {cause : Failure}
      (hload : (loadConfiguration environment.tree file).result = .ok config)
      (hbuild : (Analyzer.ofConfig (options.enableRules config)).result = .error cause) :
      Ends options environment file (.error (.construction cause))
  | unanalysed {config : Config} {analyzer : Analyzer} {cause : Failure}
      (hload : (loadConfiguration environment.tree file).result = .ok config)
      (hbuild : (Analyzer.ofConfig (options.enableRules config)).result = .ok analyzer)
      (hrun : (analyzer.analyzePaths environment.tree environment.now options.runOptions
        environment.schedule options.effectivePaths).result = .error cause) :
      Ends options environment file (.error (.analysis cause))
  | reported {config : Config} {analyzer : Analyzer} {report : Report}
      (hload : (loadConfiguration environment.tree file).result = .ok config)
      (hbuild : (Analyzer.ofConfig (options.enableRules config)).result = .ok analyzer)
      (hrun : (analyzer.analyzePaths environment.tree environment.now options.runOptions
        environment.schedule options.effectivePaths).result = .ok report) :
      Ends options environment file (.ok report)

variable {options changed : CheckOptions} {environment elsewhere : Environment}
  {file : Option Path} {result : Except CheckFailure Report} {report : Report}
  {analyzer : Analyzer} {files : List Path}

theorem ends_iff : options.Ends environment file result ↔
    (options.report environment file).2 = result := by
  constructor
  · rintro (hload | ⟨hload, hbuild⟩ | ⟨hload, hbuild, hrun⟩ | ⟨hload, hbuild, hrun⟩)
    · simp [CheckOptions.report, hload]
    · simp [CheckOptions.report, hload, hbuild]
    · simp [CheckOptions.report, hload, hbuild, hrun, Except.mapError]
    · simp [CheckOptions.report, hload, hbuild, hrun, Except.mapError]
  · rintro rfl
    unfold CheckOptions.report
    cases hload : (loadConfiguration environment.tree file).result with
    | error cause => simpa [hload] using .unloaded hload
    | ok config =>
        cases hbuild : (Analyzer.ofConfig (options.enableRules config)).result with
        | error cause => simpa [hload, hbuild] using .unbuilt hload hbuild
        | ok analyzer =>
            cases hrun : (analyzer.analyzePaths environment.tree environment.now
                options.runOptions environment.schedule options.effectivePaths).result with
            | error cause =>
                simpa [hload, hbuild, hrun, Except.mapError] using .unanalysed hload hbuild hrun
            | ok report =>
                simpa [hload, hbuild, hrun, Except.mapError] using .reported hload hbuild hrun

/-! ## What a check looks at -/

/-- A check has an analyzer and files to analyse, and none of the files stops it. -/
def Reaches (options : CheckOptions) (tree : FileTree) (file : Option Path) (analyzer : Analyzer)
    (files : List Path) : Prop :=
  ∃ config, (loadConfiguration tree file).result = .ok config ∧
    (Analyzer.ofConfig (options.enableRules config)).result = .ok analyzer ∧
    analyzer.Selects tree options.runOptions options.effectivePaths files ∧
    (options.failFast = true → ∀ other ∈ files, Readable tree other)

/-- The report of a check holds what is found in all the files that it reaches. -/
theorem ends_report_iff : options.Ends environment file (.ok report) ↔
    ∃ analyzer files, options.Reaches environment.tree file analyzer files ∧
      report = (analyzer.reportOf environment.now files.length
        (analyzer.findingsOf environment.tree environment.now files)).sort := by
  constructor
  · rintro ⟨⟩
    rename_i config analyzer hload hbuild hrun
    obtain ⟨files, hfiles, hthrough, rfl⟩ := (Analyzer.analyze_paths_through_iff rfl).1 hrun
    exact ⟨analyzer, files, ⟨config, hload, hbuild, hfiles, hthrough⟩, rfl⟩
  · rintro ⟨analyzer, files, ⟨config, hload, hbuild, hfiles, hthrough⟩, rfl⟩
    exact .reported hload hbuild
      ((Analyzer.analyze_paths_through_iff rfl).2 ⟨files, hfiles, hthrough, rfl⟩)

/-- The options without those that say what is shown of a report, and how, and whether files are
analysed all at once. -/
def unshown (options : CheckOptions) : CheckOptions :=
  { options with style := .human, minSeverity := none, maxViolations := none, parallel := true }

/-- What a check looks at does not depend on what it shows. -/
theorem reaches_unshown {tree : FileTree} :
    options.unshown.Reaches tree file analyzer files ↔
      options.Reaches tree file analyzer files := .rfl

/-! ## The exit code of a check -/

/-- The exit code tells a failure from a report with errors and from one without. -/
theorem exit_code_tells (colors : Bool) :
    ((options.run environment file colors).exitCode = 2 ↔
      ∃ failure, options.Ends environment file (.error failure)) ∧
    ((options.run environment file colors).exitCode = 1 ↔
      ∃ report, options.Ends environment file (.ok report) ∧
        ∃ diagnostic ∈ report.diagnostics, diagnostic.severity = .error) ∧
    ((options.run environment file colors).exitCode = 0 ↔
      ∃ report, options.Ends environment file (.ok report) ∧
        ∀ diagnostic ∈ report.diagnostics, diagnostic.severity ≠ .error) := by
  have hnone (report : Report) : report.hasErrors = false ↔
      ∀ diagnostic ∈ report.diagnostics, diagnostic.severity ≠ .error := by
    rw [← Bool.not_eq_true, Report.has_errors_iff_exists]
    simp only [not_exists, not_and, ne_eq]
  simp only [ends_iff, ← Report.has_errors_iff_exists, ← hnone]
  cases hreport : (options.report environment file).2 with
  | error failure => simp [CheckOptions.run, hreport]
  | ok report => cases herrors : report.hasErrors <;> simp [CheckOptions.run, hreport, herrors]

theorem errors_in_report {tree : FileTree} {now : Instant} {total : Nat} :
    (analyzer.reportOf now total (analyzer.findingsOf tree now files)).sort.hasErrors =
      (analyzer.findingsOf tree now files).diagnostics.any
        fun diagnostic => diagnostic.severity.isBlocking := by
  rw [Report.hasErrors, Report.sort_perm.any_eq, Analyzer.report_of_diagnostics]

/-- Whether there is an error among findings does not depend on the time. -/
theorem errors_untimed {tree : FileTree} (now later : Instant) :
    ((analyzer.findingsOf tree now files).diagnostics.any
        fun diagnostic => diagnostic.severity.isBlocking) =
      (analyzer.findingsOf tree later files).diagnostics.any
        fun diagnostic => diagnostic.severity.isBlocking := by
  have huntimed (diagnostics : List Diagnostic) :
      (diagnostics.any fun diagnostic => diagnostic.severity.isBlocking) =
        (diagnostics.map Analyzer.untimed).any
          fun diagnostic => diagnostic.severity.isBlocking := by
    rw [List.any_map]
    rfl
  have hsame : Analyzer.SameFindings (analyzer.findingsOf tree now files)
      (analyzer.findingsOf tree later files) := Analyzer.same_findings_concat
  rw [huntimed, hsame.2, ← huntimed]

/-- A check that gets as far as the findings of its files tells by its exit code whether there is an
error among them. -/
theorem exit_code_of_reaches {colors : Bool}
    (h : options.Reaches environment.tree file analyzer files) :
    (options.run environment file colors).exitCode =
      if (analyzer.findingsOf environment.tree environment.now files).diagnostics.any
        fun diagnostic => diagnostic.severity.isBlocking then 1 else 0 := by
  have hreport := ends_iff.1 (ends_report_iff.2 ⟨analyzer, files, h, rfl⟩)
  rw [← @errors_in_report _ _ _ _ files.length]
  simp only [CheckOptions.run, hreport]

/-- A check that does not get that far fails. -/
theorem exit_code_of_not_reaches {colors : Bool}
    (h : ∀ analyzer files, ¬ options.Reaches environment.tree file analyzer files) :
    (options.run environment file colors).exitCode = 2 := by
  cases hreport : (options.report environment file).2 with
  | error failure => simp only [CheckOptions.run, hreport]
  | ok report =>
      obtain ⟨analyzer, files, hreaches, _⟩ := ends_report_iff.1 (ends_iff.2 hreport)
      exact absurd hreaches (h analyzer files)

/-- Neither the time, nor the order in which analyses are completed, nor what is shown has a part in
the exit code. -/
theorem exit_code_unshown {colors otherColors : Bool} (htree : elsewhere.tree = environment.tree)
    (hoptions : changed.unshown = options.unshown) :
    (changed.run elsewhere file otherColors).exitCode =
      (options.run environment file colors).exitCode := by
  have hsame (analyzer : Analyzer) (files : List Path) :
      changed.Reaches elsewhere.tree file analyzer files ↔
        options.Reaches environment.tree file analyzer files := by
    rw [← reaches_unshown, hoptions, reaches_unshown, htree]
  by_cases hreaches : ∃ analyzer files, options.Reaches environment.tree file analyzer files
  · obtain ⟨analyzer, files, h⟩ := hreaches
    rw [exit_code_of_reaches h, exit_code_of_reaches ((hsame analyzer files).2 h), htree,
      errors_untimed elsewhere.now environment.now]
  · have hnever : ∀ analyzer files,
        ¬ options.Reaches environment.tree file analyzer files :=
      fun analyzer files h => hreaches ⟨analyzer, files, h⟩
    rw [exit_code_of_not_reaches hnever, exit_code_of_not_reaches fun analyzer files h =>
      hnever analyzer files ((hsame analyzer files).1 h)]

end CheckOptions

/-! ## The exit code of a command line -/

/-- A well-formed command line for a check, with the configuration file and the options that it
gives. -/
def AsksToCheck (arguments : List String) (file : Option Path) (options : CheckOptions) : Prop :=
  ∃ verbose colors, Invocation.ofArguments arguments = .ok ⟨.check options, verbose, file, colors⟩

section

variable {environment : Environment} {arguments : List String} {file : Option Path}
  {options : CheckOptions}

theorem exit_code_of_asks (h : AsksToCheck arguments file options) :
    ∃ colors, (run environment arguments).exitCode =
      (options.run environment file colors).exitCode := by
  obtain ⟨verbose, colors, h⟩ := h
  exact ⟨colors, by rw [run, h]; rfl⟩

/-- The exit code of a check is 2 exactly if the check fails. Otherwise its report holds what is
found in all the files that it looks at, and the exit code is 1 or 0, depending on whether there is
an error in the report. A command line that asks for the same check, but shows something else of its
report or does not analyse files at once, has the same exit code on the same files. -/
theorem check_exit_code (h : AsksToCheck arguments file options) (environment : Environment) :
    ((run environment arguments).exitCode = 2 ↔
      ∃ failure, options.Ends environment file (.error failure)) ∧
    ((run environment arguments).exitCode = 1 ↔
      ∃ report, options.Ends environment file (.ok report) ∧
        ∃ diagnostic ∈ report.diagnostics, diagnostic.severity = .error) ∧
    ((run environment arguments).exitCode = 0 ↔
      ∃ report, options.Ends environment file (.ok report) ∧
        ∀ diagnostic ∈ report.diagnostics, diagnostic.severity ≠ .error) ∧
    (∀ report, options.Ends environment file (.ok report) →
      ∃ analyzer files, options.Reaches environment.tree file analyzer files ∧
        ∀ diagnostic, diagnostic ∈ report.diagnostics ↔ ∃ other ∈ files,
          diagnostic ∈
            (analyzer.fileFindings environment.tree environment.now other).diagnostics) ∧
    ∀ elsewhere others changed, AsksToCheck others file changed →
      changed.unshown = options.unshown → elsewhere.tree = environment.tree →
      (run elsewhere others).exitCode = (run environment arguments).exitCode := by
  obtain ⟨colors, hcode⟩ := @exit_code_of_asks environment _ _ _ h
  rw [hcode]
  obtain ⟨hfailed, herrors, hnone⟩ := CheckOptions.exit_code_tells colors
  refine ⟨hfailed, herrors, hnone, ?_, ?_⟩
  · intro report hreport
    obtain ⟨analyzer, files, hreaches, rfl⟩ := CheckOptions.ends_report_iff.1 hreport
    refine ⟨analyzer, files, hreaches, fun diagnostic => ?_⟩
    rw [Report.sort_perm.mem_iff, Analyzer.report_of_diagnostics,
      Analyzer.findings_of_diagnostics, List.mem_flatMap]
  · intro elsewhere others changed hothers hoptions htree
    obtain ⟨otherColors, hother⟩ := @exit_code_of_asks elsewhere _ _ _ hothers
    rw [hother]
    exact CheckOptions.exit_code_unshown htree hoptions

end

/-! ## A check under other display options -/

/-- A check of one file for names that do not begin in lower case. -/
def lowerCaseCheck : List String :=
  ["check", "--enable", "element_must_begin_with_lower_case", "--no-ignore", "src/b.rs"]

/-- What `lowerCaseCheck` asks for. -/
def lowerCaseOptions : CheckOptions where
  paths := [⟨"src/b.rs"⟩]
  withoutIgnoreFiles := true
  enabledRules := ["element_must_begin_with_lower_case"]

/-- The same check, of which nothing is shown. -/
def silentCheck : List String :=
  lowerCaseCheck ++ ["--format=json", "-s", "error", "--max-violations", "0", "--no-color",
    "--no-parallel"]

/-- What `silentCheck` asks for. -/
def silentOptions : CheckOptions :=
  { lowerCaseOptions with
    style := .json, minSeverity := some .error, maxViolations := some 0, parallel := false }

open Analyzer in
/-- The directory and nothing else has no configuration file. -/
theorem discover_in_twins : Config.discoverFile? twinTree ⟨"."⟩ = none := by
  have hmissing (name : String) (hname : name ∈ Config.fileNames) :
      twinTree.isFile (Path.join ⟨"."⟩ ⟨name⟩) = false := by
    simp only [Config.fileNames, List.mem_cons, List.not_mem_nil, or_false] at hname
    rcases hname with rfl | rfl | rfl | rfl
    all_goals
      rw [Path.join_dot (by rw [Bool.eq_false_iff, ne_eq, Path.starts_with_separator_iff]; decide),
        FileTree.isFile, FileTree.resolve_dotted (by decide) (by decide) (by decide), twinTree,
        FileTree.resolve_missing (by decide) rfl]
  rw [Config.discoverFile?, List.find?_eq_none]
  intro file hfile
  obtain ⟨name, hname, rfl⟩ := List.mem_map.1 hfile
  simpa using hmissing name hname

/-- The configuration that the check analyses with. -/
def lowerCaseEnabled : Config := Config.default.enableRule Naming.Rule.lowerCase.id

theorem lower_case_enabled_valid : lowerCaseEnabled.Valid :=
  Config.validate_ok_iff.1 (by rfl)

/-- The patterns of the default configuration let the file pass. -/
theorem default_patterns_admit (ignoreFile : Option String) : ∃ filter,
    PathFilter.ofPatterns Config.defaultPaths.patterns ignoreFile = .ok filter ∧
      FilterPattern.decide filter.patterns ⟨"src/b.rs"⟩ true = true := by
  have habove : ((⟨"src/b.rs"⟩ : Path).parents.filter fun directory =>
      !directory.text.isEmpty) = [⟨"src"⟩] := by decide
  have hname : (⟨"src"⟩ : Path).fileName = some "src" := by decide
  refine ⟨_, by cbv, ?_⟩
  simp only [FilterPattern.decide, FilterPattern.appliesTo, FilterPattern.matchesPath, habove,
    List.any_cons, List.any_nil, hname]
  cbv

open Analyzer in
/-- The check has one file to look at, and there is an error in it. -/
theorem reaches_lower_case : ∃ analyzer,
    lowerCaseOptions.Reaches twinTree none analyzer [⟨"src/b.rs"⟩] ∧
      ∃ diagnostic ∈ (analyzer.fileFindings twinTree default ⟨"src/b.rs"⟩).diagnostics,
        diagnostic.severity = .error := by
  have hload : (loadConfiguration twinTree none).result = .ok Config.default := by
    rw [loadConfiguration, Config.discover, discover_in_twins]
    rfl
  obtain ⟨regex, hregex⟩ := lower_case_enabled_valid.nativePattern
  obtain ⟨filter, hread, hadmitted⟩ := default_patterns_admit (ignoreFileOf lowerCaseEnabled)
  have hpatterns : lowerCaseEnabled.paths.patterns = Config.defaultPaths.patterns := rfl
  have hfilter : filterOf lowerCaseEnabled = .ok filter := by
    rw [filterOf, hpatterns, hread]
  obtain ⟨_, _, hfile, _⟩ := resolve_twins true
  refine ⟨ofValid lowerCaseEnabled filter regex,
    ⟨Config.default, hload, ?_, ?_, fun hfast => absurd hfast Bool.false_ne_true⟩, ?_⟩
  · exact (result_of_valid lower_case_enabled_valid hregex).trans (by rw [hfilter]; rfl)
  · refine ⟨filter.withoutIgnoreFiles, rfl,
      select_files_cons_iff.2 ⟨[⟨"src/b.rs"⟩], [], ?_, rfl, rfl⟩⟩
    simp [filesFor, FileTree.is_file_of_resolve hfile, twins_are_sources,
      PathFilter.shouldAnalyze, PathFilter.withoutIgnoreFiles, hadmitted]
  · rw [findings_in_nested lower_case_enabled_valid (by decide +kernel) twins_are_sources.2
      (FileTree.read_encoded hfile)]
    exact ⟨_, List.mem_cons_self, rfl⟩

/-- What a check finds around it where there is the directory and nothing else. -/
def aroundTwins (now : Instant) : Environment where
  tree := Analyzer.twinTree
  now

/-- Whatever is shown of it, and whenever, an error makes for the exit code 1. -/
theorem silent_check_exit_code : AsksToCheck lowerCaseCheck none lowerCaseOptions ∧
    AsksToCheck silentCheck none silentOptions ∧
    (run (aroundTwins default) lowerCaseCheck).exitCode = 1 ∧
    (run (aroundTwins (.ofNanoseconds 1)) silentCheck).exitCode = 1 := by
  have hasks : AsksToCheck lowerCaseCheck none lowerCaseOptions := ⟨false, true, by decide⟩
  have hsilent : AsksToCheck silentCheck none silentOptions := ⟨false, false, by decide⟩
  obtain ⟨_, herrors, _, _, hsame⟩ := check_exit_code hasks (aroundTwins default)
  obtain ⟨analyzer, hreaches, diagnostic, hmem, hsevere⟩ := reaches_lower_case
  have hends : lowerCaseOptions.Ends (aroundTwins default) none (.ok _) :=
    CheckOptions.ends_report_iff.2 ⟨analyzer, _, hreaches, rfl⟩
  have hcode : (run (aroundTwins default) lowerCaseCheck).exitCode = 1 := by
    refine herrors.2 ⟨_, hends, diagnostic, ?_, hsevere⟩
    rw [Report.sort_perm.mem_iff, Analyzer.report_of_diagnostics,
      Analyzer.findings_of_diagnostics, List.flatMap_singleton]
    exact hmem
  have hother := hsame (aroundTwins (.ofNanoseconds 1)) silentCheck silentOptions hsilent rfl rfl
  exact ⟨hasks, hsilent, hcode, hother.trans hcode⟩

end NamingLint.CommandLine
