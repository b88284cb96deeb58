import NamingLint.Proofs.Analysis.Arguments
import NamingLint.Proofs.Filter.Extension

/-!
# What the options of a run select

A run selects among the source files that its paths stand for, and each of them stands or falls on
its own (`selects_iff`). `options_narrow_or_widen` says what follows for the options: patterns that
are added take files away, ignore files that are disregarded bring files back, and a limit keeps the
first ones.
-/

namespace NamingLint.Analyzer

open NamingLint.Order (upTo)
open PathFilter (FirstFault IsPattern anyMatches sourcesUnder)

/-! ## Candidates -/

/-- The source files that a path stands for, whatever a filter says about them. -/
def candidatesFor (tree : FileTree) (path : Path) : List Path :=
  if tree.isFile path then
    if PathFilter.isSourceFile path then [path] else []
  else if tree.isDirectory path then (sourcesUnder tree path).mergeSort (upTo Path.compare)
  else []

/-- The source files that paths stand for, in the order of the paths. -/
def candidates (tree : FileTree) (paths : List Path) : List Path :=
  paths.flatMap (candidatesFor tree)

section

variable {filter : PathFilter} {tree : FileTree} {path : Path} {paths : List Path}

theorem result_files_for (h : filter.Decides tree) : (filesFor filter tree path).result =
    .ok ((candidatesFor tree path).filter (filter.passes tree)) := by
  unfold filesFor candidatesFor
  split
  · cases hsource : PathFilter.isSourceFile path with
    | false => rfl
    | true =>
        obtain ⟨verdict, hverdict⟩ := h path
        have hpasses := PathFilter.result_eq_passes hverdict
        simp only [Bool.not_true, Bool.false_eq_true, if_false, if_true, Journal.result_bind,
          hpasses, Journal.ok_bind]
        cases hpass : filter.passes tree path with
        | true => simp [hpass]
        | false => simp [hpass]
  · split
    · rw [PathFilter.find_files_ok fun path _ => h path, ← Order.merge_sort_filter]
    · rfl

/-- A filter that decides about all paths leaves those of the candidates that pass. -/
theorem result_select_files (h : filter.Decides tree) : (selectFiles filter tree paths).result =
    .ok ((candidates tree paths).filter (filter.passes tree)) := by
  induction paths with
  | nil => rfl
  | cons path paths ih =>
      refine select_files_cons_iff.2 ⟨_, _, result_files_for h, ih, ?_⟩
      rw [candidates, candidates, List.flatMap_cons, List.filter_append]

end

/-! ## The filter of a run -/

section

variable {analyzer : Analyzer} {tree : FileTree} {options : RunOptions} {paths files : List Path}
variable {filter : PathFilter}

/-- The filter of a run before patterns are added. -/
def baseFor (analyzer : Analyzer) (options : RunOptions) : PathFilter :=
  if options.withoutIgnoreFiles then analyzer.filter.withoutIgnoreFiles else analyzer.filter

theorem legible_base (h : analyzer.filter.IgnoreFilesLegible tree) :
    (analyzer.baseFor options).IgnoreFilesLegible tree := by
  unfold baseFor
  split
  · intro name hname
    cases hname
  · exact h

/-- If all ignore files are texts, a run with a filter selects the candidates that pass. -/
theorem selects_iff (h : analyzer.filter.IgnoreFilesLegible tree)
    (hfilter : (analyzer.baseFor options).addPatterns options.excludePatterns = .ok filter) :
    analyzer.Selects tree options paths files ↔
      files = (candidates tree paths).filter (filter.passes tree) := by
  have hdecides : filter.Decides tree :=
    PathFilter.decides_of_legible (PathFilter.legible_of_add_patterns (legible_base h) hfilter)
  have hresult : (selectFiles filter tree paths).result = _ := result_select_files hdecides
  constructor
  · rintro ⟨again, hagain, hfiles⟩
    obtain rfl : filter = again := Except.ok.inj (hfilter.symm.trans hagain)
    exact Except.ok.inj (hfiles.symm.trans hresult)
  · rintro rfl
    exact ⟨filter, hfilter, hresult⟩

/-- A run fails at the first of its patterns that is none. -/
theorem result_of_fault {text : String} {error : Glob.PatternError} {now : Instant}
    {schedule : (count : Nat) → Schedule count}
    (h : FirstFault options.excludePatterns text error) :
    (analyzer.analyzePaths tree now options schedule paths).result =
      .error (.pattern (.path text error)) := by
  have hparse := PathFilter.parse_patterns_error_iff.2 ⟨text, error, h, rfl⟩
  have hfilter : analyzer.filterFor options = .error (.pattern (.path text error)) := by
    show (analyzer.baseFor options).addPatterns options.excludePatterns = _
    rw [PathFilter.add_patterns_eq, hparse]
    rfl
  rw [analyzePaths, Journal.result_bind, Journal.result_ofExcept, hfilter]
  rfl

/-! ## Narrowing and widening -/

section

variable (hlegible : analyzer.filter.IgnoreFilesLegible tree)

include hlegible

/-- A run without patterns of its own always selects its files. -/
theorem selects_without_patterns :
    analyzer.Selects tree { options with excludePatterns := [] } paths
      ((candidates tree paths).filter ((analyzer.baseFor options).passes tree)) :=
  (selects_iff hlegible rfl).2 rfl

/-- Patterns of a run take away the files that they match, and no others. -/
theorem selects_excluding (hmarks : ∀ text ∈ options.excludePatterns, ¬ ['!'] <+: text.toList)
    (hpatterns : ∀ text ∈ options.excludePatterns, IsPattern text)
    (hfiles : analyzer.Selects tree { options with excludePatterns := [] } paths files) :
    analyzer.Selects tree options paths
      (files.filter fun file => !anyMatches options.excludePatterns file) := by
  obtain rfl := hfiles.unique (selects_without_patterns hlegible)
  obtain ⟨patterns, hparse⟩ := PathFilter.parse_patterns_ok_iff.2 hpatterns
  obtain ⟨filter, hfilter⟩ :
      ∃ filter, (analyzer.baseFor options).addPatterns options.excludePatterns = .ok filter :=
    ⟨_, PathFilter.add_patterns_ok_iff.2 ⟨patterns, hparse, rfl⟩⟩
  refine (selects_iff hlegible hfilter).2 ?_
  rw [List.filter_filter]
  refine List.filter_congr fun file _ => ?_
  rw [PathFilter.passes_excluding hmarks hfilter, Bool.and_comm]

/-- All files that are selected with regard to ignore files are selected without, in their order. -/
theorem selects_widely
    (hfiles : analyzer.Selects tree { options with withoutIgnoreFiles := false } paths files) :
    ∃ all, analyzer.Selects tree { options with withoutIgnoreFiles := true } paths all ∧
      files.Sublist all := by
  obtain ⟨filter, hfilter, _⟩ := id hfiles
  have hwithout : (analyzer.baseFor { options with withoutIgnoreFiles := true }).addPatterns
      options.excludePatterns = .ok filter.withoutIgnoreFiles :=
    PathFilter.add_patterns_without_ignore_files hfilter
  refine ⟨_, (selects_iff hlegible hwithout).2 rfl, ?_⟩
  rw [(selects_iff hlegible hfilter).1 hfiles]
  exact List.monotone_filter_right _ fun file => PathFilter.passes_of_honouring

end

/-! ## Limits -/

section

variable {now : Instant} {schedule order : (count : Nat) → Schedule count} {count : Nat}
variable {others : List Path} {report : Report}

/-- A run with a limit reports on the first files that it selects. -/
theorem limited_ok_iff (hfiles : analyzer.Selects tree options paths files) :
    (analyzer.analyzePaths tree now { options with maxFiles := some count } schedule
        paths).result = .ok report ↔
      (options.failFast = true → ∀ file ∈ files.take count, Readable tree file) ∧
        report = (analyzer.reportOf now (min count files.length)
          (analyzer.findingsOf tree now (files.take count))).sort := by
  have hchosen : analyzer.Analyzes tree { options with maxFiles := some count } paths
      (files.take count) := ⟨files, hfiles, rfl⟩
  rw [analyze_chosen_ok_iff hchosen, List.length_take]

/-- A run with a limit comes to what a run without one does whose paths stand for the first
files. -/
theorem limited_eq_unlimited (hfiles : analyzer.Selects tree options paths files)
    (hothers : analyzer.Selects tree options others (files.take count)) :
    (analyzer.analyzePaths tree now { options with maxFiles := some count } schedule paths).result =
      (analyzer.analyzePaths tree now { options with maxFiles := none } order others).result := by
  have hchosen : analyzer.Analyzes tree { options with maxFiles := some count } paths
      (files.take count) := ⟨files, hfiles, rfl⟩
  have halone : analyzer.Analyzes tree { options with maxFiles := none } others
      (files.take count) := ⟨files.take count, hothers, rfl⟩
  rw [result_analyze_chosen hchosen, result_analyze_chosen halone]

end

end

/-- The options of a run narrow or widen what it selects as they are named. Patterns that it adds
take away the files that they match from those that it selects without them, and change nothing
else; a text that is no pattern is reported. Without regard to ignore files it selects all that it
selects with regard to them. With a limit it reports on the first files that it selects, as a run
without a limit would. It is assumed that all ignore files are texts and that no pattern that is
added begins with an exclamation mark. -/
theorem options_narrow_or_widen {analyzer : Analyzer} {tree : FileTree} {options : RunOptions}
    (hlegible : analyzer.filter.IgnoreFilesLegible tree)
    (hmarks : ∀ text ∈ options.excludePatterns, ¬ ['!'] <+: text.toList) (paths : List Path) :
    (∃ files, analyzer.Selects tree { options with excludePatterns := [] } paths files ∧
      ((∀ text ∈ options.excludePatterns, IsPattern text) →
        analyzer.Selects tree options paths
          (files.filter fun file => !anyMatches options.excludePatterns file)) ∧
      ∀ text error, FirstFault options.excludePatterns text error → ∀ now schedule,
        (analyzer.analyzePaths tree now options schedule paths).result =
          .error (.pattern (.path text error))) ∧
    (∀ files, analyzer.Selects tree { options with withoutIgnoreFiles := false } paths files →
      ∃ all, analyzer.Selects tree { options with withoutIgnoreFiles := true } paths all ∧
        files.Sublist all) ∧
    ∀ files, analyzer.Selects tree options paths files → ∀ count now schedule,
      (∀ report, (analyzer.analyzePaths tree now { options with maxFiles := some count } schedule
          paths).result = .ok report ↔
        (options.failFast = true → ∀ file ∈ files.take count, Readable tree file) ∧
          report = (analyzer.reportOf now (min count files.length)
            (analyzer.findingsOf tree now (files.take count))).sort) ∧
      (∀ report, (analyzer.analyzePaths tree now { options with maxFiles := some count } schedule
          paths).result = .ok report → report.summary.totalFiles = min count files.length) ∧
      ∀ others order, analyzer.Selects tree options others (files.take count) →
        (analyzer.analyzePaths tree now { options with maxFiles := some count } schedule
            paths).result =
          (analyzer.analyzePaths tree now { options with maxFiles := none } order
            others).result := by
  refine ⟨?_, fun files => selects_widely hlegible, fun files hfiles count now schedule => ?_⟩
  · exact ⟨_, selects_without_patterns hlegible,
      fun hpatterns => selects_excluding hlegible hmarks hpatterns
        (selects_without_patterns hlegible),
      fun text error hfault now schedule => result_of_fault hfault⟩
  · refine ⟨fun report => limited_ok_iff hfiles, fun report hreport => ?_,
      fun others order hothers => limited_eq_unlimited hfiles hothers⟩
    obtain ⟨_, rfl⟩ := (limited_ok_iff hfiles).1 hreport
    rfl

/-! ## An ignored file and an excluded one -/

/-- Three source files, one of which the ignore file beside them leaves out. -/
def ignoringTree : FileTree :=
  .ofEntries [(".ig", .ofText "b.rs\n"), ("a.rs", .ofText ""), ("b.rs", .ofText ""),
    ("c.rs", .ofText "")]

/-- The paths of the source files. -/
def ignoringPaths : List Path := [⟨"a.rs"⟩, ⟨"b.rs"⟩, ⟨"c.rs"⟩]

/-- An analyzer without rules that honours ignore files. -/
def ignoringAnalyzer : Analyzer :=
  ⟨lowerCaseOnly none, ⟨[], some ".ig"⟩, .empty, fun _ => false⟩

/-- A pattern that leaves out one of the files. -/
def excludingOptions : RunOptions := { excludePatterns := ["c.*"] }

theorem ignoring_tree_legible : ignoringTree.Legible := by
  refine .directory ?_
  simp only [List.forall_mem_cons, List.not_mem_nil, false_implies, implies_true, and_true]
  exact ⟨FileEntry.legible_text _, FileEntry.legible_text _, FileEntry.legible_text _,
    FileEntry.legible_text _⟩

theorem files_in_ignoring_tree : ∀ path ∈ ignoringPaths,
    ignoringTree.resolve path true = .ok (.ofText "") := by
  simp only [ignoringPaths, List.forall_mem_cons, List.not_mem_nil, false_implies, implies_true,
    and_true]
  refine ⟨?_, ?_, ?_⟩
  all_goals exact FileTree.resolve_name (by decide) rfl nofun

theorem ignoring_candidates : (candidates ignoringTree ignoringPaths).filter
    (ignoringAnalyzer.filter.passes ignoringTree) = [⟨"a.rs"⟩, ⟨"c.rs"⟩] := by
  have hread : ignoringTree.readText ⟨".ig"⟩ = .ok "b.rs\n" :=
    FileTree.read_encoded (FileTree.resolve_name (by decide) rfl nofun)
  have hpasses {path : Path} (hparents : path.parents = [⟨""⟩])
      (hrelative : path.relativeTo? ⟨""⟩ = some path) :
      ignoringAnalyzer.filter.passes ignoringTree path = PathFilter.lastMatch true
        ((PathFilter.validPatterns (PathFilter.ignoreLines "b.rs\n")).map (⟨·, path⟩)) := by
    rw [PathFilter.passes, ignoringAnalyzer,
      PathFilter.decided_by_one_file hparents hrelative hread]
  have hfirst : ignoringAnalyzer.filter.passes ignoringTree ⟨"a.rs"⟩ = true :=
    (hpasses (by decide) (by decide)).trans (by cbv)
  have hsecond : ignoringAnalyzer.filter.passes ignoringTree ⟨"b.rs"⟩ = false :=
    (hpasses (by decide) (by decide)).trans (by cbv)
  have hthird : ignoringAnalyzer.filter.passes ignoringTree ⟨"c.rs"⟩ = true :=
    (hpasses (by decide) (by decide)).trans (by cbv)
  have hsource : ∀ path ∈ ignoringPaths, PathFilter.isSourceFile path = true := by decide
  have hcandidate : ∀ path ∈ ignoringPaths, candidatesFor ignoringTree path = [path] := by
    intro path hpath
    have hfile : ignoringTree.isFile path = true :=
      FileTree.is_file_of_resolve (files_in_ignoring_tree path hpath)
    rw [candidatesFor, if_pos hfile, if_pos (hsource path hpath)]
  rw [candidates, List.flatMap_congr hcandidate, List.flatMap_singleton']
  simp [ignoringPaths, hfirst, hsecond, hthird]

theorem excluding_run_narrowed :
    ignoringAnalyzer.Selects ignoringTree { excludingOptions with excludePatterns := [] }
      ignoringPaths [⟨"a.rs"⟩, ⟨"c.rs"⟩] ∧
    ignoringAnalyzer.Selects ignoringTree excludingOptions ignoringPaths [⟨"a.rs"⟩] ∧
    (∃ all, ignoringAnalyzer.Selects ignoringTree
        { excludingOptions with withoutIgnoreFiles := true } ignoringPaths all ∧
      [⟨"a.rs"⟩].Sublist all) ∧
    ∃ report, (ignoringAnalyzer.analyzePaths ignoringTree default
        { excludingOptions with maxFiles := some 2 } .inTurn ignoringPaths).result = .ok report ∧
      report.summary.totalFiles = 1 := by
  have hlegible : ignoringAnalyzer.filter.IgnoreFilesLegible ignoringTree :=
    fun name _ directory => ignoring_tree_legible.not_illegible (directory.join ⟨name⟩)
  have hmarks : ∀ text ∈ excludingOptions.excludePatterns, ¬ ['!'] <+: text.toList := by decide
  obtain ⟨⟨files, hfiles, hexcluding, _⟩, hwidely, hlimited⟩ :=
    options_narrow_or_widen hlegible hmarks ignoringPaths
  have hselected : ignoringAnalyzer.Selects ignoringTree
      { excludingOptions with excludePatterns := [] } ignoringPaths [⟨"a.rs"⟩, ⟨"c.rs"⟩] :=
    (selects_iff hlegible rfl).2 ignoring_candidates.symm
  obtain rfl := hfiles.unique hselected
  have hpatterns : ∀ text ∈ excludingOptions.excludePatterns, IsPattern text := by
    rw [← PathFilter.parse_patterns_ok_iff]
    exact ⟨_, by cbv⟩
  have hleft : ([⟨"a.rs"⟩, ⟨"c.rs"⟩] : List Path).filter (fun file =>
      !anyMatches excludingOptions.excludePatterns file) = [⟨"a.rs"⟩] := by cbv
  have hrun := hexcluding hpatterns
  rw [hleft] at hrun
  obtain ⟨hreport, htotal, _⟩ := hlimited _ hrun 2 default .inTurn
  have hdone := (hreport _).2 ⟨fun hfast => absurd hfast Bool.false_ne_true, rfl⟩
  exact ⟨hselected, hrun, hwidely _ hrun, _, hdone, htotal _ hdone⟩

end NamingLint.Analyzer
