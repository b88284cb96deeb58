import NamingLint.Analysis.Batch
import NamingLint.Config.File
import NamingLint.Config.Fingerprint
import NamingLint.Report.Basic

/-!
# Runs

A run selects files by the paths that are given, analyses them and makes a report of what is found.
-/

namespace NamingLint

/-- How a run goes. -/
structure RunOptions where
  /-- Analyse all files at once. -/
  parallel : Bool := true
  /-- No more than this many files are analysed. -/
  maxFiles : Option Nat := none
  /-- Stop at the first file that cannot be analysed. -/
  failFast : Bool := false
  /-- Patterns that apply after the configured ones. -/
  excludePatterns : List String := []
  /-- Pay no regard to ignore files. -/
  withoutIgnoreFiles : Bool := false
  deriving DecidableEq, Repr, Inhabited

namespace PathFilter

/-- Add patterns behind the others, up to the first that is none. -/
def addPatterns (filter : PathFilter) : List String → Except Failure PathFilter
  | [] => .ok filter
  | text :: rest =>
    match filter.addPattern text with
    | .ok filter => filter.addPatterns rest
    | .error failure => .error failure

end PathFilter

namespace Analyzer

/-- The filter of a run. -/
def filterFor (analyzer : Analyzer) (options : RunOptions) : Except Failure PathFilter :=
  let filter := analyzer.filter
  (if options.withoutIgnoreFiles then filter.withoutIgnoreFiles else filter).addPatterns
    options.excludePatterns

/-- The files that a path stands for: the source file itself, or all below a directory. -/
def filesFor (filter : PathFilter) (tree : FileTree) (path : Path) : Journal (List Path) := do
  if tree.isFile path then
    if !PathFilter.isSourceFile path then return []
    else if ← filter.shouldAnalyze tree path then return [path]
    else return []
  else if tree.isDirectory path then filter.findFiles tree path
  else
    Journal.report .warning .analysis ("Skipping " ++ path.text ++ ": no such file or directory")
    return []

/-- The files that paths stand for. A file that is selected by two paths is there twice. -/
def selectFiles (filter : PathFilter) (tree : FileTree) : List Path → Journal (List Path)
  | [] => return []
  | path :: rest => do
    let files ← filesFor filter tree path
    return files ++ (← selectFiles filter tree rest)

/-- The first files of a list, if there is a limit. -/
def limit (maxFiles : Option Nat) (files : List Path) : List Path :=
  match maxFiles with
  | some count => files.take count
  | none => files

/-- The report of findings. -/
def reportOf (analyzer : Analyzer) (now : Instant) (totalFiles : Nat) (analysis : FileAnalysis) :
    Report :=
  [Report.Change.totalFiles totalFiles,
    .declarationsChecked analysis.declarationsChecked,
    .configFingerprint analyzer.config.fingerprint].foldl Report.apply
      (analysis.diagnostics.foldl Report.add (Report.start now))

/-- Analyse files as the options say. -/
def analyzeFiles (analyzer : Analyzer) (tree : FileTree) (now : Instant) (options : RunOptions)
    (schedule : (count : Nat) → Schedule count) (files : List Path) : Journal FileAnalysis :=
  let analyze := analyzer.readAndAnalyze tree now
  if options.parallel && 1 < files.length then
    analyzeTogether analyze options.failFast files (schedule files.length)
  else analyzeInTurn analyze options.failFast files

/-- Analyse files and directories. The diagnostics of the report are in ascending order. -/
def analyzePaths (analyzer : Analyzer) (tree : FileTree) (now : Instant) (options : RunOptions)
    (schedule : (count : Nat) → Schedule count) (paths : List Path) : Journal Report := do
  let filter ← Journal.ofExcept (analyzer.filterFor options)
  let files := limit options.maxFiles (← selectFiles filter tree paths)
  let analysis ← analyzer.analyzeFiles tree now options schedule files
  let report := (analyzer.reportOf now files.length analysis).sort
  Journal.report .info .analysis
    ("Analyzed " ++ toString files.length ++ " files, " ++
      toString analysis.declarationsChecked ++ " declarations, " ++
      toString report.diagnostics.length ++ " diagnostics")
  return report

/-- Analyse one file, whatever its type. The diagnostics are in the order of the declarations. -/
def reportFile (analyzer : Analyzer) (tree : FileTree) (now : Instant) (file : Path) :
    Journal Report := do
  return analyzer.reportOf now 1 (← analyzer.analyzeFile tree now file)

end Analyzer

/-- Analyse a directory with the configuration that is found in it. -/
def reportDirectory (tree : FileTree) (now : Instant) (schedule : (count : Nat) → Schedule count)
    (directory : Path) : Journal Report := do
  let analyzer ← Analyzer.ofConfig (← Config.discover tree directory)
  analyzer.analyzePaths tree now {} schedule [directory]

end NamingLint
