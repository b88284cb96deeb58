import NamingLint.Analysis.Basic

/-!
# Analysing many files

Files are analysed one after the other or all at once. In the latter case a `Schedule` says in which
order the analyses are completed; their outcomes are taken up in the order of the files all the
same.
-/

namespace NamingLint

/-- An order in which a number of analyses may be completed. -/
structure Schedule (count : Nat) where
  order : List Nat
  complete : order.Perm (List.range count)

/-- Analyses that are completed in the order in which they were started. -/
def Schedule.inTurn (count : Nat) : Schedule count :=
  ⟨List.range count, .refl _⟩

namespace Analyzer

/-- Go on with a file's outcome. A failure is reported unless it stops the run. -/
def takeUp (failFast : Bool) (file : Path) :
    Except Failure FileAnalysis → Journal FileAnalysis
  | .ok analysis => return analysis
  | .error failure =>
    if failFast then Journal.fail failure
    else do
      Journal.report .warning .analysis
        ("Failed to analyze " ++ file.text ++ ": " ++ failure.message)
      return {}

/-- Analyse files one after the other. -/
def analyzeInTurn (analyze : Path → Journal FileAnalysis) (failFast : Bool) :
    List Path → Journal FileAnalysis
  | [] => return {}
  | file :: rest => do
    let analysis ← takeUp failFast file (← (analyze file).attempt)
    return analysis.append (← analyzeInTurn analyze failFast rest)

/-- Complete analyses one after the other; each outcome is kept with its number. -/
def completeAll (analyze : Nat → Journal FileAnalysis) :
    List Nat → Journal (List (Nat × Except Failure FileAnalysis))
  | [] => return []
  | number :: rest => do
    let outcome ← (analyze number).attempt
    return (number, outcome) :: (← completeAll analyze rest)

/-- Take up the outcomes of files, in the order of the files. -/
def takeUpAll (failFast : Bool) : List (Path × Except Failure FileAnalysis) → Journal FileAnalysis
  | [] => return {}
  | (file, outcome) :: rest => do
    let analysis ← takeUp failFast file outcome
    return analysis.append (← takeUpAll failFast rest)

/-- Analyse all files at once. No failure stops an analysis that has been started. -/
def analyzeTogether (analyze : Path → Journal FileAnalysis) (failFast : Bool) (files : List Path)
    (schedule : Schedule files.length) : Journal FileAnalysis := do
  let start (number : Nat) : Journal FileAnalysis :=
    match files[number]? with
    | some file => analyze file
    | none => return {}
  let outcomes ← completeAll start schedule.order
  takeUpAll failFast (files.zipIdx.map fun (file, number) =>
    (file, (outcomes.lookup number).getD (.ok {})))

end Analyzer

end NamingLint
