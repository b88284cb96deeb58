import NamingLint.Binary64
import NamingLint.Report.Selection

/-!
# Reports for people

The diagnostics are listed under the files that they belong to, and a line with the figures of the
run follows. On a terminal the parts of a line stand out by colour.
-/

namespace NamingLint.Report

/-! ## Colours -/

/-- What a part of a line conveys. -/
inductive Tone where
  | good
  | heading
  | aside
  | severity (severity : Severity)
  deriving DecidableEq, Repr, Inhabited

/-- The number of the display attribute that shows a tone. -/
def Tone.code : Tone → String
  | good => "32"
  | heading => "1"
  | aside => "2"
  | severity .error => "31"
  | severity .warning => "33"
  | severity .info => "36"

/-- The control sequence that sets a display attribute. -/
def displaySequence (code : String) : List Char :=
  '\x1b' :: '[' :: code.toList ++ ['m']

/-- A text in which a sequence is repeated wherever all attributes are reset. -/
def repeatAfterResets (sequence : List Char) : List Char → List Char
  | '\x1b' :: '[' :: '0' :: 'm' :: rest =>
    displaySequence "0" ++ sequence ++ repeatAfterResets sequence rest
  | c :: rest => c :: repeatAfterResets sequence rest
  | [] => []

/-- A text in a tone, or as it is where colours are not shown. -/
def paint (colors : Bool) (tone : Tone) (text : String) : String :=
  if colors then
    let sequence := displaySequence tone.code
    String.ofList (sequence ++ repeatAfterResets sequence text.toList ++ displaySequence "0")
  else text

/-! ## Diagnostics by file -/

/-- Add a diagnostic to those of its file, in groups that ascend by file. A group keeps the spelling
of the file's path that came first. -/
def addToGroup (diagnostic : Diagnostic) :
    List (Path × List Diagnostic) → List (Path × List Diagnostic)
  | [] => [(diagnostic.file, [diagnostic])]
  | (file, group) :: rest =>
    match Path.compare diagnostic.file file with
    | .lt => (diagnostic.file, [diagnostic]) :: (file, group) :: rest
    | .eq => (file, group ++ [diagnostic]) :: rest
    | .gt => (file, group) :: addToGroup diagnostic rest

/-- The diagnostics in groups by file. -/
def groupByFile (diagnostics : List Diagnostic) : List (Path × List Diagnostic) :=
  diagnostics.foldl (fun groups diagnostic => addToGroup diagnostic groups) []

/-! ## Lines -/

/-- A line of details below a diagnostic, if there are any and they are wanted. -/
def detailLine (colors wanted : Bool) (mark : String) (tone : Tone) (text : Option String) :
    String :=
  match wanted, text with
  | true, some text => "    " ++ mark ++ " " ++ paint colors tone text ++ "\n"
  | _, _ => ""

/-- The lines of a diagnostic. -/
def diagnosticLines (options : Options) (colors : Bool) (diagnostic : Diagnostic) : String :=
  let position := match diagnostic.location with
    | some location => location.render
    | none => "?"
  let severity := diagnostic.severity
  "  " ++ paint colors .aside position ++ " [" ++
    paint colors (.severity severity) severity.name ++ "] " ++
    diagnostic.message ++ " (" ++ diagnostic.ruleId ++ ")\n" ++
    detailLine colors options.context "|" .aside diagnostic.context ++
    detailLine colors options.suggestions "=" .good diagnostic.suggestion

/-- The lines of a file and its diagnostics. -/
def groupLines (options : Options) (colors : Bool) (group : Path × List Diagnostic) : String :=
  group.1.text ++ "\n" ++ String.join (group.2.map (diagnosticLines options colors)) ++ "\n"

/-- A number of things. -/
def plural (count : Nat) (noun : String) : String :=
  if count = 1 then toString count ++ " " ++ noun else toString count ++ " " ++ noun ++ "s"

/-- The severities that occur, with their numbers, the most serious first. -/
def countParts (colors : Bool) (counts : SeverityCounts) : List String :=
  (if 0 < counts.error then
    [paint colors (.severity .error) (plural counts.error "error")] else []) ++
  (if 0 < counts.warning then
    [paint colors (.severity .warning) (plural counts.warning "warning")] else []) ++
  (if 0 < counts.info then
    [paint colors (.severity .info) (toString counts.info ++ " info")] else [])

/-- The numbers of diagnostics in words. -/
def countText (colors : Bool) (counts : SeverityCounts) : String :=
  match countParts colors counts with
  | [] => paint colors .good "0 violations"
  | parts => ", ".intercalate parts

/-- A duration in seconds with one place. -/
def secondsText (milliseconds : Nat) : String :=
  ((Binary64.ofRatio milliseconds 1).divide 1000).render

/-- The line with the figures of the run. -/
def summaryLine (colors : Bool) (summary : Summary) : String :=
  "Summary: " ++ countText colors summary.counts ++ " in " ++ toString summary.totalFiles ++
    " files, " ++ toString summary.declarationsChecked ++ " declarations checked (" ++
    secondsText summary.milliseconds ++ "s)\n"

/-- The first lines. -/
def headline (colors : Bool) (diagnostics : List Diagnostic) : String :=
  if diagnostics.isEmpty then paint colors .good "No naming violations found" ++ "\n"
  else paint colors .heading "Naming Violations Found" ++ "\n\n"

/-- The report for people. The figures count all diagnostics, shown or not. -/
def humanText (options : Options) (colors : Bool) (report : Report) : String :=
  let shown := options.select report.diagnostics
  headline colors shown ++
    String.join ((groupByFile shown).map (groupLines options colors)) ++
    summaryLine colors report.summary

end NamingLint.Report
