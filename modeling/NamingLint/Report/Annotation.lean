import NamingLint.Report.Selection

/-!
# Reports as annotations

Each diagnostic is a command of a workflow run that annotates a place in a file.
-/

namespace NamingLint.Report

/-- The command that annotates with a severity. -/
def annotationCommand : Severity → String
  | .error => "error"
  | .warning => "warning"
  | .info => "notice"

/-- The annotation of a diagnostic. -/
def annotation (diagnostic : Diagnostic) : String :=
  let place := match diagnostic.location with
    | some location =>
      ",line=" ++ toString location.line.toNat ++ ",col=" ++ toString location.column.toNat
    | none => ""
  "::" ++ annotationCommand diagnostic.severity ++ " file=" ++ diagnostic.file.text ++ place ++
    ",title=" ++ diagnostic.ruleId ++ "::" ++ diagnostic.message ++ "\n"

/-- The report as annotations. -/
def annotationText (options : Options) (report : Report) : String :=
  String.join ((options.select report.diagnostics).map annotation)

end NamingLint.Report
