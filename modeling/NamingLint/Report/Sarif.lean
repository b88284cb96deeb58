import NamingLint.Json.Value
import NamingLint.Naming.Rule
import NamingLint.Product
import NamingLint.Report.Selection

/-!
# Reports for code scanning

The report in the Static Analysis Results Interchange Format, version 2.1.0. The names of members
are in alphabetical order.
-/

namespace NamingLint.Report

/-- The schema of the format. -/
def sarifSchema : String := "https://json.schemastore.org/sarif-2.1.0.json"

/-- The format's name for a severity. -/
def sarifLevel : Severity → String
  | .error => "error"
  | .warning => "warning"
  | .info => "note"

/-- A text as the format has it. -/
def sarifText (text : String) : Json.Value :=
  .object [("text", .string text)]

/-- The description of a rule. -/
def sarifRule (rule : Naming.Rule) : Json.Value :=
  .object [
    ("fullDescription", sarifText rule.description),
    ("id", .string rule.id),
    ("name", .string rule.title),
    ("shortDescription", sarifText rule.title)]

/-- A diagnostic. One without a place is put at the start of its file. -/
def sarifResult (diagnostic : Diagnostic) : Json.Value :=
  let location := diagnostic.location.getD ⟨1, 1⟩
  .object [
    ("level", .string (sarifLevel diagnostic.severity)),
    ("locations", .array [.object [
      ("physicalLocation", .object [
        ("artifactLocation", .object [("uri", .string diagnostic.file.text)]),
        ("region", .object [
          ("startColumn", .ofNat location.column.toNat),
          ("startLine", .ofNat location.line.toNat)])])]]),
    ("message", sarifText diagnostic.message),
    ("ruleId", .string diagnostic.ruleId)]

/-- The report for code scanning. -/
def sarifReport (options : Options) (report : Report) : String :=
  Json.Value.pretty <| .object [
    ("$schema", .string sarifSchema),
    ("runs", .array [.object [
      ("results", .array ((options.select report.diagnostics).map sarifResult)),
      ("tool", .object [
        ("driver", .object [
          ("name", .string Product.name),
          ("rules", .array (Naming.Rule.catalog.map sarifRule)),
          ("version", .string Product.version)])])]]),
    ("version", .string "2.1.0")]

end NamingLint.Report
