import NamingLint.Json.Value
import NamingLint.Report.Selection
import NamingLint.Timestamp

/-!
# Reports for programs

The report as one JSON object. The names of members are in alphabetical order.
-/

namespace NamingLint.Report

/-- A line or column. -/
def positionValue (position : UInt32) : Json.Value :=
  .ofNat position.toNat

/-- The mark for UTC in reports for programs. -/
def utcOffset : String := "+00:00"

/-- A point in time. -/
def timeValue (instant : Instant) : Json.Value :=
  .string (instant.render utcOffset)

/-- A diagnostic. -/
def diagnosticValue (diagnostic : Diagnostic) : Json.Value :=
  .object [
    ("column_number", .ofOption (positionValue ·.column) diagnostic.location),
    ("context", .ofOption .string diagnostic.context),
    ("detected_at", timeValue diagnostic.detectedAt),
    ("file_path", .string diagnostic.file.text),
    ("line_number", .ofOption (positionValue ·.line) diagnostic.location),
    ("message", .string diagnostic.message),
    ("name", .ofOption .string diagnostic.name),
    ("rule_id", .string diagnostic.ruleId),
    ("severity", .string diagnostic.severity.name),
    ("suggested_fix", .ofOption .string diagnostic.suggestion)]

/-- The figures of a run. -/
def summaryValue (summary : Summary) : Json.Value :=
  .object [
    ("declarations_checked", .ofNat summary.declarationsChecked),
    ("diagnostics_by_severity", .object [
      ("error", .ofNat summary.counts.error),
      ("info", .ofNat summary.counts.info),
      ("warning", .ofNat summary.counts.warning)]),
    ("execution_time_ms", .ofNat summary.milliseconds),
    ("total_files", .ofNat summary.totalFiles),
    ("validated_at", timeValue summary.validatedAt)]

/-- The report for programs. The figures count all diagnostics, shown or not. -/
def jsonText (options : Options) (report : Report) : String :=
  Json.Value.pretty <| .object [
    ("config_fingerprint", .ofOption .string report.configFingerprint),
    ("diagnostics", .array ((options.select report.diagnostics).map diagnosticValue)),
    ("summary", summaryValue report.summary)]

end NamingLint.Report
