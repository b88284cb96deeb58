import NamingLint.Json.Reader
import NamingLint.Report.Basic
import NamingLint.Timestamp

/-!
# Reports as documents

`Report.ofText?` reads back what `Report.toText` writes. All fields of a structure have to be there,
but for those that may be absent.
-/

namespace NamingLint

/-- The mark for UTC in stored timestamps. -/
def utcMark : String := "Z"

/-! ## Writing -/

/-- Write a position. -/
def Location.toValue (location : Location) : Json.Value :=
  .object [("line", .ofNat location.line.toNat), ("column", .ofNat location.column.toNat)]

/-- Write a diagnostic. -/
def Diagnostic.toValue (diagnostic : Diagnostic) : Json.Value :=
  .object [
    ("rule_id", .string diagnostic.ruleId),
    ("severity", .string diagnostic.severity.name),
    ("file_path", .string diagnostic.file.text),
    ("location", .ofOption Location.toValue diagnostic.location),
    ("message", .string diagnostic.message),
    ("name", .ofOption .string diagnostic.name),
    ("context", .ofOption .string diagnostic.context),
    ("suggested_fix", .ofOption .string diagnostic.suggestion),
    ("detected_at", .string (diagnostic.detectedAt.render utcMark))]

/-- Write counts by severity. -/
def SeverityCounts.toValue (counts : SeverityCounts) : Json.Value :=
  .object [
    ("error", .ofNat counts.error),
    ("warning", .ofNat counts.warning),
    ("info", .ofNat counts.info)]

/-- Write the figures of a run. -/
def Summary.toValue (summary : Summary) : Json.Value :=
  .object [
    ("total_files", .ofNat summary.totalFiles),
    ("declarations_checked", .ofNat summary.declarationsChecked),
    ("diagnostics_by_severity", summary.counts.toValue),
    ("execution_time_ms", .ofNat summary.milliseconds),
    ("validated_at", .string (summary.validatedAt.render utcMark))]

/-- Write a report. -/
def Report.toValue (report : Report) : Json.Value :=
  .object [
    ("diagnostics", .array (report.diagnostics.map Diagnostic.toValue)),
    ("summary", report.summary.toValue),
    ("config_fingerprint", .ofOption .string report.configFingerprint)]

/-- The text of a report. -/
def Report.toText (report : Report) : String :=
  report.toValue.compact

/-! ## Reading -/

/-- Positions take 32 bits. -/
def positionBound : Nat := 1 <<< 32

/-- Counts take 64 bits. -/
def countBound : Nat := 1 <<< 64

/-- Read a line or column. -/
def positionOf? (document : Document) : Option UInt32 :=
  (document.natBelow? positionBound).map Nat.toUInt32

/-- Read a position. -/
def Location.ofDocument? (document : Document) : Option Location := do
  match ← document.fields? ["line", "column"] with
  | [line, column] => return ⟨← line.required positionOf?, ← column.required positionOf?⟩
  | _ => none

/-- Read a point in time. -/
def Instant.ofDocument? (document : Document) : Option Instant :=
  document.text?.bind Instant.parse?

/-- Read a path. -/
def Path.ofDocument? (document : Document) : Option Path :=
  document.text?.map Path.mk

/-- Read a diagnostic. -/
def Diagnostic.ofDocument? (document : Document) : Option Diagnostic := do
  match ← document.fields? ["rule_id", "severity", "file_path", "location", "message", "name",
    "context", "suggested_fix", "detected_at"] with
  | [ruleId, severity, file, location, message, name, context, suggestion, detectedAt] =>
    return {
      ruleId := ← ruleId.required Document.text?
      severity := ← severity.required Severity.ofDocument?
      file := ← file.required Path.ofDocument?
      location := ← location.optional Location.ofDocument?
      message := ← message.required Document.text?
      name := ← name.optional Document.text?
      context := ← context.optional Document.text?
      suggestion := ← suggestion.optional Document.text?
      detectedAt := ← detectedAt.required Instant.ofDocument? }
  | _ => none

/-- Read a count. -/
def countOf? (document : Document) : Option Nat :=
  document.natBelow? countBound

/-- Read counts by severity. -/
def SeverityCounts.ofDocument? (document : Document) : Option SeverityCounts := do
  match ← document.fields? ["error", "warning", "info"] with
  | [error, warning, info] =>
    return ⟨← error.required countOf?, ← warning.required countOf?, ← info.required countOf?⟩
  | _ => none

/-- Read the figures of a run. -/
def Summary.ofDocument? (document : Document) : Option Summary := do
  match ← document.fields? ["total_files", "declarations_checked", "diagnostics_by_severity",
    "execution_time_ms", "validated_at"] with
  | [totalFiles, declarationsChecked, counts, milliseconds, validatedAt] =>
    return {
      totalFiles := ← totalFiles.required countOf?
      declarationsChecked := ← declarationsChecked.required countOf?
      counts := ← counts.required SeverityCounts.ofDocument?
      milliseconds := ← milliseconds.required countOf?
      validatedAt := ← validatedAt.required Instant.ofDocument? }
  | _ => none

/-- Read a report. -/
def Report.ofDocument? (document : Document) : Option Report := do
  match ← document.fields? ["diagnostics", "summary", "config_fingerprint"] with
  | [diagnostics, summary, configFingerprint] =>
    return {
      diagnostics := ← diagnostics.required (Document.list? Diagnostic.ofDocument?)
      summary := ← summary.required Summary.ofDocument?
      configFingerprint := ← configFingerprint.optional Document.text? }
  | _ => none

/-- The report that a text holds. -/
def Report.ofText? (text : String) : Option Report :=
  (Json.Value.parse? text).bind fun value => Report.ofDocument? value.document

end NamingLint
