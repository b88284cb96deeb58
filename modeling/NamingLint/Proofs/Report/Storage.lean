import NamingLint.Proofs.Json.Fields
import NamingLint.Proofs.Report.Tally
import NamingLint.Proofs.Time.Timestamp
import NamingLint.Report.Format

/-!
# Stored reports

A report is stored as a text and read back from it. `run_stored` says that any report which changes
have led to is the same again afterwards, as long as its figures are within their bounds. Each
structure has two lemmas on the way there: its value is one that can be written and parsed, and the
document of that value is read as the structure.
-/

namespace NamingLint

open Json (Value)
open Json.Value

/-! ## Times -/

/-- The year of a point in time is written without a sign. -/
def Instant.Storable (instant : Instant) : Prop :=
  0 ≤ instant.date.year ∧ instant.date.year ≤ 9999

instance (instant : Instant) : Decidable instant.Storable :=
  inferInstanceAs (Decidable (_ ∧ _))

theorem Instant.of_document {instant : Instant} (h : instant.Storable) :
    ofDocument? (Value.string (instant.render utcMark)).document = some instant := by
  have htext : (Value.string (instant.render utcMark)).document.text? =
      some (instant.render utcMark) := by
    rw [document, Document.text?]
  rw [ofDocument?, htext, Option.bind_some]
  exact parse_render h

/-! ## Diagnostics -/

theorem Severity.of_document (severity : Severity) :
    ofDocument? (Value.string severity.name).document = some severity := by
  cases severity <;> rfl

theorem position_of_nat (position : UInt32) :
    positionOf? (Value.ofNat position.toNat).document = some position := by
  have hbound : position.toNat < positionBound := position.toNat_lt
  rw [positionOf?, nat_below_of_nat hbound]
  simp

theorem Location.whole (location : Location) : location.toValue.Whole := by
  simp [Location.toValue]

theorem Location.of_document (location : Location) :
    ofDocument? location.toValue.document = some location := by
  have hfields : location.toValue.document.fields? ["line", "column"] = some [
      .found (Value.ofNat location.line.toNat).document,
      .found (Value.ofNat location.column.toNat).document] :=
    fields_of_object rfl (by decide)
  simp [ofDocument?, hfields, Field.required, position_of_nat]

theorem optional_text (text : Option String) :
    Field.optional Document.text? (.found (Value.ofOption .string text).document) = some text :=
  optional_of_option (fun _ _ => rfl) (fun _ _ => by simp)

theorem Diagnostic.whole (diagnostic : Diagnostic) : diagnostic.toValue.Whole := by
  simp [Diagnostic.toValue, Location.whole]

theorem Diagnostic.of_document {diagnostic : Diagnostic} (h : diagnostic.detectedAt.Storable) :
    ofDocument? diagnostic.toValue.document = some diagnostic := by
  have hfields : diagnostic.toValue.document.fields? ["rule_id", "severity", "file_path",
      "location", "message", "name", "context", "suggested_fix", "detected_at"] = some [
      .found (Value.string diagnostic.ruleId).document,
      .found (Value.string diagnostic.severity.name).document,
      .found (Value.string diagnostic.file.text).document,
      .found (Value.ofOption Location.toValue diagnostic.location).document,
      .found (Value.string diagnostic.message).document,
      .found (Value.ofOption .string diagnostic.name).document,
      .found (Value.ofOption .string diagnostic.context).document,
      .found (Value.ofOption .string diagnostic.suggestion).document,
      .found (Value.string (diagnostic.detectedAt.render utcMark)).document] :=
    fields_of_object rfl (by decide)
  have hlocation : Field.optional Location.ofDocument?
      (.found (Value.ofOption Location.toValue diagnostic.location).document) =
        some diagnostic.location :=
    optional_of_option (fun location _ => location.of_document)
      (fun location _ => by simp [Location.toValue])
  have htext (text : String) : Document.text? (Value.string text).document = some text := rfl
  have hpath : Path.ofDocument? (Value.string diagnostic.file.text).document =
      some diagnostic.file := rfl
  simp [ofDocument?, hfields, hlocation, Field.required, Severity.of_document, htext, hpath,
    optional_text, Instant.of_document h]

/-! ## Figures -/

namespace SeverityCounts

/-- The counts are within their bounds. -/
def Storable (counts : SeverityCounts) : Prop :=
  ∀ severity, counts.of severity < countBound

theorem of_document {counts : SeverityCounts} (h : counts.Storable) :
    ofDocument? counts.toValue.document = some counts := by
  have hfields : counts.toValue.document.fields? ["error", "warning", "info"] = some [
      .found (Value.ofNat counts.error).document, .found (Value.ofNat counts.warning).document,
      .found (Value.ofNat counts.info).document] :=
    fields_of_object rfl (by decide)
  have herror : counts.error < countBound := h .error
  have hwarning : counts.warning < countBound := h .warning
  have hinfo : counts.info < countBound := h .info
  simp [ofDocument?, hfields, Field.required, countOf?, nat_below_of_nat herror,
    nat_below_of_nat hwarning, nat_below_of_nat hinfo]

end SeverityCounts

theorem Summary.whole (summary : Summary) : summary.toValue.Whole := by
  simp [Summary.toValue, SeverityCounts.toValue]

/-- The figures that changes set are within their bounds. -/
structure Summary.Storable (summary : Summary) : Prop where
  totalFiles : summary.totalFiles < countBound
  declarationsChecked : summary.declarationsChecked < countBound
  milliseconds : summary.milliseconds < countBound
  validatedAt : summary.validatedAt.Storable

theorem Summary.of_document {summary : Summary} (h : summary.Storable)
    (hcounts : summary.counts.Storable) :
    ofDocument? summary.toValue.document = some summary := by
  have hfields : summary.toValue.document.fields? ["total_files", "declarations_checked",
      "diagnostics_by_severity", "execution_time_ms", "validated_at"] = some [
      .found (Value.ofNat summary.totalFiles).document,
      .found (Value.ofNat summary.declarationsChecked).document,
      .found summary.counts.toValue.document,
      .found (Value.ofNat summary.milliseconds).document,
      .found (Value.string (summary.validatedAt.render utcMark)).document] :=
    fields_of_object rfl (by decide)
  simp [ofDocument?, hfields, Field.required, countOf?, nat_below_of_nat h.totalFiles,
    nat_below_of_nat h.declarationsChecked, SeverityCounts.of_document hcounts,
    nat_below_of_nat h.milliseconds, Instant.of_document h.validatedAt]

/-! ## Reports -/

namespace Report

variable {report : Report} {now : Instant} {changes : List Change}

theorem whole (report : Report) : report.toValue.Whole := by
  simp [Report.toValue, Diagnostic.whole, Summary.whole]

/-- The times of a report and the figures that changes set are within their bounds. -/
structure Storable (report : Report) : Prop where
  diagnostics : ∀ diagnostic ∈ report.diagnostics, diagnostic.detectedAt.Storable
  summary : report.summary.Storable

theorem of_document (h : report.Storable) (hcounts : report.summary.counts.Storable) :
    ofDocument? report.toValue.document = some report := by
  have hfields : report.toValue.document.fields? ["diagnostics", "summary", "config_fingerprint"] =
      some [.found (Value.array (report.diagnostics.map Diagnostic.toValue)).document,
        .found report.summary.toValue.document,
        .found (Value.ofOption .string report.configFingerprint).document] :=
    fields_of_object rfl (by decide)
  have hdiagnostics := list_of_array fun diagnostic hdiagnostic =>
    Diagnostic.of_document (h.diagnostics diagnostic hdiagnostic)
  simp [ofDocument?, hfields, Field.required, hdiagnostics, Summary.of_document h.summary hcounts,
    optional_text]

/-- A report within its bounds is read back from its text. -/
theorem of_text_to_text (h : report.Storable) (hcounts : report.summary.counts.Storable) :
    ofText? report.toText = some report := by
  rw [ofText?, toText, report.whole.parse_compact, Option.bind_some, of_document h hcounts]

/-! ## Changes -/

/-- A change brings nothing into a report that is out of its bounds. -/
def Change.Storable : Change → Prop
  | .add diagnostic => diagnostic.detectedAt.Storable
  | .sort => True
  | .totalFiles count => count < countBound
  | .declarationsChecked count => count < countBound
  | .milliseconds count => count < countBound
  | .configFingerprint _ => True

instance : DecidablePred Change.Storable
  | .add diagnostic => inferInstanceAs (Decidable diagnostic.detectedAt.Storable)
  | .sort => inferInstanceAs (Decidable True)
  | .totalFiles count => inferInstanceAs (Decidable (count < countBound))
  | .declarationsChecked count => inferInstanceAs (Decidable (count < countBound))
  | .milliseconds count => inferInstanceAs (Decidable (count < countBound))
  | .configFingerprint _ => inferInstanceAs (Decidable True)

theorem storable_start (hnow : now.Storable) : (start now).Storable where
  diagnostics := fun _ h => by cases h
  summary :=
    have hzero : 0 < countBound := by decide
    ⟨hzero, hzero, hzero, hnow⟩

theorem Storable.apply (h : report.Storable) {change : Change} (hchange : change.Storable) :
    (report.apply change).Storable := by
  obtain ⟨hdiagnostics, hsummary⟩ := h
  cases change with
  | add diagnostic =>
      refine ⟨fun other hother => ?_, ⟨hsummary.1, hsummary.2, hsummary.3, hsummary.4⟩⟩
      rcases List.mem_append.1 hother with hother | hadded
      · exact hdiagnostics other hother
      · obtain rfl := List.mem_singleton.1 hadded
        exact hchange
  | sort => exact ⟨fun other hother => hdiagnostics other (sort_perm.mem_iff.1 hother), hsummary⟩
  | totalFiles count => exact ⟨hdiagnostics, { hsummary with totalFiles := hchange }⟩
  | declarationsChecked count =>
      exact ⟨hdiagnostics, { hsummary with declarationsChecked := hchange }⟩
  | milliseconds count => exact ⟨hdiagnostics, { hsummary with milliseconds := hchange }⟩
  | configFingerprint text => exact ⟨hdiagnostics, hsummary⟩

theorem Storable.apply_all (h : report.Storable) (hchanges : ∀ change ∈ changes, change.Storable) :
    (changes.foldl Report.apply report).Storable := by
  induction changes generalizing report with
  | nil => exact h
  | cons change rest ih =>
      obtain ⟨hchange, hrest⟩ := List.forall_mem_cons.1 hchanges
      exact ih (h.apply hchange) hrest

/-- No severity counts more diagnostics than have been added. -/
theorem counts_of_run (hadded : (changes.filterMap Change.added?).length < countBound) :
    (run now changes).summary.counts.Storable := by
  intro severity
  have hperm : (run now changes).diagnostics.Perm (changes.filterMap Change.added?) :=
    apply_all_diagnostics_perm
  have hcount : countOf severity (run now changes).diagnostics ≤
      (changes.filterMap Change.added?).length :=
    hperm.length_eq ▸ List.countP_le_length
  -- The counts follow the diagnostics, whatever the changes are.
  rw [tallied_run severity]
  omega

/-- Whatever changes have led to a report, it is the same when it is read back from its text. -/
theorem run_stored (hnow : now.Storable) (hchanges : ∀ change ∈ changes, change.Storable)
    (hadded : (changes.filterMap Change.added?).length < countBound) :
    ofText? (run now changes).toText = some (run now changes) :=
  of_text_to_text ((storable_start hnow).apply_all hchanges) (counts_of_run hadded)

/-- The start of the year 0. -/
def firstSecond : Instant :=
  ⟨-62167219200, 0, by decide⟩

/-- A leap second at the end of the year 9999, with one nanosecond. -/
def lastSecond : Instant :=
  ⟨253402300799, 1000000001, by decide⟩

/-- Changes to a report with texts that have to be escaped, and with the largest figures. -/
def extremeChanges : List Change := [
  .add {
    ruleId := "\"\\/"
    severity := .warning
    file := ⟨"src/\x01é𝐀.rs"⟩
    location := some ⟨4294967295, 0⟩
    message := "\n\t\x7f"
    name := some ""
    detectedAt := lastSecond },
  .configFingerprint "null",
  .totalFiles (countBound - 1),
  .add {
    ruleId := ""
    severity := .error
    file := ⟨"."⟩
    message := ""
    context := some "\r"
    suggestion := some "\x00"
    detectedAt := firstSecond },
  .declarationsChecked (countBound - 1),
  .sort,
  .milliseconds (countBound - 1)]

theorem extreme_changes_stored :
    (lastSecond.Storable ∧ (∀ change ∈ extremeChanges, change.Storable) ∧
      (extremeChanges.filterMap Change.added?).length < countBound) ∧
    ofText? (run lastSecond extremeChanges).toText = some (run lastSecond extremeChanges) :=
  have hnow : lastSecond.Storable := by decide
  have hchanges : ∀ change ∈ extremeChanges, change.Storable := by decide
  have hadded : (extremeChanges.filterMap Change.added?).length < countBound := by decide
  ⟨⟨hnow, hchanges, hadded⟩, run_stored hnow hchanges hadded⟩

end Report

end NamingLint
