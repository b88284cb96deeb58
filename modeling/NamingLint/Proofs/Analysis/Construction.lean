import NamingLint.Analysis.Basic
import NamingLint.Proofs.Filter.Reading
import NamingLint.Proofs.Naming.Registration

/-!
# Building analyzers

The check of a configuration does not look at its path patterns, so that a configuration may pass it
although no analyzer can be built. `construction_of_valid` says that nothing else can go wrong: an
analyzer is built exactly if all path patterns can be read, and a failure names the first that
cannot.
-/

namespace NamingLint.Analyzer

open NamingLint.Naming (ActiveRule DeclarationKind RuleTable)
open NamingLint.PathFilter (FirstFault IsPattern)

/-! ## The steps of the construction -/

/-- Reporting registrations never fails. -/
@[simp] theorem result_report_registrations
    (registrations : List (DeclarationKind × ActiveRule)) :
    (reportRegistrations registrations).result = .ok () := by
  induction registrations with
  | nil => rfl
  | cons entry rest ih =>
      rw [reportRegistrations, Journal.result_bind]
      exact ih

variable {config : Config} {analyzer : Analyzer}

/-- The analyzer of an acceptable configuration, given its filter and the expression for the names
of native containers. -/
def ofValid (config : Config) (filter : PathFilter) (regex : Regex) : Analyzer :=
  ⟨config, filter, .ofValid config, regex.isMatch⟩

/-- For an acceptable configuration, all that can fail is to build the filter. -/
theorem result_of_valid {regex : Regex} (hvalid : config.Valid)
    (hregex : Regex.parse config.nativePattern = .ok regex) :
    (ofConfig config).result = (filterOf config).map fun filter => ofValid config filter regex := by
  have hcheck : config.validate = .ok () := Config.validate_ok_iff.2 hvalid
  have htable : RuleTable.ofConfig config = .ok (.ofValid config) :=
    RuleTable.of_config_valid hvalid
  have hnative : nativeNameOf config = .ok regex.isMatch := by
    simp [nativeNameOf, hregex]
  -- Whether the table is empty makes a difference to the events only.
  cases hempty : (RuleTable.ofValid config).isEmpty <;> cases hfilter : filterOf config <;>
    simp [ofConfig, hcheck, htable, hempty, hfilter, hnative, ofValid, Except.map]

/-- An analyzer is built from an acceptable configuration only, and has its table and its test for
the names of native containers. -/
theorem of_config_accepts (h : (ofConfig config).result = .ok analyzer) :
    config.Valid ∧ ∃ filter regex, Regex.parse config.nativePattern = .ok regex ∧
      analyzer = ofValid config filter regex := by
  have hvalid : config.Valid := by
    rw [← Config.validate_ok_iff]
    cases hcheck : config.validate with
    | ok => rfl
    | error failure => simp [ofConfig, hcheck] at h
  obtain ⟨regex, hregex⟩ := hvalid.nativePattern
  rw [result_of_valid hvalid hregex] at h
  cases hfilter : filterOf config with
  | error failure => simp [hfilter, Except.map] at h
  | ok filter =>
      rw [hfilter] at h
      exact ⟨hvalid, filter, regex, hregex, (Except.ok.inj h).symm⟩

/-! ## The filter -/

theorem filter_of_ok_iff :
    (∃ filter, filterOf config = .ok filter) ↔ ∀ text ∈ config.paths.patterns, IsPattern text := by
  rw [← PathFilter.parse_patterns_ok_iff]
  unfold filterOf PathFilter.ofPatterns
  cases h : PathFilter.parsePatterns config.paths.patterns with
  | ok patterns => simp [Except.map]
  | error failure =>
      obtain ⟨text, error, _, rfl⟩ := PathFilter.parse_patterns_error_iff.1 h
      simp [Except.map]

/-- A filter cannot be built because of the first path pattern that cannot be read. -/
theorem filter_of_error_iff {failure : Failure} :
    filterOf config = .error failure ↔
      ∃ text error, FirstFault config.paths.patterns text error ∧
        failure = .configuration (.pathFilter (.path text error)) := by
  have hcause : filterOf config = .error failure ↔ ∃ cause,
      PathFilter.parsePatterns config.paths.patterns = .error (.pattern cause) ∧
        failure = .configuration (.pathFilter cause) := by
    unfold filterOf PathFilter.ofPatterns
    cases h : PathFilter.parsePatterns config.paths.patterns with
    | ok patterns => simp [Except.map]
    | error failed =>
        obtain ⟨text, error, _, rfl⟩ := PathFilter.parse_patterns_error_iff.1 h
        simp [Except.map, eq_comm]
  rw [hcause]
  constructor
  · rintro ⟨cause, h, rfl⟩
    obtain ⟨text, error, hfirst, hcause⟩ := PathFilter.parse_patterns_error_iff.1 h
    exact ⟨text, error, hfirst, by rw [Failure.pattern.inj hcause]⟩
  · rintro ⟨text, error, hfirst, rfl⟩
    exact ⟨_, PathFilter.parse_patterns_error_iff.2 ⟨text, error, hfirst, rfl⟩, rfl⟩

/-- An acceptable configuration whose path patterns can all be read has an analyzer. -/
theorem result_of_readable (hvalid : config.Valid)
    (hpatterns : ∀ text ∈ config.paths.patterns, IsPattern text) :
    ∃ filter regex, Regex.parse config.nativePattern = .ok regex ∧
      (ofConfig config).result = .ok (ofValid config filter regex) := by
  obtain ⟨regex, hregex⟩ := hvalid.nativePattern
  obtain ⟨filter, hfilter⟩ := filter_of_ok_iff.2 hpatterns
  exact ⟨filter, regex, hregex, by simp [result_of_valid hvalid hregex, hfilter, Except.map]⟩

/-! ## Acceptable configurations -/

/-- A configuration that passes its check makes an analyzer exactly if all its path patterns can be
read. If it makes none, the only reason is the first pattern that cannot. -/
theorem construction_of_valid (hcheck : config.validate = .ok ()) :
    ((∃ analyzer, (ofConfig config).result = .ok analyzer) ↔
      ∀ text ∈ config.paths.patterns, IsPattern text) ∧
    ∀ failure, (ofConfig config).result = .error failure ↔
      ∃ text error, FirstFault config.paths.patterns text error ∧
        failure = .configuration (.pathFilter (.path text error)) := by
  have hvalid := Config.validate_ok_iff.1 hcheck
  obtain ⟨regex, hregex⟩ := hvalid.nativePattern
  rw [result_of_valid hvalid hregex, ← filter_of_ok_iff]
  simp only [← filter_of_error_iff]
  cases filterOf config <;> simp [Except.map]

/-- A configuration with a path pattern that lacks its closing bracket. -/
def brokenPattern : Config :=
  { Config.default with paths := { patterns := ["target/", "["], ignoreFile := none } }

theorem construction_of_broken_pattern :
    brokenPattern.validate = .ok () ∧
      (ofConfig brokenPattern).result =
        .error (.configuration (.pathFilter (.path "[" ⟨0, .invalidRange⟩))) := by
  have hcheck : brokenPattern.validate = .ok () := by rfl
  have htarget : IsPattern "target/" := ⟨_, by cbv⟩
  exact ⟨hcheck, ((construction_of_valid hcheck).2 _).2
    ⟨"[", ⟨0, .invalidRange⟩, .later htarget (.here (by cbv)), rfl⟩⟩

/-- A configuration that passes its check may still have a path pattern that cannot be read. -/
theorem valid_without_analyzer :
    brokenPattern.validate = .ok () ∧
      ¬ ∃ analyzer, (ofConfig brokenPattern).result = .ok analyzer := by
  have hcheck : brokenPattern.validate = .ok () := by rfl
  refine ⟨hcheck, ?_⟩
  rintro ⟨analyzer, h⟩
  have hvalid := Config.validate_ok_iff.1 hcheck
  obtain ⟨regex, hregex⟩ := hvalid.nativePattern
  have hfilter : filterOf brokenPattern =
      .error (.configuration (.pathFilter (.path "[" ⟨0, .invalidRange⟩))) :=
    filter_of_error_iff.2 ⟨"[", ⟨0, .invalidRange⟩, .later ⟨_, by cbv⟩ (.here (by cbv)), rfl⟩
  rw [result_of_valid hvalid hregex, hfilter] at h
  cases h

end NamingLint.Analyzer
