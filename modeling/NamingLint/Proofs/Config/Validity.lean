import NamingLint.Config.Validation

/-!
# What checking a configuration establishes

`validate_ok_iff` says which configurations pass the check. The catalog holds a single rule, so that
a configuration that passes it has settings for that rule at most (`Valid.entries`).
-/

namespace NamingLint.Config

open NamingLint.Naming (DeclarationKind Rule)

/-- The settings of a rule are acceptable: the catalog knows the rule, and a severity that cannot be
configured is left as it is. -/
def ValidSettings (id : String) (settings : RuleSettings) : Prop :=
  ∃ rule, Rule.find? id = some rule ∧ ∀ severity, settings.severity = some severity →
    rule.severityConfigurable = true ∨ severity = rule.defaultSeverity

/-- A configuration is acceptable. Its path patterns and its ignore file are not looked at. -/
structure Valid (config : Config) : Prop where
  version : config.version ∈ supportedVersions
  nativePattern : ∃ regex, Regex.parse config.nativePattern = .ok regex
  rules : ∀ entry ∈ config.rules.entries, ValidSettings entry.1 entry.2

/-! ## The check -/

theorem validate_rule_ok_iff {id : String} {settings : RuleSettings} :
    validateRule id settings = .ok () ↔ ValidSettings id settings := by
  unfold validateRule ValidSettings
  cases Rule.find? id with
  | none => simp
  | some rule =>
      cases settings.severity with
      | none => simp
      | some severity =>
          cases hfixed : rule.severityConfigurable <;>
            by_cases hsame : severity = rule.defaultSeverity <;> simp [hfixed, hsame]

theorem validate_rules_ok_iff {entries : List (String × RuleSettings)} :
    validateRules entries = .ok () ↔ ∀ entry ∈ entries, ValidSettings entry.1 entry.2 := by
  induction entries with
  | nil => simp [validateRules]
  | cons entry rest ih =>
      rw [List.forall_mem_cons, ← validate_rule_ok_iff, ← ih]
      cases h : validateRule entry.1 entry.2 <;> simp [validateRules, h]

/-- The check accepts exactly the acceptable configurations. -/
theorem validate_ok_iff {config : Config} : config.validate = .ok () ↔ config.Valid := by
  unfold validate
  constructor
  · intro h
    split at h
    · cases h
    · rename_i hversion
      split at h
      · cases h
      · rename_i regex hregex
        exact ⟨by simpa using hversion, ⟨regex, hregex⟩, validate_rules_ok_iff.1 h⟩
  · rintro ⟨hversion, ⟨regex, hregex⟩, hrules⟩
    simp [hversion, hregex, validate_rules_ok_iff.2 hrules]

/-! ## The single rule of the catalog -/

/-- The catalog knows the lower-case rule and no other. -/
theorem find_rule_some_iff {id : String} {rule : Rule} :
    Rule.find? id = some rule ↔ id = Rule.lowerCase.id ∧ rule = Rule.lowerCase := by
  simp only [Rule.find?, Rule.catalog, List.find?_singleton]
  by_cases h : id = Rule.lowerCase.id
  · subst h
    simp [eq_comm]
  · have hne : (Rule.lowerCase.id == id) = false := beq_eq_false_iff_ne.2 (Ne.symm h)
    simp [hne, h]

/-- The settings of the lower-case rule; disabled ones if the configuration does not mention it. -/
def ruleSettings (config : Config) : RuleSettings :=
  config.settingsOf Rule.lowerCase.id

/-- The kinds of declarations that the lower-case rule looks at: none unless it is enabled, and its
own choice if the configuration leaves them open. -/
def checkedKinds (config : Config) : List DeclarationKind :=
  if config.ruleSettings.enabled then
    config.ruleSettings.declarationKinds.getD Rule.lowerCase.defaultKinds
  else []

section

variable {config : Config}

/-- A valid configuration has settings for the lower-case rule or for none. -/
theorem Valid.entries_eq (h : config.Valid) :
    config.rules.entries = [] ∧ config.ruleSettings = {} ∨
      config.rules.entries = [(Rule.lowerCase.id, config.ruleSettings)] := by
  have hids : ∀ entry ∈ config.rules.entries, entry.1 = Rule.lowerCase.id := by
    intro entry hentry
    obtain ⟨rule, hrule, _⟩ := h.rules entry hentry
    exact (find_rule_some_iff.1 hrule).1
  have hascending := config.rules.ascending
  simp only [ruleSettings, settingsOf, RuleMap.find?]
  cases hentries : config.rules.entries with
  | nil => exact .inl ⟨rfl, rfl⟩
  | cons first rest =>
      rw [hentries] at hids hascending
      have hfirst := hids first List.mem_cons_self
      cases rest with
      | nil =>
          obtain ⟨id, settings⟩ := first
          obtain rfl : id = Rule.lowerCase.id := hfirst
          exact .inr (by simp)
      | cons second rest =>
          -- Two identifiers in ascending order cannot both be that of the rule.
          have hlt := (List.pairwise_cons.1 hascending).1 second List.mem_cons_self
          have hsecond := hids second (List.mem_cons_of_mem _ List.mem_cons_self)
          rw [hfirst, hsecond] at hlt
          exact absurd hlt (String.lt_irrefl _)

/-- A valid configuration enables the lower-case rule or none. -/
theorem Valid.enabled_eq (h : config.Valid) :
    config.rules.enabled =
      if config.ruleSettings.enabled then [(Rule.lowerCase.id, config.ruleSettings)] else [] := by
  rcases h.entries_eq with ⟨hentries, hsettings⟩ | hentries
  · simp [RuleMap.enabled, hentries, hsettings]
  · simp [RuleMap.enabled, hentries, List.filter_cons]

/-- A valid configuration leaves the severity of the lower-case rule as it is. -/
theorem Valid.severity_eq (h : config.Valid) :
    config.ruleSettings.severity.getD Rule.lowerCase.defaultSeverity = .error := by
  rcases h.entries_eq with ⟨_, hsettings⟩ | hentries
  · simp [hsettings, Rule.lowerCase]
  · obtain ⟨rule, hrule, hseverity⟩ :=
      h.rules (Rule.lowerCase.id, config.ruleSettings) (by simp [hentries])
    obtain ⟨_, rfl⟩ := find_rule_some_iff.1 hrule
    cases hsome : config.ruleSettings.severity with
    | none => rfl
    | some severity => simpa [Rule.lowerCase] using hseverity severity hsome

end

end NamingLint.Config
