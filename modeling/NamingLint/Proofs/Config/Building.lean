import Mathlib.Data.List.DropRight
import NamingLint.Config.Builder
import NamingLint.Proofs.Config.Validity

/-!
# Configurations built in steps

Steps change the default configuration one after the other, and only what comes out is checked.
`build_ok_iff` says when that succeeds and what it gives: patterns are collected, the last step
decides about everything else, and a step that mentions an unknown rule is the only mistake that
later steps cannot make good.
-/

namespace NamingLint.Config

open NamingLint.Naming (Rule)

/-! ## What a step gives -/

namespace Step

/-- The rule that a step mentions. -/
def ruleId? : Step → Option String
  | enable id => some id
  | rule id _ => some id
  | _ => none

/-- The path pattern that a step adds. -/
def pattern? : Step → Option String
  | addPattern pattern => some pattern
  | _ => none

/-- The name that a step gives to the ignore files. -/
def ignoreFile? : Step → Option String
  | ignoreFile name => some name
  | _ => none

/-- The pattern for native containers that a step sets. -/
def nativePattern? : Step → Option String
  | nativePattern pattern => some pattern
  | _ => none

/-- The settings that a step puts in place of those of a rule. -/
def settings? (id : String) : Step → Option RuleSettings
  | rule other settings => if other = id then some settings else none
  | _ => none

/-- The last of the values that some steps give, if any of them gives one. -/
def last? {α : Type} (part : Step → Option α) (steps : List Step) : Option α :=
  (steps.filterMap part).getLast?

/-- The steps behind the last one that replaces the settings of a rule, or all of them if none
does. -/
def behindSettings (id : String) (steps : List Step) : List Step :=
  steps.rtakeWhile fun step => (step.settings? id).isNone

/-- The settings of a rule after some steps: those that the last step put in place, or else the
former ones, and enabled if a later step asks for it. -/
def settingsAfter (id : String) (former : Option RuleSettings) (steps : List Step) :
    Option RuleSettings :=
  let settings := (last? (settings? id) steps).or former
  if .enable id ∈ behindSettings id steps then some { settings.getD {} with enabled := true }
  else settings

end Step

section

variable {α : Type} {part : Step → Option α} {config : Config} {step : Step} {steps : List Step}
  {id : String}

/-! ## One step -/

theorem apply_version : (config.apply step).version = config.version := by
  cases step <;> rfl

theorem apply_patterns :
    (config.apply step).paths.patterns = config.paths.patterns ++ step.pattern?.toList := by
  cases step with
  | addPattern pattern => rfl
  | enable | rule | ignoreFile | nativePattern => exact (List.append_nil _).symm

theorem apply_ignore_file :
    (config.apply step).paths.ignoreFile = step.ignoreFile?.or config.paths.ignoreFile := by
  cases step <;> rfl

theorem apply_native_pattern : (config.apply step).nativePattern =
    step.nativePattern?.getD config.nativePattern := by
  cases step <;> rfl

/-- A step enables a rule, replaces its settings or leaves them as they are. -/
theorem apply_settings : (config.apply step).rules.find? id = (step.settings? id).or
    (if step = .enable id then some { (config.rules.find? id).getD {} with enabled := true }
      else config.rules.find? id) := by
  cases step with
  | enable other =>
      rw [apply, enableRule, RuleMap.enable, RuleMap.find?_alter]
      by_cases h : id = other
      · simp [h, Step.settings?]
      · simp [h, Ne.symm h, Step.settings?]
  | rule other settings =>
      rw [apply, RuleMap.insert, RuleMap.find?_alter]
      by_cases h : id = other
      · simp [h, Step.settings?]
      · simp [h, Ne.symm h, Step.settings?]
  | addPattern | ignoreFile | nativePattern => rfl

/-- A rule has settings once a step has mentioned it, and keeps them. -/
theorem apply_mentions : ((config.apply step).rules.find? id).isSome = true ↔
    step.ruleId? = some id ∨ (config.rules.find? id).isSome = true := by
  rw [apply_settings]
  cases step with
  | enable other => by_cases h : other = id <;> simp [Step.settings?, Step.ruleId?, h]
  | rule other settings => by_cases h : other = id <;> simp [Step.settings?, Step.ruleId?, h]
  | addPattern | ignoreFile | nativePattern => simp [Step.settings?, Step.ruleId?]

/-! ## Steps in a row -/

/-- Apply changes one after the other. -/
def applyAll (config : Config) (steps : List Step) : Config :=
  steps.foldl apply config

theorem apply_all_concat :
    config.applyAll (steps ++ [step]) = (config.applyAll steps).apply step :=
  List.foldl_concat ..

theorem Step.last_concat :
    Step.last? part (steps ++ [step]) = (part step).or (Step.last? part steps) := by
  unfold Step.last?
  rw [List.filterMap_append]
  cases h : part step <;> simp [h]

/-- A part of a configuration that each step either sets or keeps is what the last step that sets
it gives. -/
theorem apply_all_last (view : Config → Option α)
    (hstep : ∀ config step, view (apply config step) = (part step).or (view config)) :
    view (config.applyAll steps) = (Step.last? part steps).or (view config) := by
  induction steps using List.reverseRecOn with
  | nil => rfl
  | append_singleton steps step ih =>
      rw [apply_all_concat, hstep, ih, Step.last_concat, Option.or_assoc]

theorem apply_all_version : (config.applyAll steps).version = config.version := by
  induction steps using List.reverseRecOn with
  | nil => rfl
  | append_singleton steps step ih => rw [apply_all_concat, apply_version, ih]

theorem apply_all_patterns : (config.applyAll steps).paths.patterns =
    config.paths.patterns ++ steps.filterMap Step.pattern? := by
  induction steps using List.reverseRecOn with
  | nil => exact (List.append_nil _).symm
  | append_singleton steps step ih =>
      rw [apply_all_concat, apply_patterns, ih, List.filterMap_append, List.append_assoc]
      cases h : step.pattern? <;> simp [h]

theorem apply_all_ignore_file : (config.applyAll steps).paths.ignoreFile =
    (Step.last? Step.ignoreFile? steps).or config.paths.ignoreFile :=
  apply_all_last (fun config => config.paths.ignoreFile) fun _ _ => apply_ignore_file

theorem apply_all_native_pattern : (config.applyAll steps).nativePattern =
    (Step.last? Step.nativePattern? steps).getD config.nativePattern := by
  have hlast : some (config.applyAll steps).nativePattern =
      (Step.last? Step.nativePattern? steps).or (some config.nativePattern) :=
    apply_all_last (fun config => some config.nativePattern) fun config step => by
      rw [apply_native_pattern, Option.or_some]
  rw [Option.or_some] at hlast
  exact Option.some.inj hlast

theorem apply_all_mentions : ((config.applyAll steps).rules.find? id).isSome = true ↔
    (∃ step ∈ steps, step.ruleId? = some id) ∨ (config.rules.find? id).isSome = true := by
  induction steps using List.reverseRecOn with
  | nil => simp [applyAll]
  | append_singleton steps step ih =>
      rw [apply_all_concat, apply_mentions, ih, ← or_assoc]
      simp [or_and_right, exists_or, or_comm]

/-! ## Settings of a rule -/

/-- One more step acts on the settings of a rule as it acts on those of a configuration. -/
theorem Step.settings_after_concat {former : Option RuleSettings} :
    Step.settingsAfter id former (steps ++ [step]) = (step.settings? id).or
      (if step = .enable id then
        some { (Step.settingsAfter id former steps).getD {} with enabled := true }
      else Step.settingsAfter id former steps) := by
  unfold Step.settingsAfter Step.behindSettings
  rw [Step.last_concat, List.rtakeWhile_concat]
  cases hsettings : step.settings? id with
  | some settings => simp
  | none =>
      -- The step stands behind the last one that replaces the settings.
      simp only [Option.isNone_none, if_true, Option.none_or, List.mem_append, List.mem_singleton,
        eq_comm (a := Step.enable id) (b := step)]
      by_cases hstep : step = .enable id
      · simp only [hstep, or_true, if_true]
        split <;> rfl
      · simp only [hstep, or_false, if_false]

theorem apply_all_settings : (config.applyAll steps).rules.find? id =
    Step.settingsAfter id (config.rules.find? id) steps := by
  induction steps using List.reverseRecOn with
  | nil => simp [applyAll, Step.settingsAfter, Step.last?, Step.behindSettings]
  | append_singleton steps step ih =>
      rw [apply_all_concat, apply_settings, ih, Step.settings_after_concat]

/-- Enabling a rule leaves its severity as it is. -/
theorem Step.severity_after {former : Option RuleSettings} :
    (Step.settingsAfter id former steps).bind RuleSettings.severity =
      ((Step.last? (Step.settings? id) steps).or former).bind RuleSettings.severity := by
  unfold Step.settingsAfter
  split
  · cases (Step.last? (Step.settings? id) steps).or former <;> rfl
  · rfl

end

/-! ## The check of what comes out -/

section

variable {config : Config} {steps : List Step} {rule : Rule} {id : String}
  {settings : RuleSettings}

theorem find_rule_of_mem (h : rule ∈ Rule.catalog) : Rule.find? rule.id = some rule := by
  obtain rfl := List.mem_singleton.1 h
  exact find_rule_some_iff.2 ⟨rfl, rfl⟩

theorem ValidSettings.known (h : ValidSettings id settings) : id ∈ Rule.catalog.map Rule.id := by
  obtain ⟨rule, hrule, _⟩ := h
  obtain ⟨rfl, rfl⟩ := find_rule_some_iff.1 hrule
  exact List.mem_map_of_mem List.mem_cons_self

/-- No severity of the catalog can be configured. -/
theorem valid_settings_iff (h : rule ∈ Rule.catalog) : ValidSettings rule.id settings ↔
    settings.severity = none ∨ settings.severity = some rule.defaultSeverity := by
  unfold ValidSettings
  simp only [find_rule_of_mem h, Option.some.injEq, exists_eq_left']
  obtain rfl := List.mem_singleton.1 h
  cases settings.severity <;> simp [Rule.lowerCase]

/-- A configuration has acceptable settings if all that is found in it is acceptable. -/
theorem rules_valid_iff : (∀ entry ∈ config.rules.entries, ValidSettings entry.1 entry.2) ↔
    ∀ id settings, config.rules.find? id = some settings → ValidSettings id settings := by
  simp only [Prod.forall, RuleMap.find?_eq_some_iff]

theorem default_valid : default.Valid :=
  validate_ok_iff.1 (by rfl)

/-- The default configuration has settings for all rules of the catalog. -/
theorem default_settings (h : rule ∈ Rule.catalog) :
    default.rules.find? rule.id = some (defaultSettings rule) := by
  obtain rfl := List.mem_singleton.1 h
  rfl

theorem default_mentions :
    (default.rules.find? id).isSome = true ↔ id ∈ Rule.catalog.map Rule.id := by
  constructor
  · intro h
    obtain ⟨settings, hsettings⟩ := Option.isSome_iff_exists.1 h
    exact (rules_valid_iff.1 default_valid.rules id settings hsettings).known
  · intro h
    obtain ⟨rule, hrule, rfl⟩ := List.mem_map.1 h
    rw [default_settings hrule]
    rfl

/-- The severity of a rule is that of the last settings put in place for it. -/
theorem severity_of_found (hrule : rule ∈ Rule.catalog)
    (hfound : (default.applyAll steps).rules.find? rule.id = some settings) :
    settings.severity =
      (Step.last? (Step.settings? rule.id) steps).bind RuleSettings.severity := by
  have hseverity : (some settings).bind RuleSettings.severity = _ :=
    hfound ▸ apply_all_settings ▸ Step.severity_after
  rw [default_settings hrule] at hseverity
  refine hseverity.trans ?_
  cases Step.last? (Step.settings? rule.id) steps <;> rfl

/-- The settings that steps lead to are acceptable exactly if the steps mention known rules only and
the last settings of each rule are acceptable. -/
theorem rules_valid_apply_all_iff :
    (∀ entry ∈ (default.applyAll steps).rules.entries, ValidSettings entry.1 entry.2) ↔
      (∀ step ∈ steps, ∀ id ∈ step.ruleId?, id ∈ Rule.catalog.map Rule.id) ∧
      ∀ rule ∈ Rule.catalog, ∀ settings ∈ Step.last? (Step.settings? rule.id) steps,
        settings.severity = none ∨ settings.severity = some rule.defaultSeverity := by
  rw [rules_valid_iff]
  constructor
  · intro h
    refine ⟨fun step hstep id hid => ?_, fun rule hrule settings hsettings => ?_⟩
    · have hmentioned : ((default.applyAll steps).rules.find? id).isSome = true :=
        apply_all_mentions.2 (.inl ⟨step, hstep, hid⟩)
      obtain ⟨settings, hfound⟩ := Option.isSome_iff_exists.1 hmentioned
      exact (h id settings hfound).known
    · have hmentioned : ((default.applyAll steps).rules.find? rule.id).isSome = true :=
        apply_all_mentions.2 (.inr (default_mentions.2 (List.mem_map_of_mem hrule)))
      obtain ⟨found, hfound⟩ := Option.isSome_iff_exists.1 hmentioned
      have hseverity : found.severity = settings.severity := by
        rw [severity_of_found hrule hfound, hsettings]
        rfl
      rw [← hseverity]
      exact (valid_settings_iff hrule).1 (h rule.id found hfound)
  · rintro ⟨hknown, hseverity⟩ id settings hfound
    have hid : id ∈ Rule.catalog.map Rule.id := by
      rcases apply_all_mentions.1 (Option.isSome_iff_exists.2 ⟨settings, hfound⟩) with
        ⟨step, hstep, hid⟩ | hdefault
      · exact hknown step hstep id hid
      · exact default_mentions.1 hdefault
    obtain ⟨rule, hrule, rfl⟩ := List.mem_map.1 hid
    rw [valid_settings_iff hrule, severity_of_found hrule hfound]
    cases hlast : Step.last? (Step.settings? rule.id) steps with
    | none => exact .inl rfl
    | some last => exact hseverity rule hrule last hlast

theorem native_valid_apply_all_iff :
    (∃ regex, Regex.parse (default.applyAll steps).nativePattern = .ok regex) ↔
      ∀ pattern ∈ Step.last? Step.nativePattern? steps,
        ∃ regex, Regex.parse pattern = .ok regex := by
  rw [apply_all_native_pattern]
  cases Step.last? Step.nativePattern? steps with
  | none => exact iff_of_true default_valid.nativePattern nofun
  | some pattern => simp

/-- Steps lead to an acceptable configuration exactly if they mention known rules only, and if the
last pattern for native containers and the last settings of each rule are acceptable. -/
theorem valid_apply_all_iff : (default.applyAll steps).Valid ↔
    (∀ step ∈ steps, ∀ id ∈ step.ruleId?, id ∈ Rule.catalog.map Rule.id) ∧
    (∀ pattern ∈ Step.last? Step.nativePattern? steps, ∃ regex, Regex.parse pattern = .ok regex) ∧
    ∀ rule ∈ Rule.catalog, ∀ settings ∈ Step.last? (Step.settings? rule.id) steps,
      settings.severity = none ∨ settings.severity = some rule.defaultSeverity := by
  constructor
  · intro h
    obtain ⟨hknown, hseverity⟩ := rules_valid_apply_all_iff.1 h.rules
    exact ⟨hknown, native_valid_apply_all_iff.1 h.nativePattern, hseverity⟩
  · rintro ⟨hknown, hnative, hseverity⟩
    have hversion : (default.applyAll steps).version ∈ supportedVersions := by
      rw [apply_all_version]
      exact default_valid.version
    exact ⟨hversion, native_valid_apply_all_iff.2 hnative,
      rules_valid_apply_all_iff.2 ⟨hknown, hseverity⟩⟩

theorem build_ok_iff : build steps = .ok config ↔
    (default.applyAll steps).Valid ∧ config = default.applyAll steps := by
  have hbuild : build steps = (default.applyAll steps).checked := rfl
  rw [hbuild, checked, ← validate_ok_iff]
  cases (default.applyAll steps).validate <;> simp [eq_comm]

/-- Steps that put a pattern for native containers and the settings of all rules in place that are
acceptable. -/
def repairs : List Step :=
  .nativePattern defaultNativePattern :: Rule.catalog.map fun rule =>
    .rule rule.id (defaultSettings rule)

/-- Steps that mention known rules only can be made good. -/
theorem valid_repaired
    (hknown : ∀ step ∈ steps, ∀ id ∈ step.ruleId?, id ∈ Rule.catalog.map Rule.id) :
    (default.applyAll (steps ++ repairs)).Valid := by
  have hlast {α : Type} {part : Step → Option α} {value : α}
      (h : Step.last? part repairs = some value) :
      Step.last? part (steps ++ repairs) = some value := by
    unfold Step.last? at h ⊢
    rw [List.filterMap_append, List.getLast?_append, h, Option.some_or]
  refine valid_apply_all_iff.2 ⟨?_, ?_, ?_⟩
  · refine List.forall_mem_append.2 ⟨hknown, ?_⟩
    rintro step hstep id hid
    rcases List.mem_cons.1 hstep with rfl | hstep
    · cases hid
    · obtain ⟨rule, hrule, rfl⟩ := List.mem_map.1 hstep
      obtain rfl : rule.id = id := Option.some.inj hid
      exact List.mem_map_of_mem hrule
  · have hnative : Step.last? Step.nativePattern? repairs = some defaultNativePattern := by rfl
    rw [hlast hnative]
    intro pattern hpattern
    obtain rfl := Option.mem_some_iff.1 hpattern
    exact default_valid.nativePattern
  · intro rule hrule
    have hsettings : Step.last? (Step.settings? rule.id) repairs = some (defaultSettings rule) := by
      obtain rfl := List.mem_singleton.1 hrule
      rfl
    rw [hlast hsettings]
    intro settings hlast
    obtain rfl := Option.mem_some_iff.1 hlast
    exact .inl rfl

end

/-- Building succeeds exactly if all rules that steps mention are known, the last pattern for native
containers is an expression, and the last settings of each rule leave its severity as it is. What is
built then has the default patterns and behind them those that were added, and else what the last
steps say: a rule has the last settings put in place for it, enabled if it was enabled behind them.
Later steps can make good everything but the mention of an unknown rule. -/
theorem build_by_last_steps (steps : List Step) :
    ((∃ config, build steps = .ok config) ↔
      (∀ step ∈ steps, ∀ id ∈ step.ruleId?, id ∈ Rule.catalog.map Rule.id) ∧
      (∀ pattern ∈ Step.last? Step.nativePattern? steps, ∃ regex, Regex.parse pattern = .ok regex) ∧
      ∀ rule ∈ Rule.catalog, ∀ settings ∈ Step.last? (Step.settings? rule.id) steps,
        settings.severity = none ∨ settings.severity = some rule.defaultSeverity) ∧
    (∀ config, build steps = .ok config →
      config.version = default.version ∧
      config.paths.patterns = defaultPaths.patterns ++ steps.filterMap Step.pattern? ∧
      config.paths.ignoreFile =
        (Step.last? Step.ignoreFile? steps).or defaultPaths.ignoreFile ∧
      config.nativePattern = (Step.last? Step.nativePattern? steps).getD defaultNativePattern ∧
      (∀ id, (config.rules.find? id).isSome = true ↔ id ∈ Rule.catalog.map Rule.id) ∧
      ∀ rule ∈ Rule.catalog, config.rules.find? rule.id =
        Step.settingsAfter rule.id (some (defaultSettings rule)) steps) ∧
    ((∃ more config, build (steps ++ more) = .ok config) ↔
      ∀ step ∈ steps, ∀ id ∈ step.ruleId?, id ∈ Rule.catalog.map Rule.id) := by
  refine ⟨?_, fun config hbuild => ?_, ?_, fun hknown => ?_⟩
  · rw [← valid_apply_all_iff]
    simp only [build_ok_iff, exists_and_left, exists_eq, and_true]
  · obtain ⟨hvalid, rfl⟩ := build_ok_iff.1 hbuild
    obtain ⟨hknown, _, _⟩ := valid_apply_all_iff.1 hvalid
    refine ⟨apply_all_version, apply_all_patterns, apply_all_ignore_file, apply_all_native_pattern,
      fun id => ?_, fun rule hrule => ?_⟩
    · rw [apply_all_mentions, default_mentions]
      constructor
      · rintro (⟨step, hstep, hid⟩ | hdefault)
        · exact hknown step hstep id hid
        · exact hdefault
      · exact .inr
    · rw [apply_all_settings, default_settings hrule]
  · rintro ⟨more, config, hbuild⟩ step hstep
    obtain ⟨hknown, _, _⟩ := valid_apply_all_iff.1 (build_ok_iff.1 hbuild).1
    exact hknown step (List.mem_append_left more hstep)
  · exact ⟨repairs, _, build_ok_iff.2 ⟨valid_repaired hknown, rfl⟩⟩

/-- Two steps that are mistakes, and others that make them good. -/
def repairedSteps : List Step :=
  [.nativePattern "(", .rule Rule.lowerCase.id { severity := some .info },
    .enable Rule.lowerCase.id, .addPattern "a/", .ignoreFile "x",
    .rule Rule.lowerCase.id { allowUnderscoreDigit := true, severity := some .error },
    .addPattern "!b", .nativePattern "N$", .enable Rule.lowerCase.id, .ignoreFile "y"]

theorem build_of_repaired_steps : ∃ config, build repairedSteps = .ok config ∧
    config.paths.patterns = ["target/", "**/.git/", "**/*.generated.*", "a/", "!b"] ∧
    config.paths.ignoreFile = some "y" ∧ config.nativePattern = "N$" ∧
    config.rules.find? Rule.lowerCase.id =
      some { enabled := true, allowUnderscoreDigit := true, severity := some .error } ∧
    (¬ ∃ config, build (repairedSteps.take 7) = .ok config) ∧
    ¬ ∃ config, build (repairedSteps.take 2 ++ [.nativePattern "N$"]) = .ok config := by
  have hbuild : build repairedSteps = .ok (default.applyAll repairedSteps) := by rfl
  obtain ⟨_, hpatterns, hignore, hnative, _, hrules⟩ :=
    (build_by_last_steps repairedSteps).2.1 _ hbuild
  refine ⟨_, hbuild, hpatterns, hignore, hnative, hrules _ List.mem_cons_self, fun hbuilt => ?_,
    fun hbuilt => ?_⟩
  · obtain ⟨_, hparsed, _⟩ := (build_by_last_steps (repairedSteps.take 7)).1.1 hbuilt
    obtain ⟨regex, hregex⟩ := hparsed "(" rfl
    cases hregex
  · obtain ⟨_, _, hseverity⟩ :=
      (build_by_last_steps (repairedSteps.take 2 ++ [.nativePattern "N$"])).1.1 hbuilt
    rcases hseverity Rule.lowerCase List.mem_cons_self { severity := some .info } rfl with h | h
    · cases h
    · cases h

end NamingLint.Config
