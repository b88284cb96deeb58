import Mathlib.Data.Set.Finite.Lemmas
import NamingLint.Proofs.CommandLine.ExitCode
import NamingLint.Proofs.Config.Building

/-!
# Rules enabled for a check

A check loads a configuration and then enables the rules that its options name. The configuration
has been checked by then, and the names have not. `enabled_rules_as_set` says what comes out: it
depends on the names as a set, all but the named rules is left as it was, and an analyzer is
missing exactly because of a name that the catalog lacks.
-/

namespace NamingLint

open NamingLint.Naming (Rule)

/-! ## Enabling several rules -/

namespace Config

section

variable {config : Config} {ids : List String} {id : String}

/-- Maps in which the same settings are found are the same. -/
theorem RuleMap.eq_of_find {left right : RuleMap}
    (h : ∀ id, left.find? id = right.find? id) : left = right := by
  have hirrefl : Std.Irrefl fun left right : String × RuleSettings => left.1 < right.1 :=
    ⟨fun entry => String.lt_irrefl entry.1⟩
  have hantisymm : Std.Antisymm fun left right : String × RuleSettings => left.1 < right.1 :=
    ⟨fun left right hlt hgt => absurd (String.lt_trans hlt hgt) (String.lt_irrefl left.1)⟩
  have hentries : left.entries = right.entries := by
    refine left.ascending.eq_of_mem_iff right.ascending fun entry => ?_
    rw [← find?_eq_some_iff, ← find?_eq_some_iff, h]
  cases left
  cases right
  cases hentries
  rfl

/-- Steps that enable rules leave everything but the settings of rules as it is. -/
theorem apply_all_enable_frame :
    config.applyAll (ids.map .enable) =
      { config with rules := (config.applyAll (ids.map .enable)).rules } := by
  induction ids using List.reverseRecOn with
  | nil => rfl
  | append_singleton ids id ih =>
      rw [List.map_append, List.map_singleton, apply_all_concat, ih]
      rfl

/-- Steps that enable rules enable those that they name and leave all others as they are. -/
theorem apply_all_enable_settings :
    (config.applyAll (ids.map .enable)).rules.find? id =
      if id ∈ ids then some { (config.rules.find? id).getD {} with enabled := true }
      else config.rules.find? id := by
  induction ids using List.reverseRecOn with
  | nil => simp [applyAll]
  | append_singleton ids last ih =>
      rw [List.map_append, List.map_singleton, apply_all_concat, apply_settings, ih]
      by_cases hlast : last = id
      · -- To enable a rule once more changes nothing.
        by_cases hmem : id ∈ ids <;> simp [Step.settings?, hlast, hmem]
      · simp [Step.settings?, hlast, Ne.symm hlast]

/-- In what order and how often rules are enabled makes no difference. -/
theorem apply_all_enable_congr {others : List String} (h : ∀ id, id ∈ others ↔ id ∈ ids) :
    config.applyAll (others.map .enable) = config.applyAll (ids.map .enable) := by
  have hrules : (config.applyAll (others.map .enable)).rules =
      (config.applyAll (ids.map .enable)).rules :=
    RuleMap.eq_of_find fun id => by
      rw [apply_all_enable_settings, apply_all_enable_settings, if_congr (h id) rfl rfl]
  rw [apply_all_enable_frame, hrules, ← apply_all_enable_frame]

/-! ## The check of what comes out -/

/-- A rule that the catalog knows stays acceptable when it is enabled. -/
theorem valid_settings_after_enable (hvalid : config.Valid) (hknown : id ∈ Rule.catalog.map Rule.id)
    {settings : RuleSettings}
    (hfound : (config.applyAll (ids.map .enable)).rules.find? id = some settings) :
    ValidSettings id settings := by
  have hformer := rules_valid_iff.1 hvalid.rules id
  rw [apply_all_enable_settings] at hfound
  cases hconfig : config.rules.find? id with
  | none =>
      obtain ⟨rule, hrule, rfl⟩ := List.mem_map.1 hknown
      refine (valid_settings_iff hrule).2 (.inl ?_)
      rw [hconfig] at hfound
      split at hfound
      · rw [← Option.some.inj hfound]
        rfl
      · cases hfound
  | some former =>
      have hvalid := hformer former hconfig
      rw [hconfig] at hfound
      -- The flag has no part in the check.
      split at hfound <;> rwa [← Option.some.inj hfound]

/-- Rules that are acceptable do not stop the check of those behind them. -/
theorem validate_rules_append {front back : List (String × RuleSettings)}
    (h : ∀ entry ∈ front, ValidSettings entry.1 entry.2) :
    validateRules (front ++ back) = validateRules back := by
  induction front with
  | nil => rfl
  | cons entry front ih =>
      obtain ⟨hentry, hfront⟩ := List.forall_mem_cons.1 h
      rw [List.cons_append, validateRules, validate_rule_ok_iff.2 hentry]
      exact ih hfront

theorem find_rule_none_iff : Rule.find? id = none ↔ id ∉ Rule.catalog.map Rule.id := by
  simp [Rule.find?]

/-- An acceptable configuration in which rules are enabled stays acceptable if the catalog knows
them all. -/
theorem valid_after_enable (hvalid : config.Valid)
    (hknown : ∀ id ∈ ids, id ∈ Rule.catalog.map Rule.id) :
    (config.applyAll (ids.map .enable)).Valid := by
  have hrules : ∀ entry ∈ (config.applyAll (ids.map .enable)).rules.entries,
      ValidSettings entry.1 entry.2 := by
    refine rules_valid_iff.2 fun id settings hfound => ?_
    refine valid_settings_after_enable hvalid ?_ hfound
    rw [apply_all_enable_settings] at hfound
    split at hfound
    · rename_i hmem
      exact hknown id hmem
    · exact (rules_valid_iff.1 hvalid.rules id settings hfound).known
  rw [apply_all_enable_frame] at hrules ⊢
  exact ⟨hvalid.version, hvalid.nativePattern, hrules⟩

/-- The rules that the catalog lacks, among some. -/
def unknownAmong (ids : List String) : Set String :=
  {id | id ∈ ids ∧ id ∉ Rule.catalog.map Rule.id}

theorem exists_least_unknown (h : ∃ id ∈ ids, id ∉ Rule.catalog.map Rule.id) :
    ∃ id, IsLeast (unknownAmong ids) id := by
  have hfinite : (unknownAmong ids).Finite :=
    (List.finite_toSet ids).subset fun id hid => hid.1
  obtain ⟨id, hid, hleast⟩ := Set.exists_min_image (unknownAmong ids) id hfinite h
  exact ⟨id, hid, hleast⟩

/-- Identifiers ascend, so that only known rules stand in front of the least unknown one. -/
theorem least_unknown_entry (hvalid : config.Valid) (hleast : IsLeast (unknownAmong ids) id) :
    ∃ settings front back,
      (config.applyAll (ids.map .enable)).rules.entries = front ++ (id, settings) :: back ∧
      ∀ entry ∈ front, entry.1 ∈ Rule.catalog.map Rule.id := by
  obtain ⟨settings, hfound⟩ : ∃ settings,
      (config.applyAll (ids.map .enable)).rules.find? id = some settings := by
    rw [apply_all_enable_settings, if_pos hleast.1.1]
    exact ⟨_, rfl⟩
  obtain ⟨front, back, hsplit⟩ := List.append_of_mem (RuleMap.find?_eq_some_iff.1 hfound)
  refine ⟨settings, front, back, hsplit, fun entry hentry => ?_⟩
  by_contra hlacking
  have hbefore : entry.1 < id := by
    have hascending := (config.applyAll (ids.map .enable)).rules.ascending
    rw [hsplit] at hascending
    exact (List.pairwise_append.1 hascending).2.2 entry hentry _ List.mem_cons_self
  have hnamed : entry.1 ∈ ids := by
    by_contra hnot
    have hkept := RuleMap.find?_eq_some_iff.2 (hsplit ▸ List.mem_append_left _ hentry)
    rw [apply_all_enable_settings, if_neg hnot] at hkept
    exact hlacking (rules_valid_iff.1 hvalid.rules _ _ hkept).known
  exact absurd (hleast.2 ⟨hnamed, hlacking⟩) (not_le.2 hbefore)

/-- If the catalog lacks some of the rules that are enabled, the check names the least of them. -/
theorem validate_after_enable (hvalid : config.Valid) (hleast : IsLeast (unknownAmong ids) id) :
    (config.applyAll (ids.map .enable)).validate =
      .error (.configuration (.unknownRule id)) := by
  obtain ⟨settings, front, back, hsplit, hknown⟩ := least_unknown_entry hvalid hleast
  have hfront : ∀ entry ∈ front, ValidSettings entry.1 entry.2 := fun entry hmem =>
    valid_settings_after_enable hvalid (hknown entry hmem)
      (RuleMap.find?_eq_some_iff.2 (hsplit ▸ List.mem_append_left _ hmem))
  have hrules : validateRules (config.applyAll (ids.map .enable)).rules.entries =
      .error (.configuration (.unknownRule id)) := by
    rw [hsplit, validate_rules_append hfront, validateRules, validateRule,
      find_rule_none_iff.2 hleast.1.2]
  obtain ⟨regex, hregex⟩ := hvalid.nativePattern
  have hversion := hvalid.version
  rw [apply_all_enable_frame] at hrules ⊢
  simp [validate, hversion, hregex, hrules]

end

end Config

/-! ## Building an analyzer -/

namespace Analyzer

open NamingLint.PathFilter (IsPattern)

variable {config : Config} {ids : List String}

theorem result_of_invalid {failure : Failure} (h : config.validate = .error failure) :
    (ofConfig config).result = .error failure := by
  simp [ofConfig, h]

/-- An analyzer for an acceptable configuration in which rules are enabled is missing exactly if the
catalog lacks some of them, and because of the least of these. -/
theorem result_after_enable (hvalid : config.Valid)
    (hpatterns : ∀ text ∈ config.paths.patterns, IsPattern text) {failure : Failure} :
    (ofConfig (config.applyAll (ids.map .enable))).result = .error failure ↔
      ∃ id, IsLeast (Config.unknownAmong ids) id ∧
        failure = .configuration (.unknownRule id) := by
  constructor
  · intro h
    by_cases hunknown : ∃ id ∈ ids, id ∉ Rule.catalog.map Rule.id
    · obtain ⟨id, hleast⟩ := Config.exists_least_unknown hunknown
      rw [result_of_invalid (Config.validate_after_enable hvalid hleast)] at h
      exact ⟨id, hleast, (Except.error.inj h).symm⟩
    · have hknown : ∀ id ∈ ids, id ∈ Rule.catalog.map Rule.id := by
        simpa only [not_exists, not_and, not_not] using hunknown
      have hreadable : ∀ text ∈ (config.applyAll (ids.map .enable)).paths.patterns,
          IsPattern text := by
        rw [Config.apply_all_enable_frame]
        exact hpatterns
      obtain ⟨_, _, _, hresult⟩ :=
        result_of_readable (Config.valid_after_enable hvalid hknown) hreadable
      rw [hresult] at h
      cases h
  · rintro ⟨id, hleast, rfl⟩
    exact result_of_invalid (Config.validate_after_enable hvalid hleast)

end Analyzer

/-! ## The check of files -/

namespace CommandLine

open NamingLint.Config (Step unknownAmong)
open NamingLint.PathFilter (IsPattern)

variable {config : Config}

/-- A configuration that is loaded has been checked. -/
theorem valid_of_loaded {tree : FileTree} {file : Option Path}
    (h : (loadConfiguration tree file).result = .ok config) : config.Valid := by
  have hchecked {config other : Config} (h : config.checked = .ok other) : other.Valid := by
    unfold Config.checked at h
    split at h
    · rename_i hcheck
      rw [← Except.ok.inj h]
      exact Config.validate_ok_iff.1 hcheck
    · cases h
  have hfile {file : Path} (h : Config.loadFile tree file = .ok config) : config.Valid := by
    unfold Config.loadFile Config.loadOr at h
    repeat' split at h
    · exact hchecked h
    · cases h
    · cases h
  unfold loadConfiguration Config.discover at h
  split at h
  · exact hfile h
  · split at h
    · rw [Journal.result_bind] at h
      exact hfile h
    · rw [← Except.ok.inj h]
      exact Config.default_valid

namespace CheckOptions

variable {options : CheckOptions}

theorem enable_rules_eq :
    options.enableRules config = config.applyAll (options.enabledRules.map .enable) := by
  rw [Config.applyAll, List.foldl_map]
  rfl

/-- The rules that a check is asked to enable count as a set. The configuration that it analyses
with differs from the loaded one in that these rules are enabled, with default settings if they had
none, and is the one that steps to enable them lead to. If an analyzer can be built from the loaded
configuration, it can be built exactly if the catalog knows all these rules. -/
theorem enabled_rules_as_set (options : CheckOptions) (config : Config) :
    options.enableRules config =
      { config with rules := (options.enableRules config).rules } ∧
    (∀ id, (options.enableRules config).rules.find? id =
      if id ∈ options.enabledRules then
        some { (config.rules.find? id).getD {} with enabled := true }
      else config.rules.find? id) ∧
    (∀ other : CheckOptions, (∀ id, id ∈ other.enabledRules ↔ id ∈ options.enabledRules) →
      other.enableRules config = options.enableRules config) ∧
    options.enableRules config = config.applyAll (options.enabledRules.map Step.enable) ∧
    (config.Valid → (∀ text ∈ config.paths.patterns, IsPattern text) →
      ((∃ failure, (Analyzer.ofConfig (options.enableRules config)).result = .error failure) ↔
        ∃ id ∈ options.enabledRules, id ∉ Rule.catalog.map Rule.id) ∧
      ∀ failure, (Analyzer.ofConfig (options.enableRules config)).result = .error failure →
        ∃ id, IsLeast (unknownAmong options.enabledRules) id ∧
          failure = .configuration (.unknownRule id)) ∧
    ∀ environment file, (loadConfiguration environment.tree file).result = .ok config →
      config.Valid ∧
      (∀ cause, options.Ends environment file (.error (.construction cause)) ↔
        (Analyzer.ofConfig (options.enableRules config)).result = .error cause) ∧
      ∀ analyzer files, options.Reaches environment.tree file analyzer files →
        analyzer.config = options.enableRules config := by
  refine ⟨?_, fun id => ?_, fun other hsame => ?_, enable_rules_eq, fun hvalid hpatterns => ?_,
    fun environment file hload => ⟨valid_of_loaded hload, fun cause => ?_, ?_⟩⟩
  · rw [enable_rules_eq]
    exact Config.apply_all_enable_frame
  · rw [enable_rules_eq]
    exact Config.apply_all_enable_settings
  · rw [enable_rules_eq, enable_rules_eq]
    exact Config.apply_all_enable_congr hsame
  · rw [enable_rules_eq]
    simp only [Analyzer.result_after_enable hvalid hpatterns]
    refine ⟨⟨?_, fun hunknown => ?_⟩, fun failure h => h⟩
    · rintro ⟨_, id, hleast, _⟩
      exact ⟨id, hleast.1⟩
    · obtain ⟨id, hleast⟩ := Config.exists_least_unknown hunknown
      exact ⟨_, id, hleast, rfl⟩
  · constructor
    · rintro (_ | ⟨hloaded, hbuild⟩)
      obtain rfl := Except.ok.inj (hload.symm.trans hloaded)
      exact hbuild
    · exact .unbuilt hload
  · rintro analyzer files ⟨_, hloaded, hbuild, _⟩
    obtain rfl := Except.ok.inj (hload.symm.trans hloaded)
    obtain ⟨_, _, _, _, rfl⟩ := Analyzer.of_config_accepts hbuild
    rfl

/-- A check that is asked to enable rules, some of them twice and two that there are not. -/
def muddledOptions : CheckOptions where
  enabledRules := ["zeal", Rule.lowerCase.id, "nil", Rule.lowerCase.id, "zeal"]

/-- The same rules, each named once. -/
def orderlyOptions : CheckOptions where
  enabledRules := ["nil", Rule.lowerCase.id, "zeal"]

theorem muddled_rules_enabled :
    (loadConfiguration Analyzer.twinTree none).result = .ok Config.default ∧
    (∀ text ∈ Config.default.paths.patterns, IsPattern text) ∧
    orderlyOptions.enableRules Config.default = muddledOptions.enableRules Config.default ∧
    (muddledOptions.enableRules Config.default).rules.find? Rule.lowerCase.id =
      some { enabled := true, declarationKinds := some [.localFunction] } ∧
    muddledOptions.Ends (aroundTwins default) none
      (.error (.construction (.configuration (.unknownRule "nil")))) := by
  have hload : (loadConfiguration Analyzer.twinTree none).result = .ok Config.default := by
    rw [loadConfiguration, Config.discover, discover_in_twins]
    rfl
  have hpatterns : ∀ text ∈ Config.default.paths.patterns, IsPattern text := by
    simp only [Config.default, Config.defaultPaths, List.forall_mem_cons]
    exact ⟨⟨_, by cbv⟩, ⟨_, by cbv⟩, ⟨_, by cbv⟩, List.forall_mem_nil _⟩
  have horderly : ∀ id ∈ orderlyOptions.enabledRules, id ∈ muddledOptions.enabledRules := by decide
  have hmuddled : ∀ id ∈ muddledOptions.enabledRules, id ∈ orderlyOptions.enabledRules := by decide
  obtain ⟨_, hsettings, hset, _, hbuilt, hloaded⟩ :=
    enabled_rules_as_set muddledOptions Config.default
  obtain ⟨hfails, hfailure⟩ := hbuilt Config.default_valid hpatterns
  obtain ⟨_, hends, _⟩ := hloaded (aroundTwins default) none hload
  obtain ⟨failure, hresult⟩ := hfails.2 ⟨"nil", by decide, by decide⟩
  obtain ⟨id, hleast, rfl⟩ := hfailure failure hresult
  have hnil : "nil" ∈ unknownAmong muddledOptions.enabledRules := ⟨by decide, by decide⟩
  have hid : id = "nil" := by
    obtain ⟨⟨hmem, hlacking⟩, hbelow⟩ := hleast
    simp only [muddledOptions, List.mem_cons, List.not_mem_nil, or_false] at hmem
    rcases hmem with rfl | rfl | rfl | rfl | rfl
    · exact absurd (hbelow hnil) (by decide)
    · exact absurd (List.mem_map_of_mem List.mem_cons_self) hlacking
    · rfl
    · exact absurd (List.mem_map_of_mem List.mem_cons_self) hlacking
    · exact absurd (hbelow hnil) (by decide)
  refine ⟨hload, hpatterns, hset orderlyOptions fun id => ⟨horderly id, hmuddled id⟩,
    hsettings _, ?_⟩
  rw [← hid]
  exact (hends _).2 hresult

end CheckOptions

end CommandLine

end NamingLint
