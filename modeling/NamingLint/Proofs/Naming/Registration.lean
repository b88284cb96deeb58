import Mathlib.Data.List.Nodup
import NamingLint.Proofs.Config.Validity
import NamingLint.Proofs.Naming.Observers

/-!
# The rule table of a configuration

`of_config_ok` says what is registered once the catalog knows all enabled rules. For a valid
configuration the table holds the lower-case rule once for each kind that it looks at, however its
kinds are listed (`rules_for_valid`).
-/

namespace NamingLint.Naming

open NamingLint.Config (RuleSettings)

/-! ## Kinds -/

namespace DeclarationKind

variable {kind : DeclarationKind} {kinds : List DeclarationKind}

/-- Listing kinds in their fixed order drops none and adds none. -/
@[simp] theorem mem_normalize : kind ∈ normalize kinds ↔ kind ∈ kinds := by
  simp [normalize, mem_all]

/-- Listing kinds in their fixed order leaves each of them once. -/
theorem nodup_normalize : (normalize kinds).Nodup :=
  List.Pairwise.filter _ (by decide)

/-- However often a kind is listed, it occurs once in the fixed order. -/
theorem filter_normalize :
    (normalize kinds).filter (· = kind) = if kind ∈ kinds then [kind] else [] := by
  rw [List.filter_eq]
  split
  · rename_i hmem
    rw [List.count_eq_one_of_mem nodup_normalize (mem_normalize.2 hmem)]
    rfl
  · rename_i hmem
    rw [List.count_eq_zero.2 (mt mem_normalize.1 hmem)]
    rfl

end DeclarationKind

/-! ## Registrations -/

namespace RuleTable

section

variable {table : RuleTable} {rule : Rule} {settings : RuleSettings}

/-- Registering a rule with its settings registers it for the kinds that the settings ask for. -/
theorem register_configured_eq : table.registerConfigured rule settings = table.registerAll
    ((settings.kindsOr rule.defaultKinds).map fun kind => (kind, .ofSettings rule settings)) := by
  rw [registerAll, List.foldl_map]
  rfl

/-- Entries of rules that the catalog knows are registered one after the other. -/
theorem register_entries_ok {entries : List (String × RuleSettings)}
    (hknown : ∀ entry ∈ entries, (Rule.find? entry.1).isSome) :
    entries.foldlM registerEntry table =
      .ok (table.registerAll (entries.flatMap registrationsFor)) := by
  induction entries generalizing table with
  | nil => rfl
  | cons entry rest ih =>
      obtain ⟨rule, hrule⟩ := Option.isSome_iff_exists.1 (hknown entry List.mem_cons_self)
      have hentry : table.registerEntry entry =
          .ok (table.registerAll (registrationsFor entry)) := by
        simp [registerEntry, registrationsFor, hrule, register_configured_eq]
      rw [List.foldlM_cons, hentry]
      show rest.foldlM registerEntry _ = _
      rw [ih fun entry hentry => hknown entry (List.mem_cons_of_mem _ hentry), List.flatMap_cons,
        register_all_append]

end

/-- The table of a configuration whose enabled rules are all in the catalog. -/
theorem of_config_ok {config : Config}
    (hknown : ∀ entry ∈ config.rules.enabled, (Rule.find? entry.1).isSome) :
    ofConfig config = .ok (empty.registerAll (config.rules.enabled.flatMap registrationsFor)) :=
  register_entries_ok hknown

/-! ## Valid configurations -/

section

variable {config : Config}

/-- The table of a valid configuration. -/
def ofValid (config : Config) : RuleTable :=
  empty.registerAll ((DeclarationKind.normalize config.checkedKinds).map fun kind =>
    (kind, .ofSettings Rule.lowerCase config.ruleSettings))

/-- A valid configuration has a table. -/
theorem of_config_valid (h : config.Valid) : ofConfig config = .ok (ofValid config) := by
  rw [of_config_ok]
  · rw [h.enabled_eq]
    have hfind : Rule.find? Rule.lowerCase.id = some Rule.lowerCase :=
      Config.find_rule_some_iff.2 ⟨rfl, rfl⟩
    by_cases henabled : config.ruleSettings.enabled
    · simp [ofValid, registrationsFor, hfind, Config.checkedKinds, henabled, RuleSettings.kindsOr]
    · simp [ofValid, Config.checkedKinds, henabled, DeclarationKind.normalize]
  · intro entry hentry
    obtain ⟨rule, hrule, _⟩ := h.rules entry (List.mem_filter.1 hentry).1
    simp [hrule]

/-- The table of a valid configuration has the lower-case rule for a kind that the rule looks at,
and nothing for any other kind. -/
theorem rules_for_valid {kind : DeclarationKind} :
    (ofValid config).rulesFor kind =
      if kind ∈ config.checkedKinds then [.ofSettings Rule.lowerCase config.ruleSettings]
      else [] := by
  rw [ofValid, rules_for_register_all, rules_for_empty, List.nil_append]
  simp only [rulesOf, List.filter_map, Function.comp_def, DeclarationKind.filter_normalize]
  split <;> rfl

/-- The table of a valid configuration is empty if the configuration has no kinds checked. -/
theorem is_empty_of_valid : (ofValid config).isEmpty = true ↔ config.checkedKinds = [] := by
  simp only [is_empty_iff, List.eq_nil_iff_forall_not_mem, mem_registered_kinds, rules_for_valid]
  simp

end

end RuleTable

end NamingLint.Naming
