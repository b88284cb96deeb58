import NamingLint.Proofs.Naming.Registration

/-!
# The rules for each kind

A configuration need not be acceptable to have a table: all that matters is whether the catalog
knows the rules that it enables. `of_config_registers` says which rules the table then has for a
kind of declaration and in what order. The kinds of a rule count as a set only, so that neither
their order nor their repetitions make a difference to the table (`register_enabled_congr`).
-/

namespace NamingLint.Naming

open NamingLint.Config (RuleSettings)

/-! ## Settings with the same kinds -/

/-- Settings that differ at most in the order and in the repetitions of the kinds that they list. -/
structure SameKinds (left right : RuleSettings) : Prop where
  enabled : left.enabled = right.enabled
  severity : left.severity = right.severity
  allowUnderscoreDigit : left.allowUnderscoreDigit = right.allowUnderscoreDigit
  kinds : Option.Rel (fun first second => ∀ kind, kind ∈ first ↔ kind ∈ second)
    left.declarationKinds right.declarationKinds

/-- Lists of the same kinds are the same in the fixed order. -/
theorem DeclarationKind.normalize_congr {first second : List DeclarationKind}
    (h : ∀ kind, kind ∈ first ↔ kind ∈ second) : normalize first = normalize second := by
  unfold normalize
  refine List.filter_congr fun kind _ => ?_
  rw [Bool.eq_iff_iff, List.contains_iff_mem, List.contains_iff_mem]
  exact h kind

section

variable {left right : RuleSettings} {rule : Rule}

theorem SameKinds.kinds_or_eq (h : SameKinds left right) (defaults : List DeclarationKind) :
    left.kindsOr defaults = right.kindsOr defaults := by
  have hkinds := h.kinds
  unfold RuleSettings.kindsOr
  generalize left.declarationKinds = first, right.declarationKinds = second at hkinds
  cases hkinds with
  | none => rfl
  | some hsame => exact DeclarationKind.normalize_congr hsame

theorem SameKinds.active_eq (h : SameKinds left right) :
    ActiveRule.ofSettings rule left = ActiveRule.ofSettings rule right := by
  simp only [ActiveRule.ofSettings, RuleSettings.exemptions, h.severity, h.allowUnderscoreDigit]

end

namespace RuleTable

/-- The rule of an entry with the settings that it runs with, if it is enabled and looks at a
kind. -/
def activeFor? (kind : DeclarationKind) (entry : String × RuleSettings) : Option ActiveRule :=
  (Rule.find? entry.1).bind fun rule =>
    if entry.2.enabled = true ∧ kind ∈ entry.2.declarationKinds.getD rule.defaultKinds then
      some {
        rule
        severity := entry.2.severity.getD rule.defaultSeverity
        exemptions := ⟨entry.2.allowUnderscoreDigit⟩ }
    else none

section

variable {table : RuleTable} {config other : Config} {kind : DeclarationKind}
  {entry : String × RuleSettings} {entries : List (String × RuleSettings)}

/-! ## Failure -/

/-- The first entry of an unknown rule is what registering entries fails with. -/
theorem register_entries_error
    (h : entries.find? (fun entry => (Rule.find? entry.1).isNone) = some entry) :
    entries.foldlM registerEntry table =
      .error (.configuration (.unregisteredRule entry.1)) := by
  induction entries generalizing table with
  | nil => cases h
  | cons first rest ih =>
      rw [List.foldlM_cons, registerEntry]
      cases hrule : Rule.find? first.1 with
      | none =>
          rw [List.find?_cons_of_pos (by simp [hrule])] at h
          obtain rfl := Option.some.inj h
          rfl
      | some rule =>
          rw [List.find?_cons_of_neg (by simp [hrule])] at h
          exact ih h

/-- The table of a configuration: there is none if the catalog lacks an enabled rule. -/
theorem of_config_eq : ofConfig config =
    match config.rules.enabled.find? (fun entry => (Rule.find? entry.1).isNone) with
    | none => .ok (empty.registerAll (config.rules.enabled.flatMap registrationsFor))
    | some entry => .error (.configuration (.unregisteredRule entry.1)) := by
  cases h : config.rules.enabled.find? (fun entry => (Rule.find? entry.1).isNone) with
  | none =>
      refine of_config_ok fun entry hentry => ?_
      simpa [Option.isSome_iff_ne_none] using List.find?_eq_none.1 h entry hentry
  | some entry => exact register_entries_error h

/-- Only an enabled rule that the catalog lacks keeps a configuration from having a table. -/
theorem of_config_error_iff : (∃ failure, ofConfig config = .error failure) ↔
    ∃ entry ∈ config.rules.entries, entry.2.enabled = true ∧ Rule.find? entry.1 = none := by
  rw [of_config_eq]
  cases h : config.rules.enabled.find? (fun entry => (Rule.find? entry.1).isNone) with
  | none =>
      have hknown := List.find?_eq_none.1 h
      simp only [reduceCtorEq, exists_false, false_iff]
      rintro ⟨entry, hentry, henabled, hunknown⟩
      exact hknown entry (List.mem_filter.2 ⟨hentry, henabled⟩) (by simp [hunknown])
  | some entry =>
      obtain ⟨hentry, henabled⟩ := List.mem_filter.1 (List.mem_of_find?_eq_some h)
      have hunknown : Rule.find? entry.1 = none := by simpa using List.find?_some h
      exact ⟨fun _ => ⟨entry, hentry, henabled, hunknown⟩, fun _ => ⟨_, rfl⟩⟩

/-! ## The rules for a kind -/

/-- An enabled entry is registered once for each kind that its rule looks at. -/
theorem registrations_for_kind (henabled : entry.2.enabled = true) :
    rulesOf kind (registrationsFor entry) = (activeFor? kind entry).toList := by
  unfold rulesOf registrationsFor activeFor?
  cases Rule.find? entry.1 with
  | none => rfl
  | some rule =>
      simp only [List.filter_map, Function.comp_def, RuleSettings.kindsOr,
        DeclarationKind.filter_normalize, Option.bind_some, henabled, true_and]
      split <;> rfl

theorem active_for_disabled (h : entry.2.enabled = false) : activeFor? kind entry = none := by
  unfold activeFor?
  cases Rule.find? entry.1 <;> simp [h]

/-- The rules for a kind are those of the entries that are enabled and look at it, in the order of
the entries. -/
theorem rules_for_eq (h : ofConfig config = .ok table) :
    table.rulesFor kind = config.rules.entries.filterMap (activeFor? kind) := by
  have htable : table = empty.registerAll (config.rules.enabled.flatMap registrationsFor) := by
    rw [of_config_eq] at h
    split at h
    · exact (Except.ok.inj h).symm
    · cases h
  calc table.rulesFor kind
      = config.rules.enabled.flatMap fun entry => rulesOf kind (registrationsFor entry) := by
        rw [htable, rules_for_register_all, rules_for_empty, List.nil_append, rulesOf,
          List.filter_flatMap, List.map_flatMap]
        rfl
    _ = config.rules.enabled.filterMap (activeFor? kind) := by
        rw [List.filterMap_eq_flatMap_toList]
        exact List.flatMap_congr fun entry hentry =>
          registrations_for_kind (List.mem_filter.1 hentry).2
    _ = config.rules.entries.filterMap (activeFor? kind) := by
        rw [Config.RuleMap.enabled, List.filterMap_filter]
        refine List.filterMap_congr fun entry _ => ?_
        cases henabled : entry.2.enabled with
        | true => rfl
        | false => exact (active_for_disabled henabled).symm

/-- A rule that an entry activates has the identifier of the entry. -/
theorem id_of_active {active : ActiveRule} (h : activeFor? kind entry = some active) :
    active.rule.id = entry.1 := by
  obtain ⟨rule, hrule, hactive⟩ := Option.bind_eq_some_iff.1 h
  have hid : rule.id = entry.1 := by simpa [Rule.find?] using List.find?_some hrule
  split at hactive
  · obtain rfl := Option.some.inj hactive
    exact hid
  · cases hactive

/-- The rules for a kind come in ascending order of their identifiers, so that none is there
twice. -/
theorem rules_for_ascending (h : ofConfig config = .ok table) :
    (table.rulesFor kind).Pairwise fun left right => left.rule.id < right.rule.id := by
  rw [rules_for_eq h, List.pairwise_filterMap]
  refine config.rules.ascending.imp fun hlt first hfirst second hsecond => ?_
  rwa [id_of_active hfirst, id_of_active hsecond]

/-! ## Kinds in another order -/

theorem register_entry_congr {left right : RuleSettings} (id : String)
    (h : SameKinds left right) :
    table.registerEntry (id, left) = table.registerEntry (id, right) := by
  simp only [registerEntry, registerConfigured, h.kinds_or_eq, h.active_eq]

/-- Each of some entries has the identifier of the one at its place among others, and settings with
the same kinds. -/
def SameEntries (entries others : List (String × RuleSettings)) : Prop :=
  List.Forall₂ (fun left right => left.1 = right.1 ∧ SameKinds left.2 right.2) entries others

theorem register_enabled_congr {others : List (String × RuleSettings)}
    (h : SameEntries entries others) :
    (entries.filter fun entry => entry.2.enabled).foldlM registerEntry table =
      (others.filter fun entry => entry.2.enabled).foldlM registerEntry table := by
  induction h generalizing table with
  | nil => rfl
  | @cons left right _ _ hsame _ ih =>
      obtain ⟨id, settings⟩ := left
      obtain ⟨rfl, hsame⟩ : id = right.1 ∧ SameKinds settings right.2 := hsame
      rw [List.filter_cons, List.filter_cons, hsame.enabled]
      split
      · rw [List.foldlM_cons, List.foldlM_cons, register_entry_congr _ hsame]
        exact bind_congr fun _ => ih
      · exact ih

/-- A configuration has a table unless it enables a rule that the catalog lacks; what else is wrong
with it does not matter. For each kind of declaration the table has one rule for each entry that is
enabled and looks at this kind, with the severity and the exemptions of the entry, in ascending
order of identifiers; the kinds that have rules are listed once each, in their fixed order. The
table depends on the kinds of an entry as on a set. -/
theorem of_config_registers (config : Config) :
    ((∃ failure, ofConfig config = .error failure) ↔
      ∃ entry ∈ config.rules.entries,
        entry.2.enabled = true ∧ entry.1 ∉ Rule.catalog.map Rule.id) ∧
    (∀ table, ofConfig config = .ok table →
      (∀ kind, table.rulesFor kind = config.rules.entries.filterMap (activeFor? kind) ∧
        (table.rulesFor kind).Pairwise fun left right => left.rule.id < right.rule.id) ∧
      table.registeredKinds.Pairwise (fun left right =>
        DeclarationKind.all.idxOf left < DeclarationKind.all.idxOf right) ∧
      ∀ kind, kind ∈ table.registeredKinds ↔ table.rulesFor kind ≠ []) ∧
    ∀ other : Config, SameEntries config.rules.entries other.rules.entries →
      ofConfig config = ofConfig other := by
  have hunknown (id : String) : id ∉ Rule.catalog.map Rule.id ↔ Rule.find? id = none := by
    simp [Rule.find?]
  refine ⟨?_, fun table htable => ⟨fun kind => ?_, registered_kinds_ascending, fun kind => ?_⟩,
    fun other hsame => ?_⟩
  · simp only [hunknown]
    exact of_config_error_iff
  · exact ⟨rules_for_eq htable, rules_for_ascending htable⟩
  · exact mem_registered_kinds
  · exact register_enabled_congr hsame

/-- A configuration that is not acceptable: the catalog lacks its disabled rule, and the severity of
the other one cannot be configured. -/
def unacceptable (kinds : List DeclarationKind) : Config :=
  let settings : RuleSettings := {
    enabled := true
    severity := some .warning
    allowUnderscoreDigit := true
    declarationKinds := some kinds }
  { Config.default with
    rules := .ofList [("unknown", { declarationKinds := some [.traitMethod] }),
      (Rule.lowerCase.id, settings)] }

theorem of_config_unacceptable : ∃ table,
    ofConfig (unacceptable [.localFunction, .function, .localFunction]) = .ok table ∧
    ofConfig (unacceptable [.function, .localFunction]) = .ok table ∧
    table.rulesFor .localFunction = [⟨Rule.lowerCase, .warning, ⟨true⟩⟩] ∧
    table.rulesFor .traitMethod = [] ∧
    table.registeredKinds = [.function, .localFunction] := by
  obtain ⟨_, hregistered, hcongr⟩ :=
    of_config_registers (unacceptable [.localFunction, .function, .localFunction])
  obtain ⟨table, htable⟩ : ∃ table,
      ofConfig (unacceptable [.localFunction, .function, .localFunction]) = .ok table := ⟨_, rfl⟩
  obtain ⟨hrules, _, _⟩ := hregistered table htable
  refine ⟨table, htable, ?_, (hrules .localFunction).1, (hrules .traitMethod).1, ?_⟩
  · rw [← hcongr, htable]
    refine .cons ⟨rfl, rfl, rfl, rfl, .some fun kind => ?_⟩
      (.cons ⟨rfl, rfl, rfl, rfl, .some fun kind => .rfl⟩ .nil)
    cases kind <;> decide
  · obtain rfl := Except.ok.inj htable
    exact List.mergeSort_of_pairwise (by decide)

end

end RuleTable

end NamingLint.Naming
