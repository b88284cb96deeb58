import Mathlib.Data.List.Forall2
import NamingLint.Naming.RuleTable
import NamingLint.Proofs.Naming.Verdict

/-!
# What a rule table shows

A rule table is looked at in five ways. `rules_for_register` says what one registration adds to the
rules for a kind, and everything else that a table shows depends on these rules alone. So after any
registrations in any order all five say the same about what was registered (`observers_agree`).
-/

namespace NamingLint.Naming

theorem DeclarationKind.mem_all (kind : DeclarationKind) : kind ∈ all := by
  cases kind <;> decide

/-! ## Slots -/

namespace Slots

variable {slots : Slots} {kind other : DeclarationKind} {active : ActiveRule}
  {rules : List ActiveRule}

theorem lookup_cons : List.lookup kind ((other, rules) :: slots) =
    if kind = other then some rules else slots.lookup kind := by
  rw [List.lookup_cons]
  by_cases h : kind = other
  · rw [if_pos h, beq_iff_eq.2 h]
  · rw [if_neg h, beq_eq_false_iff_ne.2 h]

theorem lookup_add : (add kind active slots).lookup other =
    if other = kind then some ((slots.lookup kind).getD [] ++ [active]) else slots.lookup other := by
  induction slots with
  | nil => exact lookup_cons
  | cons slot rest ih =>
      obtain ⟨first, rules⟩ := slot
      unfold add
      by_cases hfirst : first = kind
      · subst hfirst
        rw [if_pos rfl]
        simp only [lookup_cons, if_true, Option.getD_some]
        split <;> rfl
      · rw [if_neg hfirst]
        simp only [lookup_cons, ih, if_neg (Ne.symm hfirst)]
        by_cases h : other = first
        · rw [if_pos h, if_neg (h ▸ hfirst), if_pos h]
        · rw [if_neg h, if_neg h]

/-- If no two slots are of the same kind, each of them is the one that is found for its kind. -/
theorem lookup_eq_some_iff (h : (kinds slots).Nodup) :
    slots.lookup kind = some rules ↔ (kind, rules) ∈ slots := by
  induction slots with
  | nil => simp
  | cons slot rest ih =>
      obtain ⟨first, others⟩ := slot
      obtain ⟨hnew, hrest⟩ := List.nodup_cons.1 h
      rw [lookup_cons, List.mem_cons, Prod.mk.injEq]
      by_cases hkind : kind = first
      · subst hkind
        have hother : (kind, rules) ∉ rest := fun hmem => hnew (List.mem_map.2 ⟨_, hmem, rfl⟩)
        simp [hother, eq_comm]
      · simp [hkind, ih hrest]

end Slots

/-! ## The findings of rules -/

namespace ActiveRule

/-- A declaration violates a rule with its exemptions. -/
def reports (active : ActiveRule) (declaration : Declaration) : Bool :=
  (active.rule.violation? declaration active.exemptions).isSome

/-- A diagnostic tells of the violation of a rule by a declaration. -/
structure Tells (now : Instant) (declaration : Declaration) (file : Path) (active : ActiveRule)
    (diagnostic : Diagnostic) : Prop where
  ruleId : diagnostic.ruleId = active.rule.id
  severity : diagnostic.severity = active.severity
  file : diagnostic.file = file
  signature : diagnostic.context = some declaration.signature
  time : diagnostic.detectedAt = now
  violation : ∃ violation, active.rule.violation? declaration active.exemptions = some violation ∧
    diagnostic.location = some violation.location ∧ diagnostic.name = some violation.text ∧
    diagnostic.message = active.rule.renderMessage violation.text

variable {active : ActiveRule} {rules : List ActiveRule} {now : Instant}
  {declaration : Declaration} {file : Path}

/-- The rules that a declaration violates give one diagnostic each, in their order. -/
theorem tell_in_order :
    List.Forall₂ (Tells now declaration file) (rules.filter fun active => active.reports declaration)
      (rules.filterMap fun active => active.diagnose now declaration file) := by
  induction rules with
  | nil => exact .nil
  | cons active rules ih =>
      cases h : active.rule.violation? declaration active.exemptions with
      | none =>
          rw [List.filter_cons_of_neg (by simp [reports, h]),
            List.filterMap_cons_none (by simp [diagnose, h])]
          exact ih
      | some violation =>
          rw [List.filter_cons_of_pos (by simp [reports, h]),
            List.filterMap_cons_some (by rw [diagnose, h]; rfl)]
          exact .cons ⟨rfl, rfl, rfl, rfl, rfl, violation, h, rfl, rfl, rfl⟩ ih

/-- A declaration violates a rule of the catalog if its name is reported. -/
theorem reports_iff (h : active.rule ∈ Rule.catalog) : active.reports declaration = true ↔
    Reported declaration.identifier declaration.context active.exemptions := by
  rw [reports, List.mem_singleton.1 h]
  exact is_some_evaluate_iff

end ActiveRule

/-! ## Tables -/

namespace RuleTable

variable {table : RuleTable} {kind other : DeclarationKind} {active : ActiveRule}

/-! ## One registration -/

theorem rules_for_empty : empty.rulesFor kind = [] := rfl

/-- A registration puts its rule behind the others of its kind, and leaves the other kinds alone. -/
theorem rules_for_register : (table.register kind active).rulesFor other =
    table.rulesFor other ++ if kind = other then [active] else [] := by
  show ((table.slots.add kind active).lookup other).getD [] = (table.slots.lookup other).getD [] ++ _
  rw [Slots.lookup_add]
  by_cases h : kind = other
  · subst h
    simp
  · rw [if_neg h, if_neg (Ne.symm h), List.append_nil]

/-! ## The other observers -/

theorem handles_iff : table.handles kind = true ↔ table.rulesFor kind ≠ [] := by
  unfold handles rulesFor
  cases table.slots.lookup kind <;> simp

/-- A kind has rules if a slot with rules in it is a slot of this kind. -/
theorem rules_for_ne_nil_iff :
    table.rulesFor kind ≠ [] ↔ ∃ rules, (kind, rules) ∈ table.slots ∧ rules ≠ [] := by
  simp only [← Slots.lookup_eq_some_iff table.distinct, rulesFor]
  cases table.slots.lookup kind <;> simp

theorem mem_registered_kinds : kind ∈ table.registeredKinds ↔ table.rulesFor kind ≠ [] := by
  rw [rules_for_ne_nil_iff]
  simp [registeredKinds]

/-- The kinds that have rules are listed in their fixed order, each of them once. -/
theorem registered_kinds_ascending : table.registeredKinds.Pairwise fun left right =>
    DeclarationKind.all.idxOf left < DeclarationKind.all.idxOf right := by
  have hsorted : table.registeredKinds.Pairwise fun left right =>
      DeclarationKind.all.idxOf left ≤ DeclarationKind.all.idxOf right := by
    refine (List.pairwise_mergeSort ?_ ?_ _).imp fun h => of_decide_eq_true h
    · intro first second third hfirst hsecond
      exact decide_eq_true (Nat.le_trans (of_decide_eq_true hfirst) (of_decide_eq_true hsecond))
    · intro first second
      simpa using Nat.le_total _ _
  have hdistinct : table.registeredKinds.Nodup := by
    refine (List.mergeSort_perm _ _).nodup_iff.2 (List.Nodup.sublist ?_ table.distinct)
    exact List.filter_sublist.map Prod.fst
  refine (hsorted.and hdistinct).imp fun {left right} h => ?_
  obtain ⟨hle, hne⟩ := h
  refine Nat.lt_of_le_of_ne hle fun hsame => hne ?_
  exact (List.idxOf_inj (DeclarationKind.mem_all left)).1 hsame

theorem is_empty_iff : table.isEmpty = true ↔ table.registeredKinds = [] := by
  simp only [List.eq_nil_iff_forall_not_mem, mem_registered_kinds, rules_for_ne_nil_iff]
  simp [isEmpty]

/-! ## Any registrations -/

/-- Register rules for kinds, one after the other. -/
def registerAll (table : RuleTable) (calls : List (DeclarationKind × ActiveRule)) : RuleTable :=
  calls.foldl (fun table call => table.register call.1 call.2) table

/-- The rules among registrations that are for a kind, in their order. -/
def rulesOf (kind : DeclarationKind) (calls : List (DeclarationKind × ActiveRule)) :
    List ActiveRule :=
  (calls.filter fun call => call.1 = kind).map Prod.snd

variable {calls : List (DeclarationKind × ActiveRule)}

theorem rules_for_register_all :
    (table.registerAll calls).rulesFor kind = table.rulesFor kind ++ rulesOf kind calls := by
  induction calls generalizing table with
  | nil => exact (List.append_nil _).symm
  | cons call calls ih =>
      show ((table.register call.1 call.2).registerAll calls).rulesFor kind = _
      have hrules : rulesOf kind (call :: calls) =
          (if call.1 = kind then [call.2] else []) ++ rulesOf kind calls := by
        unfold rulesOf
        by_cases h : call.1 = kind <;> simp [h]
      rw [ih, rules_for_register, hrules, List.append_assoc]

theorem register_all_append {others : List (DeclarationKind × ActiveRule)} :
    table.registerAll (calls ++ others) = (table.registerAll calls).registerAll others :=
  List.foldl_append

/-- Registrations for other kinds have no influence on the rules for a kind. -/
theorem rules_of_filter : rulesOf kind (calls.filter fun call => call.1 = kind) =
    rulesOf kind calls := by
  unfold rulesOf
  rw [List.filter_filter]
  simp

/-- After any registrations, the rules for a kind are those registered for it, in the order of their
registration. A kind is handled if it has rules, and is then one of the registered kinds, which come
in strictly ascending order; the table is empty if there are none of them. The rules for the kind of
a declaration that it violates give one diagnostic each, in their order, and rules for other kinds
have no part in this. -/
theorem observers_agree (calls : List (DeclarationKind × ActiveRule)) :
    (∀ kind, (empty.registerAll calls).rulesFor kind = rulesOf kind calls ∧
      ((empty.registerAll calls).handles kind = true ↔ rulesOf kind calls ≠ []) ∧
      (kind ∈ (empty.registerAll calls).registeredKinds ↔ rulesOf kind calls ≠ [])) ∧
    (empty.registerAll calls).registeredKinds.Pairwise (fun left right =>
      DeclarationKind.all.idxOf left < DeclarationKind.all.idxOf right) ∧
    ((empty.registerAll calls).isEmpty = true ↔
      (empty.registerAll calls).registeredKinds = []) ∧
    ∀ now declaration file,
      List.Forall₂ (ActiveRule.Tells now declaration file)
        ((rulesOf declaration.kind calls).filter fun active => active.reports declaration)
        ((empty.registerAll calls).check now declaration file) ∧
      (∀ active ∈ rulesOf declaration.kind calls, active.rule ∈ Rule.catalog →
        (active.reports declaration = true ↔
          Reported declaration.identifier declaration.context active.exemptions)) ∧
      (empty.registerAll calls).check now declaration file =
        (empty.registerAll (calls.filter fun call => call.1 = declaration.kind)).check
          now declaration file := by
  have hrules (kind : DeclarationKind) (calls : List (DeclarationKind × ActiveRule)) :
      (empty.registerAll calls).rulesFor kind = rulesOf kind calls := rules_for_register_all
  refine ⟨fun kind => ⟨hrules kind calls, ?_, ?_⟩, registered_kinds_ascending, is_empty_iff,
    fun now declaration file => ⟨?_, fun active _ => ActiveRule.reports_iff, ?_⟩⟩
  · rw [handles_iff, hrules]
  · rw [mem_registered_kinds, hrules]
  · rw [check, hrules]
    exact ActiveRule.tell_in_order
  · rw [check, check, hrules, hrules, rules_of_filter]

/-- The lower-case rule for two kinds, and once more for the second of them as a warning. -/
def rewired : List (DeclarationKind × ActiveRule) :=
  [(.inherentMethod, { rule := Rule.lowerCase, severity := .warning }),
    (.traitImplMethod, .ofRule Rule.lowerCase),
    (.inherentMethod, .ofRule Rule.lowerCase)]

/-- A method whose name begins with an upper-case letter. -/
def buildMethod : Declaration where
  kind := .inherentMethod
  identifier := ⟨"Build", ⟨1, 1⟩, true⟩
  context := {}
  signature := "fn Build ()"

theorem rewired_rules_agree :
    (empty.registerAll rewired).handles .inherentMethod = true ∧
    DeclarationKind.function ∉ (empty.registerAll rewired).registeredKinds ∧
    ∃ warned failed,
      (empty.registerAll rewired).check default buildMethod ⟨"a.rs"⟩ = [warned, failed] ∧
        warned.severity = .warning ∧ failed.severity = .error := by
  obtain ⟨hkinds, _, _, hcheck⟩ := observers_agree rewired
  obtain ⟨htold, hreports, _⟩ := hcheck default buildMethod ⟨"a.rs"⟩
  refine ⟨(hkinds .inherentMethod).2.1.2 nofun, fun h => (hkinds .function).2.2.1 h rfl, ?_⟩
  have hletter : Unicode.category 'B' = .uppercaseLetter := by decide +kernel
  have hreported : Reported buildMethod.identifier buildMethod.context {} := by
    refine ⟨rfl, by decide, ?_, nofun, rfl, rfl⟩
    show (Unicode.category 'B' == .lowercaseLetter) = false
    rw [hletter]
    rfl
  -- Both rules for the kind are the lower-case rule without exemptions.
  have hall : ∀ active ∈ rulesOf buildMethod.kind rewired,
      active.rule ∈ Rule.catalog ∧ active.exemptions = {} := by
    show ∀ active ∈ [({ rule := Rule.lowerCase, severity := .warning } : ActiveRule),
      .ofRule Rule.lowerCase], active.rule ∈ Rule.catalog ∧ active.exemptions = {}
    simp [Rule.catalog, ActiveRule.ofRule]
  have hviolated : ∀ active ∈ rulesOf buildMethod.kind rewired,
      active.reports buildMethod = true := by
    intro active hactive
    obtain ⟨hrule, hnone⟩ := hall active hactive
    rw [hreports active hactive hrule, hnone]
    exact hreported
  rw [List.filter_eq_self.2 hviolated] at htold
  obtain ⟨warned, rest, hwarned, hrest, hfound⟩ := List.forall₂_cons_left_iff.1 htold
  obtain ⟨failed, rest, hfailed, hnil, rfl⟩ := List.forall₂_cons_left_iff.1 hrest
  obtain rfl := List.forall₂_nil_left_iff.1 hnil
  exact ⟨warned, failed, hfound, hwarned.severity, hfailed.severity⟩

end RuleTable

end NamingLint.Naming
