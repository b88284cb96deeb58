import NamingLint.Naming.Declaration
import NamingLint.Severity

/-!
# Settings of rules, by identifier

A `RuleMap` holds the settings of rules in ascending order of their identifiers, each identifier
once; the order is part of the type. `find?_alter` says what changing one entry does to the others.
-/

namespace NamingLint.Config

open NamingLint.Naming (DeclarationKind Exemptions)

/-- The settings of one rule. -/
structure RuleSettings where
  enabled : Bool := false
  /-- Honoured only by rules whose severity is configurable. -/
  severity : Option Severity := none
  allowUnderscoreDigit : Bool := false
  /-- The kinds of declarations that the rule is wired to; the rule's own choice if absent. -/
  declarationKinds : Option (List DeclarationKind) := none
  deriving DecidableEq, Repr, Inhabited

namespace RuleSettings

/-- The exemptions that the settings ask for. -/
def exemptions (settings : RuleSettings) : Exemptions :=
  ⟨settings.allowUnderscoreDigit⟩

/-- The configured kinds, or else the given ones, each once and in their fixed order. -/
def kindsOr (settings : RuleSettings) (defaults : List DeclarationKind) : List DeclarationKind :=
  DeclarationKind.normalize (settings.declarationKinds.getD defaults)

end RuleSettings

/-- Change the entry of an identifier in a list that ascends by identifier, adding it if the list
lacks it. -/
def alterEntries (id : String) (change : Option RuleSettings → RuleSettings) :
    List (String × RuleSettings) → List (String × RuleSettings)
  | [] => [(id, change none)]
  | (other, settings) :: rest =>
    if id < other then (id, change none) :: (other, settings) :: rest
    else if id = other then (id, change (some settings)) :: rest
    else (other, settings) :: alterEntries id change rest

/-- An entry of a changed list is the changed one or was in the list before. -/
theorem mem_alterEntries {id : String} {change : Option RuleSettings → RuleSettings}
    {entries : List (String × RuleSettings)} {entry : String × RuleSettings}
    (h : entry ∈ alterEntries id change entries) : entry.1 = id ∨ entry ∈ entries := by
  induction entries with
  | nil => simp [alterEntries] at h; simp [h]
  | cons head rest ih =>
    obtain ⟨other, settings⟩ := head
    unfold alterEntries at h
    split at h
    · rcases List.mem_cons.1 h with h | h
      · exact .inl (by rw [h])
      · exact .inr h
    · split at h
      · rcases List.mem_cons.1 h with h | h
        · exact .inl (by rw [h])
        · exact .inr (List.mem_cons_of_mem _ h)
      · rcases List.mem_cons.1 h with h | h
        · exact .inr (by rw [h]; exact List.mem_cons_self)
        · exact (ih h).imp (fun heq => heq) (List.mem_cons_of_mem _)

/-- Changing an entry keeps the order. -/
theorem pairwise_alterEntries {id : String} {change : Option RuleSettings → RuleSettings}
    {entries : List (String × RuleSettings)}
    (h : entries.Pairwise fun left right => left.1 < right.1) :
    (alterEntries id change entries).Pairwise fun left right => left.1 < right.1 := by
  induction entries with
  | nil => simp [alterEntries]
  | cons head rest ih =>
    obtain ⟨other, settings⟩ := head
    obtain ⟨hhead, hrest⟩ := List.pairwise_cons.1 h
    unfold alterEntries
    split
    · rename_i hlt
      refine List.pairwise_cons.2 ⟨fun entry hentry => ?_, h⟩
      rcases List.mem_cons.1 hentry with hentry | hentry
      · rw [hentry]; exact hlt
      · exact String.lt_trans hlt (hhead entry hentry)
    · split
      · rename_i heq
        exact List.pairwise_cons.2 ⟨fun entry hentry => heq ▸ hhead entry hentry, hrest⟩
      · rename_i hlt hne
        refine List.pairwise_cons.2 ⟨fun entry hentry => ?_, ih hrest⟩
        rcases mem_alterEntries hentry with hid | hmem
        · rw [hid]
          exact Std.lt_of_le_of_ne (Std.not_lt.1 hlt) (fun heq => hne heq.symm)
        · exact hhead entry hmem

/-- Settings of rules in ascending order of their identifiers, each identifier once. -/
structure RuleMap where
  entries : List (String × RuleSettings)
  ascending : entries.Pairwise (fun left right => left.1 < right.1)
  deriving DecidableEq

namespace RuleMap

/-- No settings at all. -/
def empty : RuleMap := ⟨[], .nil⟩

instance : Inhabited RuleMap := ⟨empty⟩

/-- The settings of an identifier. -/
def find? (rules : RuleMap) (id : String) : Option RuleSettings :=
  rules.entries.lookup id

/-- Change the settings of an identifier, which are absent if it has none so far. -/
def alter (rules : RuleMap) (id : String) (change : Option RuleSettings → RuleSettings) : RuleMap :=
  ⟨alterEntries id change rules.entries, pairwise_alterEntries rules.ascending⟩

/-- Set the settings of an identifier. -/
def insert (rules : RuleMap) (id : String) (settings : RuleSettings) : RuleMap :=
  rules.alter id fun _ => settings

/-- Enable a rule, which has otherwise default settings if it has none so far. -/
def enable (rules : RuleMap) (id : String) : RuleMap :=
  rules.alter id fun settings => { settings.getD {} with enabled := true }

/-- The map of a list of entries; a later entry replaces an earlier one of the same identifier. -/
def ofList (entries : List (String × RuleSettings)) : RuleMap :=
  entries.foldl (fun rules entry => rules.insert entry.1 entry.2) empty

/-- The enabled rules with their settings, in ascending order of identifiers. -/
def enabled (rules : RuleMap) : List (String × RuleSettings) :=
  rules.entries.filter fun entry => entry.2.enabled

/-- What is found under an identifier is its entry. -/
theorem find?_eq_some_iff {rules : RuleMap} {id : String} {settings : RuleSettings} :
    rules.find? id = some settings ↔ (id, settings) ∈ rules.entries := by
  constructor
  · intro h
    obtain ⟨front, back, hentries, _⟩ := List.lookup_eq_some_iff.1 h
    rw [hentries]
    exact List.mem_append_right _ List.mem_cons_self
  · intro h
    obtain ⟨front, back, hentries⟩ := List.append_of_mem h
    refine List.lookup_eq_some_iff.2 ⟨front, back, hentries, fun earlier hearlier => ?_⟩
    have hascending := rules.ascending
    rw [hentries] at hascending
    have hlt : earlier.1 < id :=
      (List.pairwise_append.1 hascending).2.2 earlier hearlier _ List.mem_cons_self
    exact bne_iff_ne.2 fun heq => String.lt_irrefl _ (heq ▸ hlt)

/-- Changing one entry changes what is found under its identifier and nothing else. -/
theorem find?_alter (rules : RuleMap) (id other : String)
    (change : Option RuleSettings → RuleSettings) :
    (rules.alter id change).find? other =
      if other = id then some (change (rules.find? id)) else rules.find? other := by
  obtain ⟨entries, ascending⟩ := rules
  simp only [find?, alter]
  induction entries with
  | nil => by_cases h : other = id <;> simp [alterEntries, h]
  | cons head rest ih =>
    obtain ⟨first, settings⟩ := head
    obtain ⟨hhead, hrest⟩ := List.pairwise_cons.1 ascending
    have ih := ih hrest
    unfold alterEntries
    split
    · rename_i hlt
      have hne : id ≠ first := fun heq => String.lt_irrefl _ (heq ▸ hlt)
      have hnone : rest.lookup id = none := by
        rw [List.lookup_eq_none_iff]
        intro entry hentry
        have hlt' : id < entry.1 := String.lt_trans hlt (hhead entry hentry)
        exact bne_iff_ne.2 fun heq => String.lt_irrefl entry.1 (by rw [← heq] at hlt' ⊢; exact hlt')
      by_cases h : other = id
      · simp [List.lookup_cons, h, hnone, beq_eq_false_iff_ne.2 hne]
      · simp [List.lookup_cons, h, beq_eq_false_iff_ne.2 h]
    · split
      · rename_i heq
        subst heq
        by_cases h : other = id
        · simp [h]
        · simp [List.lookup_cons, h, beq_eq_false_iff_ne.2 h]
      · rename_i hne
        by_cases hf : other = first
        · have h : other ≠ id := fun heq => hne (heq.symm.trans hf)
          rw [if_neg h]
          simp [hf]
        · by_cases h : other = id
          · simp [h] at ih
            simp [h, List.lookup_cons, beq_eq_false_iff_ne.2 hne, ih]
          · simp [List.lookup_cons, beq_eq_false_iff_ne.2 hf, h] at ih ⊢
            exact ih

end RuleMap

end NamingLint.Config
