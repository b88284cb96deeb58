import NamingLint.Config.Basic
import NamingLint.Diagnostic
import NamingLint.Failure
import NamingLint.Unicode.LetterCase

/-!
# Rules by kind of declaration

A `RuleTable` keeps the rules that are registered for kinds of declarations in one slot for each
kind. Checking a declaration runs the rules registered for its kind, in the order in which they were
registered.
-/

namespace NamingLint.Naming

/-- A rule together with the settings it runs with. -/
structure ActiveRule where
  rule : Rule
  severity : Severity
  exemptions : Exemptions := {}

/-- A rule at its default severity and without exemptions. -/
def ActiveRule.ofRule (rule : Rule) : ActiveRule :=
  { rule, severity := rule.defaultSeverity }

/-- A rule with the settings that a configuration has for it. -/
def ActiveRule.ofSettings (rule : Rule) (settings : Config.RuleSettings) : ActiveRule where
  rule
  severity := settings.severity.getD rule.defaultSeverity
  exemptions := settings.exemptions

/-- A name with its first character lowered, if that character is upper case. -/
def lowerCaseRename (name : String) : Option String :=
  match name.toList with
  | [] => none
  | first :: rest =>
    if Unicode.isUppercase first then some (String.ofList (Unicode.lowercase first ++ rest))
    else none

/-- The finding of a rule about a declaration, if it breaks the rule. -/
def ActiveRule.diagnose (active : ActiveRule) (now : Instant) (declaration : Declaration)
    (file : Path) : Option Diagnostic :=
  (active.rule.violation? declaration active.exemptions).map fun violation =>
    { ruleId := active.rule.id
      severity := active.severity
      file
      location := some violation.location
      message := active.rule.renderMessage violation.text
      name := some violation.text
      context := some declaration.signature
      suggestion := (lowerCaseRename violation.text).map fun renamed =>
        "rename to `" ++ renamed ++ "`"
      detectedAt := now }

/-! ## Slots -/

/-- Rules by kind of declaration: each kind that was met has a slot with its rules. -/
abbrev Slots := List (DeclarationKind × List ActiveRule)

namespace Slots

variable {slots : Slots} {kind : DeclarationKind} {active : ActiveRule}

/-- The kinds that have a slot. -/
def kinds (slots : Slots) : List DeclarationKind :=
  slots.map Prod.fst

/-- Put a rule behind the others of its kind, which gets a slot of its own if it has none. -/
def add (kind : DeclarationKind) (active : ActiveRule) : Slots → Slots
  | [] => [(kind, [active])]
  | (other, rules) :: rest =>
    if other = kind then (other, rules ++ [active]) :: rest
    else (other, rules) :: add kind active rest

theorem kinds_add : kinds (add kind active slots) =
    if kind ∈ kinds slots then kinds slots else kinds slots ++ [kind] := by
  induction slots with
  | nil => rfl
  | cons slot rest ih =>
      obtain ⟨other, rules⟩ := slot
      show kinds (if other = kind then _ else _) = _
      by_cases hsame : other = kind
      · subst hsame
        simp [kinds]
      · rw [if_neg hsame]
        show other :: kinds (add kind active rest) = _
        rw [ih]
        by_cases hrest : kind ∈ kinds rest <;> simp_all [kinds, eq_comm]

/-- No kind gets a second slot. -/
theorem nodup_add (h : (kinds slots).Nodup) : (kinds (add kind active slots)).Nodup := by
  rw [kinds_add]
  split
  · exact h
  · rename_i hnew
    refine List.nodup_append.2 ⟨h, List.pairwise_singleton _ _, fun other hother last hlast => ?_⟩
    rintro rfl
    exact hnew (List.mem_singleton.1 hlast ▸ hother)

end Slots

/-! ## Tables -/

/-- Slots for rules, at most one for a kind. -/
structure RuleTable where
  slots : Slots := []
  distinct : slots.kinds.Nodup := by exact List.nodup_nil

instance : Inhabited RuleTable := ⟨{}⟩

namespace RuleTable

/-- No slots. -/
def empty : RuleTable := {}

/-- Register a rule for a kind, behind the rules registered so far. -/
def register (table : RuleTable) (kind : DeclarationKind) (active : ActiveRule) : RuleTable :=
  ⟨table.slots.add kind active, Slots.nodup_add table.distinct⟩

/-- The rules in the slot of a kind, in the order of their registration. -/
def rulesFor (table : RuleTable) (kind : DeclarationKind) : List ActiveRule :=
  (table.slots.lookup kind).getD []

/-- Whether a kind has a slot with rules in it. -/
def handles (table : RuleTable) (kind : DeclarationKind) : Bool :=
  (table.slots.lookup kind).any fun rules => !rules.isEmpty

/-- The kinds whose slots have rules in them, in their fixed order. -/
def registeredKinds (table : RuleTable) : List DeclarationKind :=
  let filled := table.slots.filter fun slot => !slot.2.isEmpty
  (filled.map Prod.fst).mergeSort fun left right =>
    DeclarationKind.all.idxOf left ≤ DeclarationKind.all.idxOf right

/-- Whether no slot has a rule in it. -/
def isEmpty (table : RuleTable) : Bool :=
  table.slots.all fun slot => slot.2.isEmpty

/-- The findings about a declaration, in the order in which the rules were registered. -/
def check (table : RuleTable) (now : Instant) (declaration : Declaration) (file : Path) :
    List Diagnostic :=
  (table.rulesFor declaration.kind).filterMap fun active => active.diagnose now declaration file

/-- Register a rule for the kinds that its settings ask for. -/
def registerConfigured (table : RuleTable) (rule : Rule) (settings : Config.RuleSettings) :
    RuleTable :=
  (settings.kindsOr rule.defaultKinds).foldl
    (fun table kind => table.register kind (.ofSettings rule settings)) table

/-- Register the rule of an identifier with its settings. It fails if the catalog lacks the rule. -/
def registerEntry (table : RuleTable) (entry : String × Config.RuleSettings) :
    Except Failure RuleTable :=
  match Rule.find? entry.1 with
  | some rule => .ok (table.registerConfigured rule entry.2)
  | none => .error (.configuration (.unregisteredRule entry.1))

/-- The kinds that an entry of a configuration registers its rule for, with the rule as it runs. -/
def registrationsFor (entry : String × Config.RuleSettings) : List (DeclarationKind × ActiveRule) :=
  match Rule.find? entry.1 with
  | some rule =>
      (entry.2.kindsOr rule.defaultKinds).map fun kind => (kind, .ofSettings rule entry.2)
  | none => []

/-- The table of the enabled rules of a configuration. -/
def ofConfig (config : Config) : Except Failure RuleTable :=
  config.rules.enabled.foldlM registerEntry empty

end RuleTable

end NamingLint.Naming
