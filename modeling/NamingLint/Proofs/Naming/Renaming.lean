import NamingLint.Naming.RuleTable
import NamingLint.Proofs.Naming.Verdict
import NamingLint.Proofs.Unicode.Lowering

/-!
# Suggested names

A finding may suggest the name with its first character lowered. `rename_repairs_iff` says for which
names the suggestion is accepted where the name itself was not: for those that begin with an
upper-case letter that has a lower-case form.
-/

namespace NamingLint.Naming

/-! ## The lowered name -/

/-- The wording of a suggested name. -/
def renameTo (name : String) : String :=
  "rename to `" ++ name ++ "`"

theorem rename_to_inj {name other : String} (h : renameTo name = renameTo other) :
    name = other := by
  have hchars := congrArg String.toList h
  simp only [renameTo, String.toList_append] at hchars
  exact String.toList_inj.1 (List.append_cancel_left (List.append_cancel_right hchars))

/-- The name begins with an upper-case letter that has a lower-case form. -/
def Lowerable (name : String) : Prop :=
  ∃ first rest, name.toList = first :: rest ∧
    Unicode.category first = .uppercaseLetter ∧ Unicode.lowercase first ≠ [first]

/-- A name is lowered if its first character is upper case. -/
theorem lower_case_rename_some {name renamed : String} (h : lowerCaseRename name = some renamed) :
    ∃ first rest, name.toList = first :: rest ∧ Unicode.isUppercase first = true ∧
      renamed.toList = Unicode.lowercase first ++ rest := by
  unfold lowerCaseRename at h
  split at h
  · cases h
  · rename_i first rest hname
    split at h
    · rename_i hupper
      obtain rfl := Option.some.inj h
      exact ⟨first, rest, hname, hupper, String.toList_ofList⟩
    · cases h

/-- The lowered name begins with a character, but with no underscore, and with a lower-case letter
exactly if an upper-case letter was lowered to it. -/
theorem lowered_name {name renamed : String} (h : lowerCaseRename name = some renamed) :
    renamed.toList ≠ [] ∧ startsWithUnderscoreDigit renamed.toList = false ∧
      (startsWithLowercase renamed.toList = true ↔ Lowerable name) := by
  obtain ⟨first, rest, hname, hupper, hrenamed⟩ := lower_case_rename_some h
  obtain ⟨lowered, more, heq, hunderscore, hlower⟩ := Unicode.lowercase_of_uppercase hupper
  rw [hrenamed, heq, List.cons_append]
  refine ⟨List.cons_ne_nil _ _, ?_, ?_⟩
  · unfold startsWithUnderscoreDigit
    split
    · rename_i hsame
      exact absurd (List.cons.inj hsame).1 hunderscore
    · rfl
  · rw [startsWithLowercase, hlower, Lowerable, hname]
    constructor
    · exact fun hletter => ⟨first, rest, rfl, hletter⟩
    · rintro ⟨_, _, hsame, hletter⟩
      obtain ⟨rfl, rfl⟩ := List.cons.inj hsame
      exact hletter

/-! ## Findings with a suggestion -/

section

variable {table : RuleTable} {active : ActiveRule} {declaration : Declaration} {now : Instant}
  {file : Path} {diagnostic : Diagnostic} {renamed : String}

/-- A finding names what breaks its rule, and suggests the lowered name. -/
theorem diagnose_suggestion (hfound : active.diagnose now declaration file = some diagnostic)
    (hsuggestion : diagnostic.suggestion = some (renameTo renamed)) :
    ∃ violation, active.rule.violation? declaration active.exemptions = some violation ∧
      diagnostic.name = some violation.text ∧ lowerCaseRename violation.text = some renamed := by
  obtain ⟨violation, hviolation, rfl⟩ := Option.map_eq_some_iff.1 hfound
  obtain ⟨suggested, hlowered, hsame⟩ := Option.map_eq_some_iff.1 hsuggestion
  exact ⟨violation, hviolation, rfl, by rw [hlowered, rename_to_inj hsame]⟩

/-- A rule of the catalog finds a violation only in a name that is reported. -/
theorem reported_of_catalog {violation : Violation} (hrule : active.rule ∈ Rule.catalog)
    (h : active.rule.violation? declaration active.exemptions = some violation) :
    Reported declaration.identifier declaration.context active.exemptions ∧
      violation = ⟨declaration.identifier.text, declaration.identifier.location⟩ := by
  rw [List.mem_singleton.1 hrule] at h
  exact evaluate_some_iff.1 h

/-- A suggested name is accepted in place of the name that a finding is about if that begins with
an upper-case letter that has a lower-case form. If the rule is one of the catalog, it is accepted
in no other case. -/
theorem rename_repairs_iff (hfound : diagnostic ∈ table.check now declaration file)
    (hsuggestion : diagnostic.suggestion = some (renameTo renamed)) :
    ∃ name, diagnostic.name = some name ∧ ∀ active ∈ table.rulesFor declaration.kind,
      active.diagnose now declaration file = some diagnostic → ∀ location,
        (Lowerable name → renamed ≠ name ∧
          evaluate ⟨renamed, location, true⟩ declaration.context active.exemptions = none) ∧
        (active.rule ∈ Rule.catalog →
          evaluate ⟨renamed, location, true⟩ declaration.context active.exemptions = none →
            Lowerable name) := by
  obtain ⟨finder, _, hfinder⟩ := List.mem_filterMap.1 hfound
  obtain ⟨found, _, hname, hlowered⟩ := diagnose_suggestion hfinder hsuggestion
  refine ⟨found.text, hname, fun active _ hactive location => ?_⟩
  obtain ⟨hnonempty, hdigit, hlower⟩ := lowered_name hlowered
  refine ⟨fun hlowerable => ⟨?_, ?_⟩, fun hrule hnone => ?_⟩
  · rintro rfl
    have hletter := hlower.2 hlowerable
    obtain ⟨first, rest, hchars, hupper, _⟩ := hlowerable
    rw [hchars, startsWithLowercase, Unicode.isLowercaseLetter, hupper] at hletter
    cases hletter
  · refine evaluate_none_iff.2 fun hreported => ?_
    have hletter := hreported.notLowercase
    rw [hlower.2 hlowerable] at hletter
    cases hletter
  · -- What exempts the suggested name would have exempted the name itself.
    obtain ⟨violation, hviolation, _⟩ := diagnose_suggestion hactive hsuggestion
    obtain ⟨hreported, _⟩ := reported_of_catalog hrule hviolation
    by_contra hnot
    refine evaluate_none_iff.1 hnone ⟨rfl, hnonempty, ?_, fun _ => hdigit, hreported.ordinary,
      hreported.unconstrained⟩
    exact Bool.eq_false_iff.2 fun hletter => hnot (hlower.1 hletter)

end

/-! ## Local functions -/

/-- The lower-case rule for local functions. -/
def localTable : RuleTable :=
  RuleTable.empty.register .localFunction (.ofRule Rule.lowerCase)

/-- A local function of this name. -/
def localFunction (name : String) : Declaration where
  kind := .localFunction
  identifier := ⟨name, ⟨1, 1⟩, true⟩
  context := {}
  signature := "fn " ++ name ++ " ()"

/-- The finding about a local function of this name. -/
def localFinding (name : String) : Diagnostic where
  ruleId := Rule.lowerCase.id
  severity := .error
  file := ⟨"lib.rs"⟩
  location := some ⟨1, 1⟩
  message := Rule.lowerCase.renderMessage name
  name := some name
  context := some ("fn " ++ name ++ " ()")
  suggestion := (lowerCaseRename name).map renameTo
  detectedAt := default

section

variable {name : String}

/-- Without exemptions, a name that begins with no lower-case letter is a violation. -/
theorem evaluate_local {first : Char} {rest : List Char}
    (hname : name.toList = first :: rest) (hfirst : Unicode.category first ≠ .lowercaseLetter) :
    evaluate ⟨name, ⟨1, 1⟩, true⟩ {} {} = some ⟨name, ⟨1, 1⟩⟩ := by
  have hlower : startsWithLowercase name.toList = false := by
    rw [hname]
    exact beq_eq_false_iff_ne.2 hfirst
  exact evaluate_some_iff.2 ⟨⟨rfl, by simp [hname], hlower, nofun, rfl, rfl⟩, rfl⟩

theorem diagnose_local
    (h : evaluate ⟨name, ⟨1, 1⟩, true⟩ {} {} = some ⟨name, ⟨1, 1⟩⟩) :
    (ActiveRule.ofRule Rule.lowerCase).diagnose default (localFunction name) ⟨"lib.rs"⟩ =
      some (localFinding name) :=
  Option.map_eq_some_iff.2 ⟨⟨name, ⟨1, 1⟩⟩, h, rfl⟩

theorem mem_check_local
    (h : evaluate ⟨name, ⟨1, 1⟩, true⟩ {} {} = some ⟨name, ⟨1, 1⟩⟩) :
    localFinding name ∈ localTable.check default (localFunction name) ⟨"lib.rs"⟩ :=
  List.mem_filterMap.2
    ⟨.ofRule Rule.lowerCase, List.mem_singleton_self _, diagnose_local h⟩

theorem local_suggestion {renamed : String} {first : Char} {rest lowered : List Char}
    (hname : name.toList = first :: rest) (hrenamed : renamed.toList = lowered ++ rest)
    (hupper : Unicode.isUppercase first = true) (hlowered : Unicode.lowercase first = lowered) :
    (localFinding name).suggestion = some (renameTo renamed) := by
  obtain rfl : renamed = String.ofList (lowered ++ rest) := by
    rw [← hrenamed, String.ofList_toList]
  simp only [localFinding, lowerCaseRename, hname, hupper, hlowered, if_true, Option.map_some]

end

theorem rename_repairs_helper :
    localFinding "Helper" ∈ localTable.check default (localFunction "Helper") ⟨"lib.rs"⟩ ∧
      (localFinding "Helper").suggestion = some (renameTo "helper") ∧ Lowerable "Helper" ∧
      ∀ location, evaluate ⟨"helper", location, true⟩ {} {} = none := by
  have hname : "Helper".toList = 'H' :: "elper".toList := by decide
  have hcategory : Unicode.category 'H' = .uppercaseLetter := by decide +kernel
  have hupper : Unicode.isUppercase 'H' = true := Unicode.is_uppercase_of_category hcategory
  have hlowered : Unicode.lowercase 'H' = ['h'] := by decide +kernel
  have hviolation : evaluate ⟨"Helper", ⟨1, 1⟩, true⟩ {} {} = some ⟨"Helper", ⟨1, 1⟩⟩ :=
    evaluate_local hname (by rw [hcategory]; decide)
  have hfound := mem_check_local hviolation
  have hsuggestion : (localFinding "Helper").suggestion = some (renameTo "helper") :=
    local_suggestion hname (by decide) hupper hlowered
  have hlowerable : Lowerable "Helper" :=
    ⟨'H', _, hname, hcategory, by rw [hlowered]; decide⟩
  obtain ⟨name, hsame, hrepairs⟩ := rename_repairs_iff hfound hsuggestion
  obtain rfl : "Helper" = name := Option.some.inj hsame
  refine ⟨hfound, hsuggestion, hlowerable, fun location => ?_⟩
  have hactive : ActiveRule.ofRule Rule.lowerCase ∈ localTable.rulesFor .localFunction :=
    List.mem_singleton_self _
  have hlocation := hrepairs _ hactive (diagnose_local hviolation) location
  exact (hlocation.1 hlowerable).2

/-- A mathematical letter is suggested in place of itself, and a small Roman numeral, which is no
letter, in place of a capital one. Both suggestions are violations. -/
theorem rename_keeps_violation :
    (localFinding "𝐀" ∈ localTable.check default (localFunction "𝐀") ⟨"lib.rs"⟩ ∧
      (localFinding "𝐀").suggestion = some (renameTo "𝐀") ∧
      evaluate ⟨"𝐀", ⟨1, 1⟩, true⟩ {} {} = some ⟨"𝐀", ⟨1, 1⟩⟩) ∧
    (localFinding "Ⅰ" ∈ localTable.check default (localFunction "Ⅰ") ⟨"lib.rs"⟩ ∧
      (localFinding "Ⅰ").suggestion = some (renameTo "ⅰ") ∧
      evaluate ⟨"ⅰ", ⟨1, 1⟩, true⟩ {} {} = some ⟨"ⅰ", ⟨1, 1⟩⟩) := by
  constructor
  · have hletter : Unicode.category '𝐀' = .uppercaseLetter := by
      have hsurvey : Unicode.survey (· == .uppercaseLetter) Unicode.categoryRuns.toList
          [0x1D400] = true := by decide +kernel
      have hsuits := Unicode.category_of_survey hsurvey (show '𝐀'.toNat ∈ [0x1D400] by decide)
      exact beq_iff_eq.1 hsuits
    have hkept : Unicode.lowercase '𝐀' = ['𝐀'] := by decide +kernel
    have hname : "𝐀".toList = ['𝐀'] := by decide
    have hviolation := evaluate_local hname (by rw [hletter]; decide)
    exact ⟨mem_check_local hviolation,
      local_suggestion hname hname (Unicode.is_uppercase_of_category hletter) hkept, hviolation⟩
  · have hrange : Unicode.inRanges Unicode.otherUppercase 'Ⅰ'.toNat = true := by decide
    have hlowered : Unicode.lowercase 'Ⅰ' = ['ⅰ'] := by decide +kernel
    obtain ⟨lowered, heq, hnumeral⟩ := Unicode.lowercase_of_other_uppercase hrange
    obtain rfl : 'ⅰ' = lowered := (List.cons.inj (hlowered.symm.trans heq)).1
    have hname : "Ⅰ".toList = ['Ⅰ'] := by decide
    have hrenamed : "ⅰ".toList = ['ⅰ'] := by decide
    have hcapital := Unicode.symbolic_of_other_uppercase hrange
    exact ⟨mem_check_local (evaluate_local hname (Unicode.category_ne_of_symbolic rfl hcapital)),
      local_suggestion hname hrenamed (Unicode.is_uppercase_of_range hrange) hlowered,
      evaluate_local hrenamed (Unicode.category_ne_of_symbolic rfl hnumeral)⟩

end NamingLint.Naming
