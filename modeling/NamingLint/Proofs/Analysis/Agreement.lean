import NamingLint.Proofs.Analysis.Findings
import NamingLint.Proofs.Config.Encoding

/-!
# Configurations of the same encoding

A fingerprint depends on the encoding of a configuration alone. `agree_iff_of_same_encoding` says
when two analyzers whose configurations have the same encoding find the same in every file: exactly
if it makes no difference that a list of kinds that is absent is encoded like an empty one.
-/

namespace NamingLint.Analyzer

open NamingLint.Naming (Declaration DeclarationKind Rule)

/-! ## Agreement -/

/-- A finding without its time. -/
def untimed (diagnostic : Diagnostic) : Diagnostic :=
  { diagnostic with detectedAt := default }

/-- Two analyses look at the same number of declarations and find the same, apart from the times. -/
def SameFindings (left right : FileAnalysis) : Prop :=
  left.declarationsChecked = right.declarationsChecked ∧
    left.diagnostics.map untimed = right.diagnostics.map untimed

/-- Two analyzers give a result for every source text, and find the same in it. -/
def Agree (first second : Analyzer) : Prop :=
  ∀ now later file content, ∃ found again,
    (first.analyzeSource now file content).result = .ok found ∧
      (second.analyzeSource later file content).result = .ok again ∧ SameFindings found again

section

variable {left right : Config} {file : Path} {now later : Instant}

/-- Nothing is found in a file of another type. -/
theorem result_analyze_other {analyzer : Analyzer} {content : String}
    (hfile : PathFilter.isSourceFile file = false) :
    (analyzer.analyzeSource now file content).result = .ok {} := by
  simp [analyzeSource, hfile]

/-- What is found depends on the kinds to look at, the exemptions and the names of native containers
only. -/
theorem same_findings {nativeName : String → Bool} {content : String}
    (hkinds : left.checkedKinds = right.checkedKinds)
    (hexemptions : left.ruleSettings.exemptions = right.ruleSettings.exemptions) :
    SameFindings (findingsIn left nativeName now file content)
      (findingsIn right nativeName later file content) := by
  have hchecks : left.checks = right.checks := by
    funext declaration
    simp [Config.checks, hkinds]
  have hreports : left.reports = right.reports := by
    funext declaration
    simp [Config.reports, hchecks, hexemptions]
  have huntimed : untimed ∘ finding now file = untimed ∘ finding later file := rfl
  unfold findingsIn
  split
  · exact ⟨rfl, rfl⟩
  · split
    · simp [SameFindings, Config.findings, hchecks, hreports, huntimed]
    · exact ⟨rfl, rfl⟩

/-- Analyzers agree if their configurations do in what findings depend on. -/
theorem agree_of_same_settings {filter other : PathFilter} {regex : Regex}
    (hleft : left.Valid) (hright : right.Valid)
    (hkinds : left.checkedKinds = right.checkedKinds)
    (hexemptions : left.ruleSettings.exemptions = right.ruleSettings.exemptions) :
    Agree (ofValid left filter regex) (ofValid right other regex) := by
  intro now later file content
  cases hfile : PathFilter.isSourceFile file with
  | true =>
      exact ⟨_, _, result_analyze_source hleft hfile, result_analyze_source hright hfile,
        same_findings hkinds hexemptions⟩
  | false =>
      exact ⟨_, _, result_analyze_other hfile, result_analyze_other hfile, rfl, rfl⟩

/-- Analyzers that agree look at the same number of declarations in `nestedFunctions`. -/
theorem count_of_agree {filter other : PathFilter} {regex expression : Regex}
    (hleft : left.Valid) (hright : right.Valid)
    (hagree : Agree (ofValid left filter regex) (ofValid right other expression)) :
    nestedDeclarations.countP left.checks = nestedDeclarations.countP right.checks := by
  have hfile : PathFilter.isSourceFile ⟨"src/lib.rs"⟩ = true := by rfl
  obtain ⟨outlines, hparsed, hdeclared⟩ := nested_functions_parsed
  have hcount (config : Config) (nativeName : String → Bool) (file : Path) :
      (findingsIn config nativeName default file nestedFunctions).declarationsChecked =
        nestedDeclarations.countP config.checks := by
    simp [findingsIn, nested_functions_written, hparsed, hdeclared, Config.findings]
  obtain ⟨found, again, hfound, hagain, hsame, _⟩ :=
    hagree default default ⟨"src/lib.rs"⟩ nestedFunctions
  rw [result_analyze_source hleft hfile] at hfound
  rw [result_analyze_source hright hfile] at hagain
  obtain rfl := Except.ok.inj hfound
  obtain rfl := Except.ok.inj hagain
  rw [hcount, hcount] at hsame
  exact hsame

end

/-! ## The same encoding -/

/-- The kinds to look at by whether a configuration leaves them open. -/
theorem checked_kinds_eq {config : Config} (henabled : config.ruleSettings.enabled = true) :
    config.checkedKinds =
      if config.ruleSettings.declarationKinds = none then [.localFunction]
      else config.ruleSettings.declarationKinds.getD [] := by
  simp only [Config.checkedKinds, henabled, if_true]
  cases config.ruleSettings.declarationKinds <;> rfl

/-- A configuration that leaves the kinds open looks at one declaration in `nestedFunctions`, one
with an empty list of kinds at none. -/
theorem count_nested {config : Config} (henabled : config.ruleSettings.enabled = true)
    (hkinds : config.ruleSettings.declarationKinds.getD [] = []) :
    nestedDeclarations.countP config.checks =
      if config.ruleSettings.declarationKinds = none then 1 else 0 := by
  have hchecks : config.checks = fun declaration => decide (declaration.kind ∈
      if config.ruleSettings.declarationKinds = none then [.localFunction] else []) := by
    funext declaration
    rw [Config.checks, checked_kinds_eq henabled, hkinds]
  rw [hchecks]
  split <;> rfl

/-- Two analyzers whose configurations have the same encoding, without zero characters in their
patterns for native containers, find the same in every file exactly if the lower-case rule is
disabled or both configurations leave its kinds open or neither does. -/
theorem agree_iff_of_same_encoding {left right : Config} {first second : Analyzer}
    (hfirst : (ofConfig left).result = .ok first) (hsecond : (ofConfig right).result = .ok second)
    (hzero_left : '\x00' ∉ left.nativePattern.toList)
    (hzero_right : '\x00' ∉ right.nativePattern.toList) (hsame : left.encoding = right.encoding) :
    Agree first second ↔ (left.ruleSettings.enabled = true →
      (left.ruleSettings.declarationKinds = none ↔
        right.ruleSettings.declarationKinds = none)) := by
  obtain ⟨hleft, filter, regex, hregex, rfl⟩ := of_config_accepts hfirst
  obtain ⟨hright, other, expression, hexpression, rfl⟩ := of_config_accepts hsecond
  obtain ⟨hnative, halike⟩ :=
    Config.encoding_inj hleft hright hzero_left hzero_right hsame
  constructor
  · intro hagree henabled
    have hcount := count_of_agree hleft hright hagree
    by_cases hempty : left.ruleSettings.declarationKinds.getD [] = []
    · rw [count_nested henabled hempty,
        count_nested (halike.enabled ▸ henabled) (halike.kinds ▸ hempty)] at hcount
      by_cases hopen_left : left.ruleSettings.declarationKinds = none <;>
        by_cases hopen_right : right.ruleSettings.declarationKinds = none <;>
        simp [hopen_left, hopen_right] at hcount ⊢
    · -- Neither configuration leaves the kinds open.
      exact ⟨fun h => absurd (by rw [h]; rfl) hempty,
        fun h => absurd (by rw [halike.kinds, h]; rfl) hempty⟩
  · intro hopen
    obtain rfl : regex = expression :=
      Except.ok.inj (hregex.symm.trans (hnative ▸ hexpression))
    refine agree_of_same_settings hleft hright ?_ ?_
    · by_cases henabled : left.ruleSettings.enabled = true
      · rw [checked_kinds_eq henabled, checked_kinds_eq (halike.enabled ▸ henabled), halike.kinds]
        simp only [hopen henabled]
      · simp [Config.checkedKinds, henabled, ← halike.enabled]
    · exact congrArg Naming.Exemptions.mk halike.allowUnderscoreDigit

/-- A configuration that enables the lower-case rule, with some path patterns. -/
def withPatterns (patterns : List String) : Config :=
  { lowerCaseOnly none with paths := { patterns, ignoreFile := none } }

/-- Two path patterns and a single one of the same encoding make no difference to the findings. -/
theorem agree_of_joined_patterns : ∃ first second,
    (ofConfig (withPatterns ["a", "b"])).result = .ok first ∧
    (ofConfig (withPatterns ["a\x00path:b"])).result = .ok second ∧
    (withPatterns ["a", "b"]).encoding = (withPatterns ["a\x00path:b"]).encoding ∧
    Agree first second := by
  have hvalid (patterns : List String) : (withPatterns patterns).Valid :=
    have h := lower_case_only_valid none
    ⟨h.version, h.nativePattern, h.rules⟩
  have hleft : ∀ text ∈ ["a", "b"], PathFilter.IsPattern text := by
    simp only [List.forall_mem_cons]
    exact ⟨⟨_, by cbv⟩, ⟨_, by cbv⟩, nofun⟩
  have hright : ∀ text ∈ ["a\x00path:b"], PathFilter.IsPattern text := by
    simp only [List.forall_mem_cons]
    exact ⟨⟨_, by cbv⟩, nofun⟩
  obtain ⟨_, _, _, hfirst⟩ := result_of_readable (hvalid ["a", "b"]) hleft
  obtain ⟨_, _, _, hsecond⟩ := result_of_readable (hvalid ["a\x00path:b"]) hright
  have hsame : (withPatterns ["a", "b"]).encoding = (withPatterns ["a\x00path:b"]).encoding := by
    rfl
  exact ⟨_, _, hfirst, hsecond, hsame, (agree_iff_of_same_encoding hfirst hsecond
    (by decide) (by decide) hsame).2 fun _ => ⟨fun _ => rfl, fun _ => rfl⟩⟩

/-- Configurations of the same encoding may differ in what they find: one leaves the kinds of the
lower-case rule open, the other lists none. -/
theorem same_encoding_disagree : ∃ first second,
    (ofConfig (lowerCaseOnly none)).result = .ok first ∧
    (ofConfig (lowerCaseOnly (some []))).result = .ok second ∧
    (lowerCaseOnly none).encoding = (lowerCaseOnly (some [])).encoding ∧
    ¬ Agree first second := by
  have hleft := lower_case_only_valid none
  have hright := lower_case_only_valid (some [])
  obtain ⟨_, _, _, hfirst⟩ := result_of_readable hleft nofun
  obtain ⟨_, _, _, hsecond⟩ := result_of_readable hright nofun
  refine ⟨_, _, hfirst, hsecond, by rfl, fun hagree => ?_⟩
  have hcount := count_of_agree hleft hright hagree
  revert hcount
  decide

/-- A zero character in the pattern for native containers lets it imitate an enabled rule, so that
the condition on these characters cannot be left out. -/
theorem imitated_rule_disagree : ∃ left right first second,
    (ofConfig left).result = .ok first ∧ (ofConfig right).result = .ok second ∧
    left.encoding = right.encoding ∧
    left.ruleSettings.declarationKinds = none ∧ right.ruleSettings.declarationKinds = none ∧
    ¬ Agree first second := by
  let left := { lowerCaseOnly none with nativePattern := "x" }
  let right := { left with
    nativePattern := "x\x00rule:element_must_begin_with_lower_case\x01\x00", rules := .empty }
  have hleft : left.Valid := Config.validate_ok_iff.1 (by decide +kernel)
  have hright : right.Valid := Config.validate_ok_iff.1 (by decide +kernel)
  obtain ⟨_, _, _, hfirst⟩ := result_of_readable hleft nofun
  obtain ⟨_, _, _, hsecond⟩ := result_of_readable hright nofun
  refine ⟨left, right, _, _, hfirst, hsecond, by decide +kernel, rfl, rfl, fun hagree => ?_⟩
  have hcount := count_of_agree hleft hright hagree
  revert hcount
  decide

end NamingLint.Analyzer
