import NamingLint.Proofs.Analysis.Construction
import NamingLint.Proofs.Naming.Verdict

/-!
# The findings of an analyzer

`analyze_source_findings` says what an analyzer gives for a source text: how many declarations it
looks at, and which of them it reports. It rests on `result_analyze_source`, which speaks of the
configuration alone and not of the table that the analyzer keeps.
-/

namespace NamingLint

open NamingLint.Naming (ActiveRule Declaration DeclarationKind Rule RuleTable evaluate
  lowerCaseRename)

/-! ## One declaration -/

/-- The finding about a declaration whose name breaks the lower-case rule. -/
def finding (now : Instant) (file : Path) (declaration : Declaration) : Diagnostic where
  ruleId := "element_must_begin_with_lower_case"
  severity := .error
  file
  location := some declaration.identifier.location
  message := "Element '" ++ declaration.identifier.text ++ "' must begin with a lower-case letter"
  name := some declaration.identifier.text
  context := some declaration.signature
  suggestion := (lowerCaseRename declaration.identifier.text).map fun renamed =>
    "rename to `" ++ renamed ++ "`"
  detectedAt := now

namespace Config

/-- The lower-case rule looks at a declaration. -/
def checks (config : Config) (declaration : Declaration) : Bool :=
  declaration.kind ∈ config.checkedKinds

/-- The lower-case rule looks at a declaration and finds a violation. -/
def reports (config : Config) (declaration : Declaration) : Bool :=
  config.checks declaration &&
    (evaluate declaration.identifier declaration.context config.ruleSettings.exemptions).isSome

/-- What a configuration finds among the declarations of a file. -/
def findings (config : Config) (now : Instant) (file : Path) (declarations : List Declaration) :
    FileAnalysis :=
  ⟨(declarations.filter config.reports).map (finding now file), declarations.countP config.checks⟩

end Config

variable {config : Config} {now : Instant} {file : Path}

theorem Naming.render_lower_case (name : String) :
    Rule.lowerCase.renderMessage name =
      "Element '" ++ name ++ "' must begin with a lower-case letter" := by
  simp [Rule.renderMessage, Rule.lowerCase, String.join]

/-- What the lower-case rule says about a declaration under acceptable settings. -/
theorem Naming.diagnose_lower_case (hvalid : config.Valid) (declaration : Declaration) :
    (ActiveRule.ofSettings Rule.lowerCase config.ruleSettings).diagnose now declaration file =
      if (evaluate declaration.identifier declaration.context
        config.ruleSettings.exemptions).isSome then some (finding now file declaration)
      else none := by
  have hviolation : Rule.lowerCase.violation? declaration config.ruleSettings.exemptions =
      evaluate declaration.identifier declaration.context config.ruleSettings.exemptions := rfl
  simp only [ActiveRule.diagnose, ActiveRule.ofSettings, hvalid.severity_eq, hviolation,
    render_lower_case]
  cases h : evaluate declaration.identifier declaration.context config.ruleSettings.exemptions with
  | none => rfl
  | some violation =>
      obtain rfl := Naming.evaluate_some h
      rfl

namespace Naming.RuleTable

/-- The table of an acceptable configuration has rules for the kinds that the configuration has
checked. -/
theorem handles_of_valid (declaration : Declaration) :
    (ofValid config).handles declaration.kind = config.checks declaration := by
  rw [Bool.eq_iff_iff, handles_iff, rules_for_valid]
  simp [Config.checks]

/-- The findings of the table of an acceptable configuration about a declaration. -/
theorem check_of_valid (hvalid : config.Valid) (declaration : Declaration) :
    (ofValid config).check now declaration file =
      if config.reports declaration then [finding now file declaration] else [] := by
  simp only [check, rules_for_valid, Config.reports, Config.checks]
  by_cases hkind : declaration.kind ∈ config.checkedKinds
  · rw [if_pos hkind, List.filterMap_cons, List.filterMap_nil, diagnose_lower_case hvalid]
    by_cases hbreaks : (evaluate declaration.identifier declaration.context
        config.ruleSettings.exemptions).isSome
    · simp [hkind, hbreaks]
    · simp [hbreaks]
  · simp [hkind]

/-- The table of an acceptable configuration finds what the configuration does. -/
theorem analyze_of_valid (hvalid : config.Valid) (declarations : List Declaration) :
    (ofValid config).analyze now file declarations = config.findings now file declarations := by
  simp only [analyze, Config.findings, handles_of_valid, List.countP_eq_length_filter]
  congr 1
  induction declarations with
  | nil => rfl
  | cons declaration rest ih =>
      cases hchecks : config.checks declaration with
      | false =>
          have hreports : config.reports declaration = false := by simp [Config.reports, hchecks]
          simpa [hchecks, hreports] using ih
      | true =>
          rw [List.filter_cons_of_pos hchecks, List.flatMap_cons, ih, check_of_valid hvalid]
          cases hreports : config.reports declaration <;> simp [hreports]

end Naming.RuleTable

/-! ## A source text -/

namespace Analyzer

/-- What a configuration finds in a source text: nothing in a generated file and in a text that is
no source file. -/
def findingsIn (config : Config) (nativeName : String → Bool) (now : Instant) (file : Path)
    (content : String) : FileAnalysis :=
  if Source.isGenerated content then {}
  else
    match Source.outline? content with
    | some outlines => config.findings now file (Source.declarations nativeName outlines)
    | none => {}

/-- A configuration without kinds to look at finds nothing. -/
theorem findings_of_no_kinds (h : config.checkedKinds = []) (declarations : List Declaration) :
    config.findings now file declarations = {} := by
  have hchecks : config.checks = fun _ => false := by
    funext declaration
    simp [Config.checks, h]
  have hreports : config.reports = fun _ => false := by
    funext declaration
    simp [Config.reports, hchecks]
  simp [Config.findings, hchecks, hreports]

/-- The analyzer of an acceptable configuration finds in a source file what the configuration
does. -/
theorem result_analyze_source {filter : PathFilter} {regex : Regex} {content : String}
    (hvalid : config.Valid) (hfile : PathFilter.isSourceFile file = true) :
    ((ofValid config filter regex).analyzeSource now file content).result =
      .ok (findingsIn config regex.isMatch now file content) := by
  by_cases hkinds : config.checkedKinds = []
  · have hempty := RuleTable.is_empty_of_valid.2 hkinds
    simp only [analyzeSource, ofValid, hempty, Bool.or_true, if_true, findingsIn,
      findings_of_no_kinds hkinds]
    split
    · rfl
    · split <;> rfl
  · have hempty := Bool.eq_false_iff.2 (mt RuleTable.is_empty_of_valid.1 hkinds)
    simp only [analyzeSource, ofValid, hempty, hfile, Bool.not_true, Bool.or_false,
      Bool.false_eq_true, if_false, findingsIn]
    cases Source.isGenerated content with
    | true => rfl
    | false =>
        cases Source.outline? content with
        | none => rfl
        | some outlines => exact congrArg Except.ok (RuleTable.analyze_of_valid hvalid _)

/-- What an analyzer gives for a source file. Unless the configuration has no kinds to look at, or
the file is generated or cannot be parsed, it counts the declarations of these kinds, and it reports
exactly those of them that break the lower-case rule, each once and in their order. -/
theorem analyze_source_findings {config : Config} {analyzer : Analyzer}
    (hanalyzer : (ofConfig config).result = .ok analyzer) {file : Path}
    (hfile : PathFilter.isSourceFile file = true) (now : Instant) (content : String) :
    ∃ regex analysis, Regex.parse config.nativePattern = .ok regex ∧
      (analyzer.analyzeSource now file content).result = .ok analysis ∧
      (config.checkedKinds = [] ∨ Source.isGenerated content = true ∨
          Source.outline? content = none →
        analysis.diagnostics = [] ∧ analysis.declarationsChecked = 0) ∧
      ∀ outlines, config.checkedKinds ≠ [] → Source.isGenerated content = false →
        Source.outline? content = some outlines →
        analysis.declarationsChecked =
          (Source.declarations regex.isMatch outlines).countP
            (fun declaration => declaration.kind ∈ config.checkedKinds) ∧
        analysis.diagnostics =
          ((Source.declarations regex.isMatch outlines).filter fun declaration =>
            declaration.kind ∈ config.checkedKinds ∧
              (evaluate declaration.identifier declaration.context
                config.ruleSettings.exemptions).isSome).map (finding now file) := by
  obtain ⟨hvalid, filter, regex, hregex, rfl⟩ := of_config_accepts hanalyzer
  refine ⟨regex, _, hregex, result_analyze_source hvalid hfile, ?_, ?_⟩
  · rintro (hkinds | hgenerated | hunparsed)
    · simp only [findingsIn, findings_of_no_kinds hkinds]
      split
      · exact ⟨rfl, rfl⟩
      · split <;> exact ⟨rfl, rfl⟩
    · simp [findingsIn, hgenerated]
    · simp [findingsIn, hunparsed]
  · intro outlines _ hgenerated hparsed
    have hfound : findingsIn config regex.isMatch now file content =
        config.findings now file (Source.declarations regex.isMatch outlines) := by
      simp [findingsIn, hgenerated, hparsed]
    rw [hfound]
    refine ⟨rfl, ?_⟩
    show (List.filter config.reports _).map _ = _
    congr 2
    funext declaration
    simp [Config.reports, Config.checks]

/-! ## A function inside a function -/

/-- A file with a function inside a function. -/
def nestedFunctions : String := "fn f() \x7b fn A() \x7b\x7d \x7d"

/-- The declarations of `nestedFunctions`. -/
def nestedDeclarations : List Declaration :=
  [⟨.function, ⟨"f", ⟨1, 4⟩, true⟩, ⟨.ordinary, false⟩, "fn f ()"⟩,
    ⟨.localFunction, ⟨"A", ⟨1, 13⟩, true⟩, ⟨.ordinary, false⟩, "fn A ()"⟩]

/-- The function of a file and the function inside it, if the file holds just these. -/
def nestedHeads? : List Source.Outline → Option (Source.FunctionHead × Source.FunctionHead)
  | [.function outer [.block [.function inner [.block []]]]] => some (outer, inner)
  | _ => none

/-- Nothing in `nestedFunctions` has a name that could make it a native container. -/
theorem nested_functions_parsed : ∃ outlines, Source.outline? nestedFunctions = some outlines ∧
    ∀ nativeName, Source.declarations nativeName outlines = nestedDeclarations := by
  have hheads : (Source.outline? nestedFunctions).bind nestedHeads? =
      some (⟨⟨"f", ⟨1, 4⟩, true⟩, "fn f ()"⟩, ⟨⟨"A", ⟨1, 13⟩, true⟩, "fn A ()"⟩) := by
    decide +kernel
  obtain ⟨outlines, hparsed, hshape⟩ := Option.bind_eq_some_iff.1 hheads
  refine ⟨outlines, hparsed, fun nativeName => ?_⟩
  unfold nestedHeads? at hshape
  split at hshape
  · obtain ⟨rfl, rfl⟩ := Prod.mk.inj (Option.some.inj hshape)
    rfl
  · cases hshape

theorem nested_functions_written : Source.isGenerated nestedFunctions = false := by rfl

/-- A configuration that enables the lower-case rule and leaves out no path. -/
def lowerCaseOnly (kinds : Option (List DeclarationKind)) : Config :=
  let settings : Config.RuleSettings := { enabled := true, declarationKinds := kinds }
  { Config.default with
    paths := { patterns := [], ignoreFile := none }
    rules := .ofList [(Rule.lowerCase.id, settings)] }

theorem lower_case_only_valid (kinds : Option (List DeclarationKind)) :
    (lowerCaseOnly kinds).Valid := by
  have hdefault : Config.default.Valid := Config.validate_ok_iff.1 (by rfl)
  refine ⟨hdefault.version, hdefault.nativePattern, ?_⟩
  intro entry hentry
  obtain rfl := List.mem_singleton.1 hentry
  exact ⟨Rule.lowerCase, Config.find_rule_some_iff.2 ⟨rfl, rfl⟩, nofun⟩

/-- A local function is reported once although its kind is named twice. -/
theorem analyze_source_repeated_kind : ∃ analyzer analysis,
    (ofConfig (lowerCaseOnly (some [.localFunction, .function, .localFunction]))).result =
      .ok analyzer ∧
    PathFilter.isSourceFile ⟨"src/lib.rs"⟩ = true ∧
    (analyzer.analyzeSource default ⟨"src/lib.rs"⟩ nestedFunctions).result = .ok analysis ∧
    analysis.declarationsChecked = 2 ∧
    analysis.diagnostics.map (fun diagnostic => diagnostic.name) = [some "A"] := by
  obtain ⟨filter, regex, _, hanalyzer⟩ := result_of_readable
    (lower_case_only_valid (some [.localFunction, .function, .localFunction])) nofun
  have hfile : PathFilter.isSourceFile ⟨"src/lib.rs"⟩ = true := by rfl
  obtain ⟨outlines, hparsed, hdeclared⟩ := nested_functions_parsed
  obtain ⟨_, analysis, _, hresult, _, hfound⟩ :=
    analyze_source_findings hanalyzer hfile default nestedFunctions
  obtain ⟨hchecked, hdiagnostics⟩ :=
    hfound outlines (by decide) nested_functions_written hparsed
  rw [hdeclared] at hchecked hdiagnostics
  refine ⟨_, analysis, hanalyzer, hfile, hresult, ?_, ?_⟩
  · rw [hchecked]
    rfl
  · rw [hdiagnostics]
    decide +kernel

end Analyzer

end NamingLint
