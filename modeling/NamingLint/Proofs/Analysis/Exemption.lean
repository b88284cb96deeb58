import NamingLint.Proofs.Analysis.Findings
import NamingLint.Proofs.Source.Exemption

/-!
# Exempt functions are not reported

`exempt_never_reported` says which functions the findings of an analyzer are about: different ones,
and none of those that their place in the file exempts. What a configuration sets does not matter
for this, be it the kinds of declarations or the exemptions on top.
-/

namespace NamingLint

open NamingLint.Naming (Declaration)
open NamingLint.Source (Exempt Node Outline Place declareAt? functionAt?)

/-- The nodes of a source text; none if the text cannot be parsed. -/
def Source.nodesOf (content : String) : List Node :=
  ((outline? content).getD []).map .outline

/-- A diagnostic is about the function at a place: it repeats its name, its position and its
signature. -/
def Diagnostic.StemsFrom (diagnostic : Diagnostic) (forest : List Node) (place : Place) : Prop :=
  ∃ role head, functionAt? forest place = some (role, head) ∧
    diagnostic.name = some head.identifier.text ∧
    diagnostic.location = some head.identifier.location ∧
    diagnostic.context = some head.signature

section

variable {config : Config} {now : Instant} {file : Path} {nativeName : String → Bool}
  {outlines : List Outline} {place : Place}

/-! ## The places of findings -/

/-- Two lists that go together still do after one of them has been filtered, with some elements of
the other left out. -/
theorem forall₂_filter {α β : Type} {R : α → β → Prop} {left : List α} {right : List β}
    (h : List.Forall₂ R left right) (keeps : β → Bool) :
    ∃ kept, kept.Sublist left ∧
      List.Forall₂ (fun a b => R a b ∧ keeps b = true) kept (right.filter keeps) := by
  induction h with
  | nil => exact ⟨[], .slnil, .nil⟩
  | @cons a b left right hab _ ih =>
      obtain ⟨kept, hsublist, hkept⟩ := ih
      cases hkeeps : keeps b with
      | true =>
          rw [List.filter_cons_of_pos hkeeps]
          exact ⟨a :: kept, hsublist.cons_cons a, .cons ⟨hab, hkeeps⟩ hkept⟩
      | false =>
          rw [List.filter_cons_of_neg (by simp [hkeeps])]
          exact ⟨kept, hsublist.cons a, hkept⟩

/-- The declarations of a file go with the places of its functions. -/
theorem declarations_at_places (nativeName : String → Bool) (outlines : List Outline) :
    ∃ places : List Place, places.Pairwise (· < ·) ∧
      List.Forall₂ (fun place declaration =>
          declareAt? nativeName [] (outlines.map .outline) place = some declaration)
        places (Source.declarations nativeName outlines) := by
  obtain ⟨places, hplaces, hdeclared⟩ :=
    Source.declarations_in_places nativeName (outlines.map .outline)
  refine ⟨places, hplaces.ascending, ?_⟩
  rw [Source.declarations, Source.outline_declarations_of, hdeclared]
  have hall (place : Place) (hplace : place ∈ places) :
      (declareAt? nativeName [] (outlines.map .outline) place).isSome := by
    rw [declareAt?, Option.isSome_map]
    exact (hplaces.mem_iff place).1 hplace
  -- By induction on the places alone, each of which has a declaration.
  clear hplaces hdeclared
  induction places with
  | nil => exact .nil
  | cons place places ih =>
      obtain ⟨declaration, hdeclaration⟩ :=
        Option.isSome_iff_exists.1 (hall place List.mem_cons_self)
      rw [List.filterMap_cons_some hdeclaration]
      exact .cons hdeclaration (ih fun other hother => hall other (List.mem_cons_of_mem _ hother))

/-- A diagnostic reports the function at a place. -/
def ReportsAt (config : Config) (nativeName : String → Bool) (now : Instant) (file : Path)
    (outlines : List Outline) (place : Place) (diagnostic : Diagnostic) : Prop :=
  ∃ declaration, declareAt? nativeName [] (outlines.map .outline) place = some declaration ∧
    config.reports declaration = true ∧ diagnostic = finding now file declaration

/-- The findings in a file report functions at different places. -/
theorem findings_at_places (config : Config) (nativeName : String → Bool) (now : Instant)
    (file : Path) (outlines : List Outline) :
    ∃ places : List Place, places.Pairwise (· < ·) ∧
      List.Forall₂ (ReportsAt config nativeName now file outlines) places
        (config.findings now file (Source.declarations nativeName outlines)).diagnostics := by
  obtain ⟨places, hascending, hdeclared⟩ := declarations_at_places nativeName outlines
  obtain ⟨reported, hsublist, hreported⟩ := forall₂_filter hdeclared config.reports
  refine ⟨reported, hascending.sublist hsublist, ?_⟩
  rw [Config.findings, List.forall₂_map_right_iff]
  exact hreported.imp fun place declaration h => ⟨declaration, h.1, h.2, rfl⟩

namespace ReportsAt

variable {diagnostic : Diagnostic}

theorem stems_from (h : ReportsAt config nativeName now file outlines place diagnostic) :
    diagnostic.StemsFrom (outlines.map .outline) place := by
  obtain ⟨declaration, hdeclared, _, rfl⟩ := h
  obtain ⟨⟨role, head⟩, hfunction, rfl⟩ := Option.map_eq_some_iff.1 hdeclared
  exact ⟨role, head, hfunction, rfl, rfl, rfl⟩

theorem not_exempt (h : ReportsAt config nativeName now file outlines place diagnostic) :
    ¬ Exempt nativeName (outlines.map .outline) place := by
  obtain ⟨declaration, hdeclared, hreports, _⟩ := h
  intro hexempt
  simp [Config.reports, hexempt.evaluate_none hdeclared] at hreports

/-- Only functions of the kinds that a configuration lists are reported. -/
theorem kind_mem {kinds : List Naming.DeclarationKind}
    (h : ReportsAt config nativeName now file outlines place diagnostic)
    (hkinds : config.ruleSettings.declarationKinds = some kinds) :
    ∃ declaration, declareAt? nativeName [] (outlines.map .outline) place = some declaration ∧
      declaration.kind ∈ kinds := by
  obtain ⟨declaration, hdeclared, hreports, _⟩ := h
  refine ⟨declaration, hdeclared, ?_⟩
  have hchecked : declaration.kind ∈ config.checkedKinds := by
    simpa [Config.checks] using (Bool.and_eq_true_iff.1 hreports).1
  rw [Config.checkedKinds, hkinds] at hchecked
  split at hchecked
  · exact hchecked
  · cases hchecked

end ReportsAt

end

namespace Analyzer

/-- The findings in a source text of any type report functions at different places. -/
theorem source_findings_at_places {config : Config} {filter : PathFilter} {regex : Regex}
    (hvalid : config.Valid) (now : Instant) (file : Path) (content : String) :
    ∃ analysis, ((ofValid config filter regex).analyzeSource now file content).result =
        .ok analysis ∧
      ∃ places : List Place, places.Pairwise (· < ·) ∧
        List.Forall₂ (ReportsAt config regex.isMatch now file ((Source.outline? content).getD []))
          places analysis.diagnostics := by
  cases hfile : PathFilter.isSourceFile file with
  | false => exact ⟨{}, by simp [analyzeSource, hfile], [], .nil, .nil⟩
  | true =>
      refine ⟨_, result_analyze_source hvalid hfile, ?_⟩
      unfold findingsIn
      split
      · exact ⟨[], .nil, .nil⟩
      · cases Source.outline? content with
        | none => exact ⟨[], .nil, .nil⟩
        | some outlines => exact findings_at_places config regex.isMatch now file outlines

/-- The findings of an analyzer are about functions at different places of the source text, none of
which is exempt: no function of an implementation of a trait, none of an `extern` block and none
inside a native container at any depth. If a configuration lists only the kinds of the former two,
nothing is found at all. -/
theorem exempt_never_reported {config : Config} {analyzer : Analyzer}
    (hanalyzer : (ofConfig config).result = .ok analyzer) (now : Instant) (file : Path)
    (content : String) :
    ∃ regex analysis, Regex.parse config.nativePattern = .ok regex ∧
      (analyzer.analyzeSource now file content).result = .ok analysis ∧
      (∃ places : List Place, places.Pairwise (· < ·) ∧
        List.Forall₂ (fun place diagnostic =>
            diagnostic.StemsFrom (Source.nodesOf content) place ∧
              ¬ Exempt regex.isMatch (Source.nodesOf content) place)
          places analysis.diagnostics) ∧
      ∀ kinds, config.ruleSettings.declarationKinds = some kinds →
        (∀ kind ∈ kinds, kind = .traitImplMethod ∨ kind = .foreignFunction) →
          analysis.diagnostics = [] := by
  obtain ⟨hvalid, filter, regex, hregex, rfl⟩ := of_config_accepts hanalyzer
  obtain ⟨analysis, hresult, places, hascending, hreported⟩ :=
    @source_findings_at_places config filter regex hvalid now file content
  refine ⟨regex, analysis, hregex, hresult, ⟨places, hascending, ?_⟩, fun kinds hkinds honly => ?_⟩
  · exact hreported.imp fun place diagnostic h => ⟨h.stems_from, h.not_exempt⟩
  · obtain ⟨diagnostics, _⟩ := analysis
    -- A first finding would be about a function of an exempt kind.
    cases hreported with
    | nil => rfl
    | cons hfirst _ =>
        obtain ⟨declaration, hdeclared, hkind⟩ := hfirst.kind_mem hkinds
        exact absurd (Source.exempt_of_kind hdeclared (honly _ hkind)) hfirst.not_exempt

/-- How many declarations are looked at depends on their kinds alone. -/
theorem count_checked {config : Config} {declarations : List Declaration} :
    declarations.countP config.checks =
      (declarations.map Declaration.kind).countP (· ∈ config.checkedKinds) := by
  rw [List.countP_map]
  rfl

/-- A file with a function of a trait's implementation and one of an `extern` block. -/
def exemptFunctions : String := "impl T for S \x7b fn A() \x7b\x7d \x7d extern \x7b fn B(); \x7d"

/-- The two functions of a file, if it has the form of `exemptFunctions`. -/
def exemptHeads? : List Outline → Option (Source.FunctionHead × Source.FunctionHead)
  | [.implementation _ true [.other [], .function first [.block []]],
      .foreignBlock [.other [], .function second []]] => some (first, second)
  | _ => none

theorem exempt_functions_parsed : ∃ outlines, Source.outline? exemptFunctions = some outlines ∧
    ∀ nativeName, (Source.declarations nativeName outlines).map Declaration.kind =
      [.traitImplMethod, .foreignFunction] := by
  have hheads : ((Source.outline? exemptFunctions).bind exemptHeads?).isSome = true := by
    decide +kernel
  obtain ⟨heads, hheads⟩ := Option.isSome_iff_exists.1 hheads
  obtain ⟨outlines, hparsed, hshape⟩ := Option.bind_eq_some_iff.1 hheads
  refine ⟨outlines, hparsed, fun nativeName => ?_⟩
  unfold exemptHeads? at hshape
  split at hshape
  · rfl
  · cases hshape

/-- Two exempt functions are looked at if a configuration asks for their kinds, and not reported in
spite of their names. -/
theorem exempt_functions_unreported : ∃ analyzer analysis,
    (ofConfig (lowerCaseOnly (some [.traitImplMethod, .foreignFunction]))).result =
      .ok analyzer ∧
    (analyzer.analyzeSource default ⟨"src/lib.rs"⟩ exemptFunctions).result = .ok analysis ∧
    analysis.declarationsChecked = 2 ∧ analysis.diagnostics = [] := by
  have hvalid := lower_case_only_valid (some [.traitImplMethod, .foreignFunction])
  obtain ⟨filter, regex, _, hanalyzer⟩ := result_of_readable hvalid nofun
  obtain ⟨_, analysis, _, hresult, _, hnone⟩ :=
    exempt_never_reported hanalyzer default ⟨"src/lib.rs"⟩ exemptFunctions
  refine ⟨_, analysis, hanalyzer, hresult, ?_, ?_⟩
  · obtain ⟨outlines, hparsed, hkinds⟩ := exempt_functions_parsed
    have hwritten : Source.isGenerated exemptFunctions = false := by rfl
    have hfile : PathFilter.isSourceFile ⟨"src/lib.rs"⟩ = true := by rfl
    obtain rfl : _ = analysis :=
      Except.ok.inj ((result_analyze_source hvalid hfile).symm.trans hresult)
    simp only [findingsIn, hwritten, hparsed, Bool.false_eq_true, if_false, Config.findings,
      count_checked, hkinds]
    rfl
  · exact hnone _ (by rfl) (by simp)

end Analyzer

end NamingLint
