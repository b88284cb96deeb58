import NamingLint.Proofs.Report.Command
import NamingLint.Report.Annotation

/-!
# Reading annotations back

Annotations are written as they are, without any codes. `annotations_read_iff` says when that is
good enough: a workflow run reads back what each diagnostic says exactly if all of them are
`Diagnostic.Annotatable`.
-/

namespace NamingLint

open Report Report.Command

/-- A text that stays what it is in a command. -/
structure PlainText (text : List Char) : Prop where
  unbroken : Unbroken text
  uncoded : ∀ code ∈ codes, ¬ code <:+: text

instance (text : List Char) : Decidable (Unbroken text) :=
  List.decidableBAll (fun c => c ≠ '\n' ∧ c ≠ '\r') text

instance (text : List Char) : Decidable (PlainText text) :=
  decidable_of_iff (Unbroken text ∧ ∀ code ∈ codes, ¬ code <:+: text)
    ⟨fun h => ⟨h.1, h.2⟩, fun h => ⟨h.unbroken, h.uncoded⟩⟩

/-- A text that stays what it is as the value of a property in front of something else. -/
structure PlainValue (text following : List Char) : Prop extends PlainText text where
  comma : ',' ∉ text
  colons : ¬ [':', ':'] <:+: text ++ following

instance (text following : List Char) : Decidable (PlainValue text following) :=
  decidable_of_iff (PlainText text ∧ ',' ∉ text ∧ ¬ [':', ':'] <:+: text ++ following)
    ⟨fun h => ⟨h.1, h.2.1, h.2.2⟩, fun h => ⟨h.toPlainText, h.comma, h.colons⟩⟩

namespace Diagnostic

/-- Nothing in a diagnostic is taken for something else in an annotation. The rule stands right in
front of two colons. -/
structure Annotatable (diagnostic : Diagnostic) : Prop where
  file : PlainValue diagnostic.file.text.toList []
  rule : PlainValue diagnostic.ruleId.toList [':']
  message : PlainText diagnostic.message.toList

instance (diagnostic : Diagnostic) : Decidable diagnostic.Annotatable :=
  decidable_of_iff (PlainValue diagnostic.file.text.toList [] ∧
      PlainValue diagnostic.ruleId.toList [':'] ∧ PlainText diagnostic.message.toList)
    ⟨fun h => ⟨h.1, h.2.1, h.2.2⟩, fun h => ⟨h.file, h.rule, h.message⟩⟩

end Diagnostic

namespace Report

/-- The properties for a place. -/
def placeProperties (location : Option Location) : List (List Char × List Char) :=
  match location with
  | some location => [
      ("line".toList, (toString location.line.toNat).toList),
      ("col".toList, (toString location.column.toNat).toList)]
  | none => []

/-- What the annotation of a diagnostic has to say. -/
def commandOf (diagnostic : Diagnostic) : Command where
  level := (annotationCommand diagnostic.severity).toList
  properties := ("file".toList, diagnostic.file.text.toList) ::
    (placeProperties diagnostic.location ++ [("title".toList, diagnostic.ruleId.toList)])
  message := diagnostic.message.toList

variable {diagnostic : Diagnostic} {front back : List Char} {c : Char}

/-! ## Parts of a line -/

/-- A pair of colons is on one side of anything else. -/
theorem colons_infix_iff (hc : c ≠ ':') : [':', ':'] <:+: front ++ c :: back ↔
    [':', ':'] <:+: front ∨ [':', ':'] <:+: back := by
  induction front with
  | nil => simp [List.infix_cons_iff, List.cons_prefix_cons, hc.symm]
  | cons d front ih =>
      have hstart : [':', ':'] <+: d :: (front ++ c :: back) ↔ [':', ':'] <+: d :: front := by
        cases front <;> simp [List.cons_prefix_cons, hc.symm]
      rw [List.cons_append, List.infix_cons_iff, ih, hstart, List.infix_cons_iff, or_assoc]

theorem no_colons (h : ':' ∉ front) : ¬ [':', ':'] <:+: front := fun hinside =>
  h (hinside.subset List.mem_cons_self)

@[simp]
theorem unbroken_append : Unbroken (front ++ back) ↔ Unbroken front ∧ Unbroken back :=
  List.forall_mem_append

@[simp]
theorem unbroken_cons : Unbroken (c :: back) ↔ (c ≠ '\n' ∧ c ≠ '\r') ∧ Unbroken back :=
  List.forall_mem_cons

/-- The properties for a place as they stand in front of the title. -/
def placeText (location : Option Location) : List Char :=
  (placeProperties location).flatMap fun property => propertyText property ++ [',']

theorem header_of_command (diagnostic : Diagnostic) : (commandOf diagnostic).header =
    (annotationCommand diagnostic.severity).toList ++ " file=".toList ++
      (diagnostic.file.text.toList ++ ',' :: (placeText diagnostic.location ++ "title".toList ++
        '=' :: diagnostic.ruleId.toList)) := by
  unfold Command.header commandOf placeText placeProperties
  cases diagnostic.location <;> simp [propertyText, List.intercalate_cons_cons]

/-- An annotation is the line of its command. -/
theorem annotation_eq_line (diagnostic : Diagnostic) :
    annotation diagnostic = String.ofList ((commandOf diagnostic).line ++ ['\n']) := by
  rw [Command.line, header_of_command, ← String.toList_inj, String.toList_ofList]
  unfold annotation commandOf placeText placeProperties
  cases diagnostic.location <;> simp [propertyText]

/-! ## What is plain in any annotation -/

theorem not_mem_numeral (hc : c.isDigit = false) (number : Nat) : c ∉ (toString number).toList :=
  fun h => Bool.false_ne_true (hc.symm.trans ((digits_numeral number).all c h))

theorem unescape_of_not_mem (h : '%' ∉ front) : unescape front = front := by
  refine unescape_eq_iff.2 fun code hcode hinside => h (hinside.subset ?_)
  simp only [codes, List.mem_cons, List.not_mem_nil, or_false] at hcode
  rcases hcode with rfl | rfl | rfl | rfl | rfl <;> exact List.mem_cons_self

theorem place_values (location : Option Location) : ∀ property ∈ placeProperties location,
    ',' ∉ property.2 ∧ unescape property.2 = property.2 := by
  have hnumeral (number : Nat) : ',' ∉ (toString number).toList ∧
      unescape (toString number).toList = (toString number).toList :=
    ⟨not_mem_numeral rfl number, unescape_of_not_mem (not_mem_numeral rfl number)⟩
  cases location with
  | none => simp [placeProperties]
  | some location =>
      rw [placeProperties, List.forall_mem_cons, List.forall_mem_singleton]
      exact ⟨hnumeral _, hnumeral _⟩

theorem not_mem_place (hc : c.isDigit = false) (hname : c ∉ "line=,col".toList)
    (location : Option Location) : c ∉ placeText location := by
  cases location with
  | none => exact List.not_mem_nil
  | some location =>
      have hline := not_mem_numeral hc location.line.toNat
      have hcolumn := not_mem_numeral hc location.column.toNat
      simp_all [placeText, placeProperties, propertyText]

theorem not_mem_level (hc : c ∉ "errorwarningnotice".toList) (severity : Severity) :
    c ∉ (annotationCommand severity).toList := by
  cases severity <;> simp_all [annotationCommand]

theorem named_command (diagnostic : Diagnostic) : (commandOf diagnostic).Named where
  level := not_mem_level (by decide) _
  keys := by
    cases hlocation : diagnostic.location <;> simp [commandOf, placeProperties, hlocation]
  nonempty := List.cons_ne_nil _ _

/-! ## What has to be plain -/

theorem header_colons_iff : [':', ':'] <:+: (commandOf diagnostic).header ++ [':'] ↔
    [':', ':'] <:+: diagnostic.file.text.toList ++ [] ∨
      [':', ':'] <:+: diagnostic.ruleId.toList ++ [':'] := by
  have hlevel : ':' ∉ (annotationCommand diagnostic.severity).toList ++ " file".toList := by
    have h := not_mem_level (show ':' ∉ "errorwarningnotice".toList by decide) diagnostic.severity
    simp [h]
  have hplace : ':' ∉ placeText diagnostic.location ++ "title".toList := by
    have h := not_mem_place rfl (show ':' ∉ "line=,col".toList by decide) diagnostic.location
    simp [h]
  -- What stands between the file and the rule keeps their colons apart.
  have hheader : (commandOf diagnostic).header ++ [':'] =
      ((annotationCommand diagnostic.severity).toList ++ " file".toList) ++ '=' ::
        (diagnostic.file.text.toList ++ ',' :: ((placeText diagnostic.location ++ "title".toList) ++
          '=' :: (diagnostic.ruleId.toList ++ [':']))) := by
    rw [header_of_command]
    simp
  rw [hheader, colons_infix_iff (by decide), colons_infix_iff (by decide),
    colons_infix_iff (by decide), List.append_nil]
  simp only [no_colons hlevel, no_colons hplace, false_or]

theorem unbroken_of_not_mem (hfeed : '\n' ∉ front) (hreturn : '\r' ∉ front) : Unbroken front :=
  fun _ h => ⟨fun hc => hfeed (hc ▸ h), fun hc => hreturn (hc ▸ h)⟩

theorem unbroken_line_iff : Unbroken (commandOf diagnostic).line ↔
    Unbroken diagnostic.file.text.toList ∧ Unbroken diagnostic.ruleId.toList ∧
      Unbroken diagnostic.message.toList := by
  have hlevel : Unbroken (annotationCommand diagnostic.severity).toList :=
    unbroken_of_not_mem (not_mem_level (by decide) _) (not_mem_level (by decide) _)
  have hplace : Unbroken (placeText diagnostic.location) :=
    unbroken_of_not_mem (not_mem_place rfl (by decide) _) (not_mem_place rfl (by decide) _)
  have hfile : Unbroken " file=".toList := by simp [Unbroken]
  have htitle : Unbroken "title".toList := by simp [Unbroken]
  rw [Command.line, header_of_command]
  simp only [unbroken_cons, unbroken_append, hlevel, hplace, hfile, htitle, commandOf]
  simp [and_assoc]

theorem annotatable_iff : diagnostic.Annotatable ↔
    (commandOf diagnostic).Literal ∧ Unbroken (commandOf diagnostic).line := by
  rw [unbroken_line_iff]
  constructor
  · rintro ⟨⟨⟨hfile, hfileCodes⟩, hfileComma, hfileColons⟩,
      ⟨⟨hrule, hruleCodes⟩, hruleComma, hruleColons⟩, hmessage, hmessageCodes⟩
    refine ⟨⟨?_, ?_, unescape_eq_iff.2 hmessageCodes⟩, hfile, hrule, hmessage⟩
    · refine List.forall_mem_cons.2 ⟨⟨hfileComma, unescape_eq_iff.2 hfileCodes⟩,
        List.forall_mem_append.2 ⟨place_values _, List.forall_mem_singleton.2 ?_⟩⟩
      exact ⟨hruleComma, unescape_eq_iff.2 hruleCodes⟩
    · rw [header_colons_iff, not_or]
      exact ⟨hfileColons, hruleColons⟩
  · rintro ⟨⟨hvalues, hcolons, hmessageCodes⟩, hfile, hrule, hmessage⟩
    obtain ⟨⟨hfileComma, hfileCodes⟩, hothers⟩ := List.forall_mem_cons.1 hvalues
    obtain ⟨hruleComma, hruleCodes⟩ := hothers _ (List.mem_append_right _ List.mem_cons_self)
    rw [header_colons_iff, not_or] at hcolons
    exact ⟨⟨⟨hfile, unescape_eq_iff.1 hfileCodes⟩, hfileComma, hcolons.1⟩,
      ⟨⟨hrule, unescape_eq_iff.1 hruleCodes⟩, hruleComma, hcolons.2⟩,
      ⟨hmessage, unescape_eq_iff.1 hmessageCodes⟩⟩

/-! ## All annotations -/

/-- What a workflow run makes of the lines of a text. -/
def commandsOf (text : String) : List (Option Command) :=
  (lines text.toList).map ofLine?

theorem commands_of_annotations (diagnostics : List Diagnostic) :
    commandsOf (String.join (diagnostics.map annotation)) =
        diagnostics.map (fun diagnostic => some (commandOf diagnostic)) ↔
      ∀ diagnostic ∈ diagnostics, diagnostic.Annotatable := by
  induction diagnostics with
  | nil => simp [commandsOf, lines]
  | cons diagnostic diagnostics ih =>
      have htext : (String.join ((diagnostic :: diagnostics).map annotation)).toList =
          (commandOf diagnostic).line ++ '\n' ::
            (String.join (diagnostics.map annotation)).toList := by
        rw [List.map_cons, String.join_cons, String.toList_append, annotation_eq_line]
        simp
      rw [commandsOf, htext, List.forall_mem_cons, annotatable_iff]
      by_cases hunbroken : Unbroken (commandOf diagnostic).line
      · rw [lines_of_unbroken hunbroken, List.map_cons, List.map_cons, List.cons.injEq,
          of_line_iff (named_command diagnostic), ← ih, commandsOf]
        simp [hunbroken]
      · -- The first line is too short to say all that it has to.
        obtain ⟨first, more, hlines, hlength⟩ := lines_of_broken hunbroken
          (String.join (diagnostics.map annotation)).toList
        have hfirst : ofLine? first ≠ some (commandOf diagnostic) := fun hread =>
          Nat.not_le_of_lt hlength (length_le_of_line hread).1
        rw [hlines, List.map_cons, List.map_cons, List.cons.injEq]
        simp [hfirst, hunbroken]

/-- A workflow run reads back from its annotations what a report shows, with one command on one line
for each diagnostic, exactly if all diagnostics that are shown stay what they are in an
annotation. -/
theorem annotations_read_iff (options : Options) (report : Report) :
    commandsOf (report.annotationText options) =
        (options.select report.diagnostics).map (fun diagnostic => some (commandOf diagnostic)) ↔
      ∀ diagnostic ∈ options.select report.diagnostics, diagnostic.Annotatable :=
  commands_of_annotations _

/-- A diagnostic about a function of a file. -/
def nameDiagnostic (file : String) : Diagnostic where
  ruleId := "element_must_begin_with_lower_case"
  severity := .error
  file := ⟨file⟩
  location := some ⟨1, 13⟩
  message := "Element 'A' must begin with a lower-case letter"
  detectedAt := default

/-- A report about functions of some files. -/
def nameReport (files : List String) : Report :=
  { start default with diagnostics := files.map nameDiagnostic }

theorem plain_annotations_read :
    (∀ diagnostic ∈ (nameReport ["src/a.rs", "src/b=c: d.rs"]).diagnostics,
      diagnostic.Annotatable) ∧
    commandsOf ((nameReport ["src/a.rs", "src/b=c: d.rs"]).annotationText {}) =
      ["src/a.rs", "src/b=c: d.rs"].map fun file => some (commandOf (nameDiagnostic file)) :=
  have hplain : ∀ diagnostic ∈ (nameReport ["src/a.rs", "src/b=c: d.rs"]).diagnostics,
      diagnostic.Annotatable := by decide
  ⟨hplain, (annotations_read_iff {} (nameReport ["src/a.rs", "src/b=c: d.rs"])).2 hplain⟩

/-- A comma in a path ends the path and starts a property without a value. -/
theorem comma_not_read_back :
    (nameReport ["src/a,b.rs"]).annotationText {} =
      "::error file=src/a,b.rs,line=1,col=13,title=element_must_begin_with_lower_case" ++
        "::Element 'A' must begin with a lower-case letter\n" ∧
    commandsOf ((nameReport ["src/a,b.rs"]).annotationText {}) ≠
      [some (commandOf (nameDiagnostic "src/a,b.rs"))] := by
  refine ⟨by decide, fun hread => ?_⟩
  have hplain := (commands_of_annotations [nameDiagnostic "src/a,b.rs"]).1 hread
  exact absurd (hplain _ List.mem_cons_self) (by decide)

end Report

end NamingLint
