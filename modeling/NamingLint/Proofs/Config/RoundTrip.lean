import NamingLint.Config.Fingerprint
import NamingLint.Json.Reader
import NamingLint.Proofs.Config.Validity
import NamingLint.Proofs.Json.Fields

/-!
# Reading a written configuration back

A configuration is written as a tree of values, with absent settings left out, and read from
whatever document a reader makes of the text. `Value.heldBy` says that a document holds a tree of
values, and `of_document_held` that this is enough to read the configuration back. A JSON text holds
the tree that was written (`Whole.parse_pretty`); of a YAML text this is assumed. `read_back` is the
result for both.
-/

namespace NamingLint

open Json (Value)
open Naming (DeclarationKind Rule)

/-! ## Documents that hold a value -/

namespace Json.Value

mutual

/-- A document holds a value: it can be read as that value. A text must not be mistaken for nothing,
and names itself as an alternative. -/
def heldBy : Value → Document → Bool
  | null, .scalar scalar => scalar.isAbsent
  | bool value, .scalar scalar => scalar.truth = some value
  | number text, .scalar scalar => scalar.number = natOfText? text
  | string text, .scalar scalar =>
    scalar.text = some text && scalar.choice = some text && !scalar.isAbsent
  | array elements, .list items => allHeldBy elements items
  | object members, .record entries _ => membersHeldBy members entries
  | _, _ => false

/-- The documents hold the values one by one. -/
def allHeldBy : List Value → List Document → Bool
  | [], [] => true
  | first :: rest, item :: items => first.heldBy item && allHeldBy rest items
  | _, _ => false

/-- The entries hold the members one by one, under their names. -/
def membersHeldBy : List (String × Value) → List (Option String × Document) → Bool
  | [], [] => true
  | (name, value) :: rest, (key, document) :: entries =>
    key = some name && value.heldBy document && membersHeldBy rest entries
  | _, _ => false

end

mutual

/-- A value is held by the document that it is. -/
theorem held_by_document (value : Value) : value.heldBy value.document = true := by
  cases value with
  | null | bool | number | string => simp [document, heldBy]
  | array elements => simpa [document, heldBy] using all_held_by_documents elements
  | object members => simpa [document, heldBy] using members_held_by_entries members

theorem all_held_by_documents (elements : List Value) :
    allHeldBy elements (documents elements) = true := by
  cases elements with
  | nil => simp [allHeldBy, documents]
  | cons first rest =>
      simp [allHeldBy, documents, held_by_document first, all_held_by_documents rest]

theorem members_held_by_entries (members : List (String × Value)) :
    membersHeldBy members (entries members) = true := by
  cases members with
  | nil => simp [membersHeldBy, entries]
  | cons first rest =>
      obtain ⟨name, value⟩ := first
      simp [membersHeldBy, entries, held_by_document value, members_held_by_entries rest]

end

variable {α : Type} {read : Document → Option α} {encode : α → Value} {text : String}
  {elements : List Value} {members : List (String × Value)} {document : Document}

/-! ### Reading what is held -/

theorem held_string (h : (string text).heldBy document = true) :
    document.text? = some text ∧ document.choice? = some text := by
  cases document with
  | scalar scalar =>
      obtain ⟨hheld, -⟩ : (scalar.text = some text ∧ scalar.choice = some text) ∧
          scalar.isAbsent = false := by
        simpa [heldBy] using h
      exact hheld
  | list | record => simp [heldBy] at h

/-- A text is not mistaken for nothing. -/
theorem optional_of_held_string (h : (string text).heldBy document = true) :
    document.optional? read = (read document).map some := by
  cases document with
  | scalar scalar =>
      have hpresent : scalar.isAbsent = false := by
        simp [heldBy] at h
        exact h.2
      rw [Document.optional?, hpresent, if_neg Bool.false_ne_true]
  | list | record => rfl

theorem held_bool {value : Bool} (h : (bool value).heldBy document = true) :
    document.truth? = some value := by
  cases document with
  | scalar scalar => simpa [heldBy, Document.truth?] using h
  | list | record => simp [heldBy] at h

theorem held_null (h : null.heldBy document = true) : document.optional? read = some none := by
  cases document with
  | scalar scalar =>
      have habsent : scalar.isAbsent = true := by simpa [heldBy] using h
      rw [Document.optional?, if_pos habsent]
  | list | record => simp [heldBy] at h

theorem held_object (h : (object members).heldBy document = true) :
    ∃ entries choice, document = .record entries choice ∧ membersHeldBy members entries = true := by
  cases document with
  | record entries choice => exact ⟨entries, choice, rfl, by simpa [heldBy] using h⟩
  | scalar | list => simp [heldBy] at h

theorem members_held_cons {name : String} {value : Value}
    {entries : List (Option String × Document)}
    (h : membersHeldBy ((name, value) :: members) entries = true) :
    ∃ found rest, entries = (some name, found) :: rest ∧ value.heldBy found = true ∧
      membersHeldBy members rest = true := by
  match entries with
  | [] => simp [membersHeldBy] at h
  | (key, found) :: rest =>
      obtain ⟨⟨rfl, hfound⟩, hrest⟩ :
          (key = some name ∧ value.heldBy found = true) ∧ membersHeldBy members rest = true := by
        simpa [membersHeldBy] using h
      exact ⟨found, rest, rfl, hfound, hrest⟩

theorem members_held_nil {entries : List (Option String × Document)}
    (h : membersHeldBy [] entries = true) : entries = [] := by
  cases entries with
  | nil => rfl
  | cons => simp [membersHeldBy] at h

/-- A list is read if each of its elements is. -/
theorem held_array {values : List α}
    (hread : ∀ value ∈ values, ∀ item, (encode value).heldBy item = true → read item = some value)
    (h : (array (values.map encode)).heldBy document = true) :
    ∃ items, document = .list items ∧ document.list? read = some values := by
  cases document with
  | scalar | record => simp [heldBy] at h
  | list items =>
      refine ⟨items, rfl, ?_⟩
      rw [heldBy] at h
      rw [Document.list?]
      induction values generalizing items with
      | nil =>
          cases items with
          | nil => rfl
          | cons => simp [allHeldBy] at h
      | cons value values ih =>
          cases items with
          | nil => simp [allHeldBy] at h
          | cons item items =>
              obtain ⟨hitem, hitems⟩ : (encode value).heldBy item = true ∧
                  allHeldBy (values.map encode) items = true := by
                simpa [allHeldBy] using h
              obtain ⟨hvalue, hvalues⟩ := List.forall_mem_cons.1 hread
              simp [List.mapM_cons, hvalue item hitem, ih hvalues items hitems]

/-- A record with arbitrary keys is read if each of its values is. -/
theorem held_record {values : List (String × α)}
    (hread : ∀ value ∈ values, ∀ item, (encode value.2).heldBy item = true →
      read item = some value.2)
    (h : (object (values.map fun value => (value.1, encode value.2))).heldBy document = true) :
    document.record? read = some values := by
  obtain ⟨entries, choice, rfl, hentries⟩ := held_object h
  clear h
  rw [Document.record?]
  induction values generalizing entries with
  | nil =>
      rw [members_held_nil hentries]
      rfl
  | cons value values ih =>
      obtain ⟨found, rest, rfl, hfound, hrest⟩ := members_held_cons hentries
      obtain ⟨hvalue, hvalues⟩ := List.forall_mem_cons.1 hread
      rw [List.mapM_cons, ih hvalues rest hrest]
      simp [hvalue found hfound]

end Json.Value

namespace Config

open Json.Value

variable {document : Document}

/-! ## Reading a configuration -/

theorem held_names {names : List String} (h : (namesValue names).heldBy document = true) :
    document.list? Document.text? = some names :=
  have hnames := held_array (fun _ _ _ hname => (held_string hname).1) h
  hnames.elim fun _ hitems => hitems.2

theorem held_severity {severity : Severity}
    (h : (Value.string severity.name).heldBy document = true) :
    document.optional? Severity.ofDocument? = some (some severity) := by
  rw [optional_of_held_string h, Severity.ofDocument?, (held_string h).2]
  cases severity <;> rfl

theorem held_kind {kind : DeclarationKind}
    (h : (Value.string kind.name).heldBy document = true) : kindOf? document = some kind := by
  rw [kindOf?, (held_string h).2]
  cases kind <;> rfl

theorem held_kinds {kinds : List DeclarationKind}
    (h : (namesValue (kinds.map DeclarationKind.name)).heldBy document = true) :
    document.optional? (Document.list? kindOf?) = some (some kinds) := by
  rw [namesValue, List.map_map] at h
  obtain ⟨items, rfl, hkinds⟩ := held_array (fun _ _ _ => held_kind) h
  rw [Document.optional?, hkinds]
  · rfl
  · intro scalar hscalar
    cases hscalar

/-- Settings are read from a document that holds them, whichever of them are left out. -/
theorem RuleSettings.of_document_held {settings : RuleSettings}
    (h : settings.toValue.heldBy document = true) :
    RuleSettings.ofDocument? document = some settings := by
  obtain ⟨enabled, severity, allowUnderscoreDigit, kinds⟩ := settings
  obtain ⟨entries, choice, rfl, hentries⟩ := held_object h
  obtain ⟨_, entries, rfl, henabled, hentries⟩ := members_held_cons hentries
  -- What is written for the severity and the kinds decides which entries there are.
  cases severity with
  | none =>
      obtain ⟨_, entries, rfl, hallow, hentries⟩ := members_held_cons hentries
      cases kinds with
      | none =>
          obtain rfl := members_held_nil hentries
          simp [RuleSettings.ofDocument?, Document.fields?, Document.fieldOf?, Document.valuesOf,
            Field.withDefault, held_bool henabled, held_bool hallow]
      | some kinds =>
          obtain ⟨_, entries, rfl, hkinds, hentries⟩ := members_held_cons hentries
          obtain rfl := members_held_nil hentries
          simp [RuleSettings.ofDocument?, Document.fields?, Document.fieldOf?, Document.valuesOf,
            Field.withDefault, held_bool henabled, held_bool hallow, held_kinds hkinds]
  | some severity =>
      obtain ⟨_, entries, rfl, hseverity, hentries⟩ := members_held_cons hentries
      obtain ⟨_, entries, rfl, hallow, hentries⟩ := members_held_cons hentries
      cases kinds with
      | none =>
          obtain rfl := members_held_nil hentries
          simp [RuleSettings.ofDocument?, Document.fields?, Document.fieldOf?, Document.valuesOf,
            Field.withDefault, held_bool henabled, held_bool hallow, held_severity hseverity]
      | some kinds =>
          obtain ⟨_, entries, rfl, hkinds, hentries⟩ := members_held_cons hentries
          obtain rfl := members_held_nil hentries
          simp [RuleSettings.ofDocument?, Document.fields?, Document.fieldOf?, Document.valuesOf,
            Field.withDefault, held_bool henabled, held_bool hallow, held_severity hseverity,
            held_kinds hkinds]

theorem held_ignore_file {name : Option String}
    (h : (Value.ofOption .string name).heldBy document = true) :
    document.optional? Document.text? = some name := by
  cases name with
  | none => exact held_null h
  | some name => rw [optional_of_held_string h, (held_string h).1]; rfl

theorem paths_of_held {paths : PathSettings}
    (h : (Value.object [
      ("patterns", namesValue paths.patterns),
      ("ignore_file", .ofOption .string paths.ignoreFile)]).heldBy document = true) :
    pathsOf? document = some paths := by
  obtain ⟨entries, choice, rfl, hentries⟩ := held_object h
  obtain ⟨_, entries, rfl, hpatterns, hentries⟩ := members_held_cons hentries
  obtain ⟨_, entries, rfl, hignore, hentries⟩ := members_held_cons hentries
  obtain rfl := members_held_nil hentries
  simp [pathsOf?, Document.fields?, Document.fieldOf?, Document.valuesOf, Field.required,
    Field.optional, held_names hpatterns, held_ignore_file hignore]

/-- An entry behind all others is added at the end. -/
theorem alter_entries_behind {id : String} {change : Option RuleSettings → RuleSettings}
    {entries : List (String × RuleSettings)} (h : ∀ entry ∈ entries, entry.1 < id) :
    alterEntries id change entries = entries ++ [(id, change none)] := by
  induction entries with
  | nil => rfl
  | cons entry rest ih =>
      obtain ⟨hentry, hrest⟩ := List.forall_mem_cons.1 h
      have hne : id ≠ entry.1 := fun heq => String.lt_irrefl entry.1 (heq ▸ hentry)
      rw [alterEntries, if_neg (String.lt_asymm hentry), if_neg hne, ih hrest]
      rfl

/-- Entries in ascending order are added one behind the other. -/
theorem entries_of_insert_all {rules : RuleMap} {entries : List (String × RuleSettings)}
    (h : (rules.entries ++ entries).Pairwise fun left right => left.1 < right.1) :
    (entries.foldl (fun rules entry => rules.insert entry.1 entry.2) rules).entries =
      rules.entries ++ entries := by
  induction entries generalizing rules with
  | nil => exact (List.append_nil _).symm
  | cons entry rest ih =>
      have hinsert : (rules.insert entry.1 entry.2).entries = rules.entries ++ [entry] :=
        alter_entries_behind fun other hother =>
          (List.pairwise_append.1 h).2.2 other hother entry List.mem_cons_self
      rw [List.foldl_cons, ih (by rw [hinsert]; simpa using h), hinsert, List.append_assoc]
      rfl

/-- A map is the map of its entries. -/
theorem of_list_entries {rules : RuleMap} : RuleMap.ofList rules.entries = rules := by
  have hentries : (RuleMap.ofList rules.entries).entries = rules.entries :=
    entries_of_insert_all rules.ascending
  cases hmap : RuleMap.ofList rules.entries with
  | mk entries ascending =>
      rw [hmap] at hentries
      cases hentries
      rfl

theorem rules_of_held {rules : RuleMap}
    (h : (Value.object (rules.entries.map fun (id, settings) => (id, settings.toValue))).heldBy
      document = true) : rulesOf? document = some rules := by
  have hentries : document.record? RuleSettings.ofDocument? = some rules.entries :=
    held_record (fun _ _ _ => RuleSettings.of_document_held) h
  rw [rulesOf?, hentries]
  exact congrArg some of_list_entries

/-- A configuration is read from any document that holds it. -/
theorem of_document_held {config : Config} (h : config.toValue.heldBy document = true) :
    ofDocument? document = some config := by
  obtain ⟨entries, choice, rfl, hentries⟩ := held_object h
  obtain ⟨_, entries, rfl, hversion, hentries⟩ := members_held_cons hentries
  obtain ⟨_, entries, rfl, hpaths, hentries⟩ := members_held_cons hentries
  obtain ⟨_, entries, rfl, hnative, hentries⟩ := members_held_cons hentries
  obtain ⟨_, entries, rfl, hrules, hentries⟩ := members_held_cons hentries
  obtain rfl := members_held_nil hentries
  simp [ofDocument?, Document.fields?, Document.fieldOf?, Document.valuesOf, Field.required,
    Field.withDefault, (held_string hversion).1, paths_of_held hpaths, (held_string hnative).1,
    rules_of_held hrules]

/-! ## Written configurations -/

theorem whole (config : Config) : config.toValue.Whole := by
  have hnames (names : List String) : (namesValue names).Whole := by simp [namesValue]
  have hsettings (settings : RuleSettings) : settings.toValue.Whole := by
    unfold RuleSettings.toValue
    cases settings.severity <;> cases settings.declarationKinds <;> simp [hnames]
  have hrules : (Value.object (config.rules.entries.map
      fun (id, settings) => (id, settings.toValue))).Whole :=
    whole_object_iff.2 (List.forall_mem_map.2 fun entry _ => hsettings entry.2)
  have hpaths : (Value.object [("patterns", namesValue config.paths.patterns),
      ("ignore_file", .ofOption .string config.paths.ignoreFile)]).Whole := by
    simp [hnames]
  exact whole_object_iff.2 (by simpa only [List.forall_mem_cons] using
    ⟨.string _, hpaths, .string _, hrules, nofun⟩)

/-- The configuration that a JSON text holds. -/
def ofJson? (text : String) : Option Config :=
  (Value.parse? text).bind fun value => ofDocument? value.document

theorem of_json_to_json (config : Config) : ofJson? config.toJson = some config := by
  rw [ofJson?, toJson, config.whole.parse_pretty, Option.bind_some]
  exact of_document_held (held_by_document config.toValue)

/-- The YAML text of a value is read as a document that holds the value. -/
def ReadsBack (value : Value) : Prop :=
  (Yaml.document? (Yaml.print value)).any value.heldBy = true

/-- An acceptable configuration is the same again after it was written and read, and so is its
fingerprint. Of its YAML text it is assumed that the tree of values can be read back from it. -/
theorem read_back {config : Config} (hvalid : config.validate = .ok ())
    (hyaml : ReadsBack config.toValue) :
    load config.toYaml = .ok config ∧ ofJson? config.toJson = some config ∧
      (load config.toYaml).map fingerprint = .ok config.fingerprint ∧
      (ofJson? config.toJson).map fingerprint = some config.fingerprint := by
  have hload : load config.toYaml = .ok config := by
    obtain ⟨document, hdocument, hheld⟩ := (Option.any_eq_true _ _).1 hyaml
    rw [load, loadOr, toYaml, hdocument, Option.bind_some, of_document_held hheld]
    simp [checked, hvalid]
  rw [hload, of_json_to_json]
  exact ⟨rfl, rfl, rfl, rfl⟩

/-- A configuration whose texts need quotes or escapes, without an ignore file and with an empty
list of kinds. -/
def quoted : Config where
  version := "1.0"
  paths := { patterns := ["", "it's: one"], ignoreFile := none }
  nativePattern := "\t"
  rules := .ofList [(Rule.lowerCase.id,
    { enabled := true, severity := some .error, declarationKinds := some [] })]

/-- The text is given line by line: the characters of short texts are found much faster than those of
a long one. -/
theorem quoted_printed : Yaml.print quoted.toValue =
    "version: '1.0'\n" ++ ("paths:\n" ++ (
      "  patterns:\n" ++ ("  - ''\n" ++ ("  - 'it''s: one'\n" ++ "")) ++ (
      "  ignore_file: null\n" ++ "")) ++ (
    "native_container_pattern: \"\\t\"\n" ++ ("rules:\n" ++ (
      "  element_must_begin_with_lower_case:\n" ++ (
        "    enabled: true\n" ++ ("    severity: error\n" ++ (
        "    allow_underscore_digit: false\n" ++ ("    declaration_kinds: []\n" ++ "")))) ++ "") ++
      ""))) := by
  rfl

theorem read_back_quoted : quoted.validate = .ok () ∧ ReadsBack quoted.toValue ∧
    load quoted.toYaml = .ok quoted ∧ ofJson? quoted.toJson = some quoted := by
  have hvalid : quoted.validate = .ok () := by rfl
  have hyaml : ReadsBack quoted.toValue := by
    rw [ReadsBack, quoted_printed]
    simp only [Yaml.document?, Yaml.tokens?, String.toList_append]
    decide +kernel
  exact ⟨hvalid, hyaml, (read_back hvalid hyaml).1, (read_back hvalid hyaml).2.1⟩

end Config

end NamingLint
