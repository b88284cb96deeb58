import NamingLint.Proofs.Json.Reading

/-!
# Fields of JSON objects

What a structure finds in the object that it was written as. `fields_of_object` gives all fields at
once, and the other lemmas say how the value of a single field is read.
-/

namespace NamingLint.Json.Value

variable {α : Type} {members : List (String × Value)} {names : List String}

/-! ## All fields -/

theorem documents_eq (elements : List Value) : documents elements = elements.map document := by
  induction elements with
  | nil => rfl
  | cons element elements ih => rw [documents, ih, List.map_cons]

theorem entries_eq (members : List (String × Value)) :
    entries members = members.map fun member => (some member.1, member.2.document) := by
  induction members with
  | nil => rfl
  | cons member members ih => rw [entries, ih, List.map_cons]

theorem values_of_entries (members : List (String × Value)) (name : String) :
    Document.valuesOf (entries members) name =
      (members.filter fun member => member.1 = name).map fun member => member.2.document := by
  induction members with
  | nil => rfl
  | cons member members ih =>
      simp only [Document.valuesOf] at ih
      by_cases hname : member.1 = name <;> simp [entries, Document.valuesOf, hname, ih]

/-- The only member with a name is the one that is found under it. -/
theorem field_of_entries {member : String × Value} (hnodup : (members.map Prod.fst).Nodup)
    (hmember : member ∈ members) :
    Document.fieldOf? (entries members) member.1 = some (.found member.2.document) := by
  have honly : (members.filter fun other => other.1 = member.1) = [member] := by
    induction members with
    | nil => cases hmember
    | cons first members ih =>
        obtain ⟨hfirst, hrest⟩ := List.nodup_cons.1 hnodup
        rcases List.mem_cons.1 hmember with rfl | hmember
        · have hnone : (members.filter fun other => other.1 = member.1) = [] :=
            List.filter_eq_nil_iff.2 fun other hother hname =>
              hfirst (of_decide_eq_true hname ▸ List.mem_map_of_mem hother)
          simp [hnone]
        · have hne : first.1 ≠ member.1 := fun hname => hfirst (hname ▸ List.mem_map_of_mem hmember)
          simp [hne, ih hrest hmember]
  simp [Document.fieldOf?, values_of_entries, honly]

/-- A structure finds all of its fields in an object with its names. -/
theorem fields_of_object (hnames : members.map Prod.fst = names) (hnodup : names.Nodup) :
    (object members).document.fields? names =
      some (members.map fun member => .found member.2.document) := by
  subst hnames
  have hall : (entries members).all (fun entry => entry.1.isSome) = true := by
    simp [entries_eq]
  have hobject : ∃ choice, (object members).document = .record (entries members) choice :=
    ⟨_, rfl⟩
  obtain ⟨choice, hobject⟩ := hobject
  rw [hobject, Document.fields?, if_pos hall, List.mapM_map]
  exact map_m_of_forall fun member hmember => field_of_entries hnodup hmember

/-! ## Single fields -/

/-- A list is read if each of its elements is. -/
theorem list_of_array {read : Document → Option α} {encode : α → Value} {elements : List α}
    (h : ∀ element ∈ elements, read (encode element).document = some element) :
    Document.list? read (array (elements.map encode)).document = some elements := by
  rw [document, documents_eq, Document.list?, List.map_map, List.mapM_map]
  exact (map_m_of_forall h).trans (congrArg some (List.map_id' elements))

theorem nat_of_text (number : Nat) : natOfText? (toString number) = some number := by
  obtain ⟨hnonempty, hdigits⟩ := digits_numeral number
  have hnumber : Nat.ofDigitChars 10 (numeral number) 0 = number := by
    rw [numeral_eq]
    exact Nat.ofDigitChars_ten_toDigits
  have htest : (!(numeral number).isEmpty && (numeral number).all Char.isDigit) = true := by
    simpa [hnonempty] using hdigits
  exact (if_pos htest).trans (congrArg some hnumber)

theorem nat_below_of_nat {number bound : Nat} (h : number < bound) :
    (ofNat number).document.natBelow? bound = some number := by
  rw [ofNat, document, Document.natBelow?, nat_of_text]
  simp [h]

/-- A value that may be absent is read if it is not written as an absent one. -/
theorem optional_of_option {read : Document → Option α} {encode : α → Value} {value : Option α}
    (hread : ∀ found ∈ value, read (encode found).document = some found)
    (hnull : ∀ found ∈ value, encode found ≠ null) :
    Field.optional read (.found (ofOption encode value).document) = some value := by
  cases value with
  | none => rfl
  | some found =>
      have hfound := hread found rfl
      have hpresent := hnull found rfl
      -- Only the value that stands for nothing would be taken for an absent one.
      cases hvalue : encode found with
      | null => exact absurd hvalue hpresent
      | bool | number | string | array | object =>
          rw [hvalue] at hfound
          simp_all [Field.optional, Document.optional?, ofOption, document]

end NamingLint.Json.Value
