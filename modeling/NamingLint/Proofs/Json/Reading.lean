import Mathlib.Data.List.Forall2
import Mathlib.Data.String.Basic
import NamingLint.Proofs.Json.String
import NamingLint.Proofs.Text.Reading

/-!
# Reading JSON back

`Whole.parse_compact` and `Whole.parse_pretty` say that a value is read back from both of its texts.
Read `Reads` first: it says that a value is read from a text that something else follows, and each
form of a value has a lemma for it that leaves the layout open.
-/

namespace NamingLint.Json

/-! ## Blanks and ends -/

/-- A character that may stand between the parts of a text. -/
def isBlank (c : Char) : Bool :=
  c == ' ' || c == '\n' || c == '\t' || c == '\r'

/-- Only blanks. -/
def Blank (gap : List Char) : Prop :=
  ∀ c ∈ gap, isBlank c = true

/-- A number that ends here is not continued. -/
def Delimited (rest : List Char) : Prop :=
  ∀ c ∈ rest.head?, c.isDigit = false ∧ c ≠ '.' ∧ c ≠ 'e' ∧ c ≠ 'E'

/-- A text starts with a character that is neither blank nor a closing bracket. -/
def Opens (text : List Char) : Prop :=
  ∃ c rest, text = c :: rest ∧ isBlank c = false ∧ c ≠ ']' ∧ c ≠ '\x7d'

variable {gap last text rest : List Char}

theorem blank_nil : Blank [] := by
  simp [Blank]

theorem blank_space : Blank [' '] := by
  simp [Blank, isBlank]

theorem skip_blanks_append (h : Blank gap) (text : List Char) :
    skipBlanks (gap ++ text) = skipBlanks text :=
  List.dropWhile_append_of_pos h

theorem skip_blanks_cons {c : Char} (h : isBlank c = false) (rest : List Char) :
    skipBlanks (c :: rest) = c :: rest :=
  List.dropWhile_cons_of_neg (Bool.eq_false_iff.1 h)

theorem delimited_nil : Delimited [] := by
  simp [Delimited]

theorem delimited_cons {c : Char} (h : c = ',' ∨ c = ']' ∨ c = '\x7d') (rest : List Char) :
    Delimited (c :: rest) := by
  rintro c ⟨⟩
  rcases h with rfl | rfl | rfl <;> decide

/-- Blanks do not continue a number. -/
theorem delimited_append (h : Blank gap) (hrest : Delimited rest) : Delimited (gap ++ rest) := by
  cases gap with
  | nil => exact hrest
  | cons c gap =>
      rintro c ⟨⟩
      have hblank := h c List.mem_cons_self
      simp only [isBlank, Bool.or_eq_true, beq_iff_eq] at hblank
      rcases hblank with ((rfl | rfl) | rfl) | rfl <;> decide

theorem Opens.append (h : Opens text) (rest : List Char) : Opens (text ++ rest) := by
  obtain ⟨c, more, rfl, hc⟩ := h
  exact ⟨c, more ++ rest, rfl, hc⟩

theorem skip_blanks_of_opens (hgap : Blank gap) (h : Opens text) :
    skipBlanks (gap ++ text) = text := by
  obtain ⟨c, more, rfl, hc, -⟩ := h
  rw [skip_blanks_append hgap, skip_blanks_cons hc]

/-! ## Numbers -/

theorem digits_of_append (h : Digits text) (hrest : ∀ c ∈ rest.head?, c.isDigit = false) :
    digits? (text ++ rest) = some (text, rest) := by
  have htaken := h.take_while_append hrest
  have hdropped : (text ++ rest).dropWhile Char.isDigit = rest := by
    rw [List.dropWhile_append_of_pos h.all]
    cases rest with
    | nil => rfl
    | cons c rest => simp [hrest c rfl]
  cases text with
  | nil => exact absurd rfl h.ne_nil
  | cons c text => rw [digits?, htaken, hdropped]

theorem whole_part_of_numeral (number : Nat) (h : Delimited rest) :
    wholePart? (numeral number ++ rest) = some (numeral number, rest) := by
  have hrest : ∀ c ∈ rest.head?, c.isDigit = false := fun c hc => (h c hc).1
  unfold wholePart?
  split
  · next more hzero =>
      -- A zero in front is all there is of the number.
      obtain ⟨c, digits, hnumeral, -⟩ := (digits_numeral number).exists_cons
      rw [hnumeral] at hzero ⊢
      obtain ⟨rfl, rfl⟩ := List.cons.inj hzero
      obtain rfl := tail_of_numeral hnumeral
      cases rest with
      | nil => rfl
      | cons c rest => simp [hrest c rfl]
  · exact digits_of_append (digits_numeral number) hrest

theorem number_of_numeral_text (number : Nat) (h : Delimited rest) :
    number? (numeral number ++ rest) = some (toString number, rest) := by
  have hfraction : fraction? rest = some ([], rest) := by
    unfold fraction?
    split
    · exact absurd rfl (h '.' rfl).2.1
    · rfl
  have hexponent : exponent? rest = some ([], rest) := by
    cases rest with
    | nil => rfl
    | cons c rest => simp [exponent?, (h c rfl).2.2]
  rw [number?]
  · simp only [whole_part_of_numeral number h, hfraction, hexponent, Option.bind_eq_bind,
      Option.bind_some, Option.pure_def, List.nil_append, List.append_nil]
    rw [numeral, String.ofList_toList]
  · exact fun more => (digits_numeral number).append_ne_cons rfl

/-! ## Collections -/

section Collections

variable {α : Type} {part : List Char → Option (α × List Char)} {items : List α}
  {texts : List (List Char)} {closing : Char}

theorem blank_of_closing (h : closing = ']' ∨ closing = '\x7d') : isBlank closing = false := by
  rcases h with rfl | rfl <;> rfl

/-- A part of a collection is read from a text, whatever blanks precede it. -/
structure Item (part : List Char → Option (α × List Char)) (item : α) (text : List Char) :
    Prop where
  opens : Opens text
  reads : ∀ {gap rest : List Char}, Blank gap → Delimited rest →
    part (gap ++ (text ++ rest)) = some (item, rest)

/-- The text of a collection, with a gap in front of each part and another one at the end. -/
def enclosed (opening closing : Char) (gap last : List Char) (texts : List (List Char)) :
    List Char :=
  match texts with
  | [] => [opening, closing]
  | _ => opening :: (gap ++ (',' :: gap).intercalate texts ++ last ++ [closing])

/-- Every part takes at least one character. -/
theorem length_le_intercalate (h : List.Forall₂ (Item part) items texts)
    (separator : List Char) : texts.length ≤ (separator.intercalate texts).length := by
  induction h with
  | nil => exact Nat.zero_le _
  | @cons item text items texts hfirst hrest ih =>
      obtain ⟨c, more, rfl, -⟩ := hfirst.opens
      cases hrest with
      | nil => simp
      | cons hnext hothers =>
          simp only [List.intercalate_cons_cons, List.length_append, List.length_cons] at ih ⊢
          omega

/-- A part is not longer than the collection. -/
theorem length_le_of_mem_intercalate (h : text ∈ texts) (separator : List Char) :
    text.length ≤ (separator.intercalate texts).length := by
  induction texts with
  | nil => cases h
  | cons first texts ih =>
      cases texts with
      | nil =>
          obtain rfl := List.mem_singleton.1 h
          simp
      | cons next texts =>
          rw [List.intercalate_cons_cons]
          rcases List.mem_cons.1 h with rfl | hrest
          · simp only [List.length_append]
            omega
          · have hlength := ih hrest
            simp only [List.length_append]
            omega

/-- The parts of a collection are read one after the other, each up to a comma or the end. -/
theorem parts_read (h : List.Forall₂ (Item part) items texts) (hne : texts ≠ [])
    (hclosing : closing = ']' ∨ closing = '\x7d') (hgap : Blank gap) (hlast : Blank last)
    {count : Nat} (hcount : texts.length ≤ count) (rest : List Char) :
    parts? part closing count
        (gap ++ ((',' :: gap).intercalate texts ++ (last ++ closing :: rest))) =
      some (items, rest) := by
  have hends : Delimited (last ++ closing :: rest) :=
    delimited_append hlast (delimited_cons (.inr hclosing) rest)
  have hblank := blank_of_closing hclosing
  have hcomma : ',' ≠ closing := by
    rcases hclosing with rfl | rfl <;> decide
  induction h generalizing count with
  | nil => exact absurd rfl hne
  | @cons item text items texts hfirst hrest ih =>
      obtain ⟨count, rfl⟩ := Nat.exists_eq_add_one.2
        (Nat.lt_of_lt_of_le (Nat.succ_pos texts.length) hcount)
      -- The last part stands in front of a gap and the end, every other one in front of a comma.
      cases hrest with
      | nil =>
          rw [List.intercalate_singleton, parts?, hfirst.reads hgap hends]
          simp [skip_blanks_append hlast, skip_blanks_cons hblank]
      | @cons next nextText items texts hnext hothers =>
          have hread := ih (List.cons_ne_nil _ _) (Nat.le_of_succ_le_succ hcount)
          rw [List.intercalate_cons_cons, List.append_assoc, List.append_assoc, parts?,
            List.cons_append, hfirst.reads hgap (delimited_cons (.inl rfl) _)]
          simp [skip_blanks_cons (show isBlank ',' = false from rfl), hcomma, hread]

/-- A collection with anything in front of its end has parts. -/
theorem collection_of_opens (hgap : Blank gap) (h : Opens text)
    (hclosing : closing = ']' ∨ closing = '\x7d') :
    collection? part closing (gap ++ text) =
      parts? part closing (gap ++ text).length (gap ++ text) := by
  have hskip := skip_blanks_of_opens hgap h
  obtain ⟨c, more, rfl, -, hbracket, hbrace⟩ := h
  have hne : c ≠ closing := by
    rcases hclosing with rfl | rfl
    · exact hbracket
    · exact hbrace
  simp [collection?, hskip, hne]

/-- A collection is read back from its parts. -/
theorem collection_read (h : List.Forall₂ (Item part) items texts) {opening : Char}
    (hclosing : closing = ']' ∨ closing = '\x7d') (hgap : Blank gap) (hlast : Blank last)
    {whole : List Char} (hwhole : enclosed opening closing gap last texts = opening :: whole)
    (rest : List Char) : collection? part closing (whole ++ rest) = some (items, rest) := by
  have hblank := blank_of_closing hclosing
  have hitems := h
  cases h with
  | nil =>
      obtain rfl : [closing] = whole := (List.cons.inj hwhole).2
      simp [collection?, skip_blanks_cons hblank]
  | @cons item text items texts hfirst hrest =>
      obtain rfl := (List.cons.inj hwhole).2
      have hopens : Opens
          ((',' :: gap).intercalate (text :: texts) ++ (last ++ closing :: rest)) := by
        refine Opens.append ?_ _
        cases texts with
        | nil => simpa using hfirst.opens
        | cons next texts =>
            rw [List.intercalate_cons_cons, List.append_assoc]
            exact hfirst.opens.append _
      rw [List.append_assoc, List.append_assoc, List.append_assoc, List.singleton_append,
        collection_of_opens hgap hopens hclosing]
      refine parts_read hitems (List.cons_ne_nil _ _) hclosing hgap hlast ?_ rest
      have hcount := length_le_intercalate hitems (',' :: gap)
      simp only [List.length_append] at hcount ⊢
      omega

end Collections

/-! ## Values -/

namespace Value

/-- The values that are written here: all numbers in them are whole. -/
inductive Whole : Value → Prop
  | null : Whole null
  | bool (value : Bool) : Whole (bool value)
  | number (value : Nat) : Whole (ofNat value)
  | string (text : String) : Whole (string text)
  | array {elements : List Value} (h : ∀ element ∈ elements, Whole element) :
      Whole (array elements)
  | object {members : List (String × Value)} (h : ∀ member ∈ members, Whole member.2) :
      Whole (object members)

attribute [simp] Whole.null Whole.bool Whole.number Whole.string

@[simp]
theorem whole_array_iff {elements : List Value} :
    Whole (array elements) ↔ ∀ element ∈ elements, Whole element :=
  ⟨fun h => by cases h; assumption, .array⟩

@[simp]
theorem whole_object_iff {members : List (String × Value)} :
    Whole (object members) ↔ ∀ member ∈ members, Whole member.2 :=
  ⟨fun h => by cases h; assumption, .object⟩

@[simp]
theorem whole_of_option {α : Type} {encode : α → Value} (h : ∀ found, Whole (encode found))
    (value : Option α) : Whole (ofOption encode value) := by
  cases value with
  | none => exact .null
  | some found => exact h found

/-- A value is read from a text that something else follows. -/
structure Reads (value : Value) (text : List Char) : Prop where
  opens : Opens text
  reads : ∀ {depth : Nat} {rest : List Char}, text.length ≤ depth → Delimited rest →
    value? depth (text ++ rest) = some (value, rest)

variable {value : Value} {depth : Nat}

/-- Blanks in front of a value do not matter. -/
theorem value_of_blanks (hgap : Blank gap) (text : List Char) :
    value? depth (gap ++ text) = value? depth text := by
  cases depth with
  | zero => rfl
  | succ depth => simp only [value?, skip_blanks_append hgap]

/-- A value that fits in the depth is a part of an array. -/
theorem Reads.item (h : Reads value text) (hdepth : text.length ≤ depth) :
    Item (value? depth) value text where
  opens := h.opens
  reads := fun hgap hrest => by rw [value_of_blanks hgap, h.reads hdepth hrest]

/-- The text of a member, with a gap in front of its value. -/
def memberText (gap : List Char) (name : String) (text : List Char) : List Char :=
  '"' :: (name.toList.flatMap escapeChar ++ '"' :: ':' :: (gap ++ text))

/-- A member whose value fits in the depth is a part of an object. -/
theorem Reads.member (h : Reads value text) (hgap : Blank gap) (name : String)
    (hdepth : text.length ≤ depth) :
    Item (member? (value? depth)) (name, value) (memberText gap name text) where
  opens := ⟨'"', _, rfl, by decide⟩
  reads := fun {front rest} hfront hrest => by
    have hquote : skipBlanks (front ++ (memberText gap name text ++ rest)) =
        '"' :: (name.toList.flatMap escapeChar ++ '"' :: ':' :: (gap ++ (text ++ rest))) := by
      rw [skip_blanks_append hfront, memberText, List.cons_append, skip_blanks_cons (by decide)]
      simp
    have hvalue : value? depth (gap ++ (text ++ rest)) = some (value, rest) := by
      rw [value_of_blanks hgap, h.reads hdepth hrest]
    simp [member?, hquote, string_of_quoted, skip_blanks_cons (show isBlank ':' = false from rfl),
      hvalue]

theorem reads_null : Reads null "null".toList where
  opens := ⟨'n', _, rfl, by decide⟩
  reads := fun hdepth _ => by
    obtain ⟨depth, rfl⟩ := Nat.exists_eq_add_one.2 (Nat.lt_of_lt_of_le (by decide) hdepth)
    rfl

theorem reads_bool (value : Bool) : Reads (bool value) (compact (bool value)).toList where
  opens := by
    cases value
    · exact ⟨'f', _, rfl, by decide⟩
    · exact ⟨'t', _, rfl, by decide⟩
  reads := fun hdepth _ => by
    cases value <;>
    · obtain ⟨depth, rfl⟩ := Nat.exists_eq_add_one.2 (Nat.lt_of_lt_of_le (by decide) hdepth)
      rfl

theorem reads_string (text : String) : Reads (string text) (quote text).toList where
  opens := ⟨'"', text.toList.flatMap escapeChar ++ ['"'], by simp [quote], by decide⟩
  reads := fun {depth rest} hdepth _ => by
    have hquote : (quote text).toList ++ rest =
        '"' :: (text.toList.flatMap escapeChar ++ '"' :: rest) := by
      simp [quote]
    have hpositive : 0 < (quote text).toList.length := by simp [quote]
    obtain ⟨depth, rfl⟩ := Nat.exists_eq_add_one.2 (Nat.lt_of_lt_of_le hpositive hdepth)
    rw [hquote, value?, skip_blanks_cons (by decide)]
    simp [string_of_quoted]

theorem opens_of_digit {c : Char} (h : c.isDigit = true) (rest : List Char) :
    Opens (c :: rest) := by
  refine ⟨c, rest, rfl, ?_, ?_, ?_⟩
  · simp only [isBlank, Bool.or_eq_false_iff, beq_eq_false_iff_ne]
    refine ⟨⟨⟨?_, ?_⟩, ?_⟩, ?_⟩ <;>
    · rintro rfl
      cases h
  all_goals
    rintro rfl
    cases h

/-- What starts with a digit is a number. -/
theorem value_of_digit {c : Char} (h : c.isDigit = true) (rest : List Char) :
    value? (depth + 1) (c :: rest) =
      (number? (c :: rest)).map fun (text, rest) => (.number text, rest) := by
  obtain ⟨_, _, ⟨⟩, hblank, -⟩ := opens_of_digit h rest
  rw [value?, skip_blanks_cons hblank]
  split
  case h_5 c rest _ _ _ _ heq =>
    obtain ⟨rfl, rfl⟩ := List.cons.inj heq
    rw [if_pos h]
  case h_6 heq => cases heq
  all_goals
    rename_i heq
    obtain ⟨rfl, rfl⟩ := List.cons.inj heq
    cases h

theorem reads_number (number : Nat) : Reads (ofNat number) (numeral number) := by
  obtain ⟨c, digits, hnumeral, hdigit⟩ := (digits_numeral number).exists_cons
  refine ⟨hnumeral ▸ opens_of_digit hdigit digits, fun {depth rest} hdepth hrest => ?_⟩
  have hread := number_of_numeral_text number hrest
  rw [hnumeral] at hdepth hread ⊢
  obtain ⟨depth, rfl⟩ := Nat.exists_eq_add_one.2 (Nat.lt_of_lt_of_le (Nat.succ_pos _) hdepth)
  rw [List.cons_append] at hread ⊢
  rw [value_of_digit hdigit, hread]
  rfl

/-- The text of a collection starts with its opening bracket, and each of its parts is shorter. -/
theorem enclosed_cons (opening closing : Char) (gap last : List Char)
    (texts : List (List Char)) :
    ∃ whole, enclosed opening closing gap last texts = opening :: whole ∧
      ∀ text ∈ texts, text.length ≤ whole.length := by
  cases texts with
  | nil => exact ⟨[closing], rfl, fun _ h => by cases h⟩
  | cons first texts =>
      refine ⟨_, rfl, fun text htext => ?_⟩
      have hlength := length_le_of_mem_intercalate htext (',' :: gap)
      simp only [List.length_append] at hlength ⊢
      omega

variable (render : Value → List Char)

/-- An array is read back from the texts of its elements. -/
theorem reads_array {elements : List Value}
    (h : ∀ element ∈ elements, Reads element (render element)) (hgap : Blank gap)
    (hlast : Blank last) :
    Reads (array elements) (enclosed '[' ']' gap last (elements.map render)) := by
  obtain ⟨whole, hwhole, hparts⟩ := enclosed_cons '[' ']' gap last (elements.map render)
  refine ⟨⟨'[', whole, hwhole, by decide⟩, fun {depth rest} hdepth hrest => ?_⟩
  rw [hwhole] at hdepth ⊢
  obtain ⟨depth, rfl⟩ := Nat.exists_eq_add_one.2 (Nat.lt_of_lt_of_le (Nat.succ_pos _) hdepth)
  -- The brackets take up the level that the elements lack.
  have hitems : List.Forall₂ (Item (value? depth)) elements (elements.map render) := by
    refine List.forall₂_map_right_iff.2 (List.forall₂_same.2 fun element helement => ?_)
    have hlength := hparts _ (List.mem_map_of_mem helement)
    exact (h element helement).item (Nat.le_trans hlength (Nat.le_of_succ_le_succ hdepth))
  rw [List.cons_append, value?, skip_blanks_cons (by decide)]
  simp [collection_read hitems (.inl rfl) hgap hlast hwhole]

/-- An object is read back from its names and the texts of its values. -/
theorem reads_object {members : List (String × Value)} {space : List Char}
    (h : ∀ member ∈ members, Reads member.2 (render member.2)) (hspace : Blank space)
    (hgap : Blank gap) (hlast : Blank last) :
    Reads (object members) (enclosed '\x7b' '\x7d' gap last
      (members.map fun member => memberText space member.1 (render member.2))) := by
  obtain ⟨whole, hwhole, hparts⟩ := enclosed_cons '\x7b' '\x7d' gap last
    (members.map fun member => memberText space member.1 (render member.2))
  refine ⟨⟨'\x7b', whole, hwhole, by decide⟩, fun {depth rest} hdepth hrest => ?_⟩
  rw [hwhole] at hdepth ⊢
  obtain ⟨depth, rfl⟩ := Nat.exists_eq_add_one.2 (Nat.lt_of_lt_of_le (Nat.succ_pos _) hdepth)
  have hitems : List.Forall₂ (Item (member? (value? depth))) members
      (members.map fun member => memberText space member.1 (render member.2)) := by
    refine List.forall₂_map_right_iff.2 (List.forall₂_same.2 fun member hmember => ?_)
    have hlength := hparts _ (List.mem_map_of_mem hmember)
    refine (h member hmember).member hspace member.1 ?_
    simp only [memberText, List.length_cons, List.length_append] at hlength hdepth
    omega
  rw [List.cons_append, value?, skip_blanks_cons (by decide)]
  simp [collection_read hitems (.inr rfl) hgap hlast hwhole]

/-! ## Texts -/

theorem compact_all_eq (elements : List Value) : compactAll elements = elements.map compact := by
  induction elements with
  | nil => rfl
  | cons element elements ih => rw [compactAll, ih, List.map_cons]

theorem compact_members_eq (members : List (String × Value)) :
    (compactMembers members).map String.toList =
      members.map fun member => memberText [] member.1 member.2.compact.toList := by
  induction members with
  | nil => rfl
  | cons member members ih =>
      rw [compactMembers, List.map_cons, ih, List.map_cons]
      simp [memberText, quote]

theorem pretty_all_eq (level : Nat) (elements : List Value) :
    prettyAll level elements = elements.map (prettyAt level) := by
  induction elements with
  | nil => rfl
  | cons element elements ih => rw [prettyAll, ih, List.map_cons]

theorem pretty_members_eq (level : Nat) (members : List (String × Value)) :
    (prettyMembers level members).map String.toList =
      members.map fun member => memberText [' '] member.1 (member.2.prettyAt level).toList := by
  induction members with
  | nil => rfl
  | cons member members ih =>
      rw [prettyMembers, List.map_cons, ih, List.map_cons]
      simp [memberText, quote]

/-- The compact text of a collection leaves no gaps. -/
theorem join_eq_enclosed (opening closing : Char) (texts : List String) :
    (String.ofList [opening] ++ ",".intercalate texts ++ String.ofList [closing]).toList =
      enclosed opening closing [] [] (texts.map String.toList) := by
  cases texts with
  | nil => simp [enclosed]
  | cons text texts => simp [enclosed, String.toList_intercalate]

theorem blank_line_break (level : Nat) : Blank (lineBreak level).toList := by
  intro c hc
  simp only [lineBreak, String.toList_append, String.toList_ofList, List.mem_append,
    List.mem_replicate] at hc
  rcases hc with hc | ⟨-, rfl⟩
  · obtain rfl : c = '\n' := by simpa using hc
    rfl
  · rfl

theorem lay_out_eq_enclosed (level : Nat) (opening closing : Char) (texts : List String) :
    (layOut level (String.ofList [opening]) (String.ofList [closing]) texts).toList =
      enclosed opening closing (lineBreak (level + 1)).toList (lineBreak level).toList
        (texts.map String.toList) := by
  cases texts with
  | nil => simp [layOut, enclosed]
  | cons text texts => simp [layOut, enclosed, String.toList_intercalate]

theorem Whole.reads_compact (h : Whole value) : Reads value value.compact.toList := by
  induction h with
  | null => exact reads_null
  | bool value => exact reads_bool value
  | number value => exact reads_number value
  | string text => exact reads_string text
  | @array elements _ ih =>
      have htext := join_eq_enclosed '[' ']' (compactAll elements)
      rw [compact_all_eq, List.map_map] at htext
      rw [compact, compact_all_eq]
      exact htext ▸ reads_array _ ih blank_nil blank_nil
  | @object members _ ih =>
      have htext := join_eq_enclosed '\x7b' '\x7d' (compactMembers members)
      rw [compact_members_eq] at htext
      rw [compact]
      exact htext ▸ reads_object (fun value => value.compact.toList) ih blank_nil blank_nil
        blank_nil

theorem Whole.reads_pretty (h : Whole value) (level : Nat) :
    Reads value (value.prettyAt level).toList := by
  induction h generalizing level with
  | null => exact reads_null
  | bool value => cases value <;> exact reads_bool _
  | number value => exact reads_number value
  | string text => exact reads_string text
  | @array elements _ ih =>
      have htext := lay_out_eq_enclosed level '[' ']' (prettyAll (level + 1) elements)
      rw [pretty_all_eq, List.map_map] at htext
      rw [prettyAt, pretty_all_eq]
      exact htext ▸ reads_array _ (fun element helement => ih element helement (level + 1))
        (blank_line_break _) (blank_line_break _)
  | @object members _ ih =>
      have htext := lay_out_eq_enclosed level '\x7b' '\x7d' (prettyMembers (level + 1) members)
      rw [pretty_members_eq] at htext
      rw [prettyAt]
      exact htext ▸ reads_object (fun value => (value.prettyAt (level + 1)).toList)
        (fun member hmember => ih member hmember (level + 1)) blank_space (blank_line_break _)
        (blank_line_break _)

theorem parse_of_reads {text : String} (h : Reads value text.toList) :
    parse? text = some value := by
  have hdepth : text.toList.length ≤ text.length + 1 := by
    rw [String.length_toList]
    exact Nat.le_succ _
  have hread := h.reads hdepth delimited_nil
  rw [List.append_nil] at hread
  rw [parse?, hread]
  rfl

/-- A value is read back from its text without blanks. -/
theorem Whole.parse_compact (h : Whole value) : parse? value.compact = some value :=
  parse_of_reads h.reads_compact

/-- A value is read back from its text with one part on a line. -/
theorem Whole.parse_pretty (h : Whole value) : parse? value.pretty = some value :=
  parse_of_reads (h.reads_pretty 0)

end Value

end NamingLint.Json
