import Mathlib.Data.List.Infix
import NamingLint.Proofs.Text.Reading

/-!
# Commands of workflow runs

A command is a line `::level key=value,…::message`. Some characters may be written as codes in the
values and in the message. `Command.of_line_iff` says which commands are read back from the line
that they are written as without any codes, and `Command.length_le_of_line` that no shorter line is
read as the same command.
-/

namespace NamingLint.Report

/-- What a command of a workflow run says. -/
structure Command where
  level : List Char
  properties : List (List Char × List Char)
  message : List Char
  deriving DecidableEq, Repr

namespace Command

/-! ## Reading -/

/-- A text with the characters that its codes stand for. -/
def unescape : List Char → List Char
  | '%' :: '2' :: '5' :: rest => '%' :: unescape rest
  | '%' :: '0' :: 'D' :: rest => '\r' :: unescape rest
  | '%' :: '0' :: 'A' :: rest => '\n' :: unescape rest
  | '%' :: '3' :: 'A' :: rest => ':' :: unescape rest
  | '%' :: '2' :: 'C' :: rest => ',' :: unescape rest
  | c :: rest => c :: unescape rest
  | [] => []

/-- What stands before the first `::` and behind it. -/
def aroundColons? : List Char → Option (List Char × List Char)
  | ':' :: ':' :: rest => some ([], rest)
  | c :: rest => (aroundColons? rest).map fun (front, back) => (c :: front, back)
  | [] => none

/-- What stands before the first mark and behind it. -/
def around? (mark : Char) : List Char → Option (List Char × List Char)
  | [] => none
  | c :: rest =>
    if c = mark then some ([], rest)
    else (around? mark rest).map fun (front, back) => (c :: front, back)

/-- A property `key=value`. -/
def property? (text : List Char) : Option (List Char × List Char) :=
  (around? '=' text).map fun (key, value) => (key, unescape value)

/-- The command that a line is. -/
def ofLine? : List Char → Option Command
  | ':' :: ':' :: rest => do
    let (header, message) ← aroundColons? rest
    let (level, properties) ← around? ' ' header
    return ⟨level, ← (properties.splitOn ',').mapM property?, unescape message⟩
  | _ => none

/-- The lines of a text. A line ends with a line feed, a carriage return or both. -/
def lines : List Char → List (List Char)
  | [] => []
  | '\r' :: '\n' :: rest => [] :: lines rest
  | c :: rest =>
    if c = '\n' ∨ c = '\r' then [] :: lines rest
    else match lines rest with
      | [] => [[c]]
      | line :: more => (c :: line) :: more

/-! ## Writing without codes -/

/-- A property as it is. -/
def propertyText (property : List Char × List Char) : List Char :=
  property.1 ++ '=' :: property.2

/-- What stands between the colons. -/
def header (command : Command) : List Char :=
  command.level ++ ' ' :: [','].intercalate (command.properties.map propertyText)

/-- The line of a command as it is. -/
def line (command : Command) : List Char :=
  ':' :: ':' :: (command.header ++ ':' :: ':' :: command.message)

variable {text front back : List Char} {mark : Char} {command : Command}

/-! ## Codes -/

theorem length_unescape_le (text : List Char) : (unescape text).length ≤ text.length := by
  fun_induction unescape text <;> simp only [List.length_cons, List.length_nil] at * <;> omega

/-- Each code is longer than the character that it stands for. -/
theorem unescape_of_length (h : (unescape text).length = text.length) : unescape text = text := by
  fun_induction unescape text with
  | case1 rest | case2 rest | case3 rest | case4 rest | case5 rest =>
      have hle := length_unescape_le rest
      simp only [List.length_cons] at h
      omega
  | case6 c rest _ _ _ _ _ ih => rw [ih (Nat.succ.inj h)]
  | case7 => rfl

/-- The codes that may stand for characters. -/
def codes : List (List Char) :=
  ["%25".toList, "%0D".toList, "%0A".toList, "%3A".toList, "%2C".toList]

/-- A text is left as it is exactly if there is no code in it. -/
theorem unescape_eq_iff : unescape text = text ↔ ∀ code ∈ codes, ¬ code <:+: text := by
  fun_induction unescape text with
  | case1 rest ih | case2 rest ih | case3 rest ih | case4 rest ih | case5 rest ih =>
      have hne (c d e f : Char) : f :: unescape rest ≠ c :: d :: e :: rest := fun h => by
        have hlength := congrArg List.length h
        have hle := length_unescape_le rest
        simp only [List.length_cons] at hlength
        omega
      simp [codes, hne, List.infix_cons_iff, List.cons_prefix_cons]
  | case6 c rest h25 h0D h0A h3A h2C ih =>
      have hstart : ∀ code ∈ codes, ¬ code <+: c :: rest := by
        rintro code hcode ⟨more, hmore⟩
        simp only [codes, List.mem_cons, List.not_mem_nil, or_false] at hcode
        rcases hcode with rfl | rfl | rfl | rfl | rfl <;> obtain ⟨rfl, rfl⟩ := List.cons.inj hmore
        · exact h25 _ rfl rfl
        · exact h0D _ rfl rfl
        · exact h0A _ rfl rfl
        · exact h3A _ rfl rfl
        · exact h2C _ rfl rfl
      simp only [List.cons.injEq, true_and, ih, List.infix_cons_iff]
      exact forall₂_congr fun code hcode => by simp [hstart code hcode]
  | case7 => simp [codes]

/-! ## Marks -/

theorem around_append (h : mark ∉ front) :
    around? mark (front ++ mark :: back) = some (front, back) := by
  induction front with
  | nil => simp [around?]
  | cons c front ih =>
      obtain ⟨hc, hfront⟩ := List.ne_and_not_mem_of_not_mem_cons h
      simp [around?, hc.symm, ih hfront]

theorem eq_of_around (h : around? mark text = some (front, back)) :
    text = front ++ mark :: back := by
  induction text generalizing front with
  | nil => cases h
  | cons c text ih =>
      unfold around? at h
      split at h
      · next hc =>
          cases h
          rw [hc, List.nil_append]
      · obtain ⟨⟨rest, _⟩, hrest, hfront⟩ := Option.map_eq_some_iff.1 h
        cases hfront
        rw [ih hrest, List.cons_append]

/-- No pair of colons starts at a character that none starts at in the whole text. -/
theorem not_colons_of_single {c : Char} {rest : List Char}
    (hsingle : ∀ more, c = ':' → rest = ':' :: more → False)
    (hrest : rest = front ++ ':' :: ':' :: back) : ¬ [':', ':'] <+: c :: (front ++ [':']) := by
  intro hstart
  obtain ⟨hc, hnext⟩ := List.cons_prefix_cons.1 hstart
  cases front with
  | nil => exact hsingle _ hc.symm hrest
  | cons d front =>
      have hd : ':' = d := (List.cons_prefix_cons.1 hnext).1
      rw [← hd] at hrest
      exact hsingle _ hc.symm hrest

/-- The colons that are found are the first ones, also among those that they belong to. -/
theorem around_colons_iff : aroundColons? text = some (front, back) ↔
    text = front ++ ':' :: ':' :: back ∧ ¬ [':', ':'] <:+: front ++ [':'] := by
  fun_induction aroundColons? text generalizing front with
  | case1 rest =>
      match front with
      | [] => simp [List.infix_cons_iff]
      | [c] =>
          constructor
          · rintro ⟨⟩
          · rintro ⟨htext, hfront⟩
            obtain ⟨rfl, -⟩ := List.cons.inj htext
            exact absurd List.infix_rfl hfront
      | c :: d :: front => simp +contextual [List.infix_cons_iff, eq_comm]
  | case2 c rest hcolons ih =>
      cases front with
      | nil =>
          have hne : c :: rest ≠ ':' :: ':' :: back := by
            rintro ⟨⟩
            exact hcolons back rfl rfl
          simp [hne]
      | cons d front =>
          have hsome : (aroundColons? rest).map (fun (front, back) => (c :: front, back)) =
              some (d :: front, back) ↔ c = d ∧ aroundColons? rest = some (front, back) := by
            cases aroundColons? rest <;> simp [Prod.ext_iff, and_assoc]
          rw [hsome, ih]
          constructor
          · rintro ⟨rfl, hrest, hfront⟩
            refine ⟨by rw [hrest]; rfl, fun hinside => ?_⟩
            rcases List.infix_cons_iff.1 hinside with hstart | hinside
            · exact not_colons_of_single hcolons hrest hstart
            · exact hfront hinside
          · rintro ⟨hrest, hfront⟩
            obtain ⟨rfl, htail⟩ := List.cons.inj hrest
            exact ⟨rfl, htail, fun hinside => hfront (List.infix_cons hinside)⟩
  | case3 => simp

theorem not_mem_of_mem_split {piece : List Char} (h : piece ∈ text.splitOn mark) :
    mark ∉ piece := by
  induction text generalizing piece with
  | nil =>
      obtain rfl : piece = [] := by simpa using h
      exact List.not_mem_nil
  | cons c text ih =>
      rw [List.splitOn_cons_eq_if_modifyHead] at h
      split at h
      · rcases List.mem_cons.1 h with rfl | hrest
        · exact List.not_mem_nil
        · exact ih hrest
      · next hc =>
          obtain ⟨first, pieces, hpieces⟩ :=
            List.exists_cons_of_ne_nil (List.splitOn_ne_nil mark text)
          rw [hpieces] at h ih
          rcases List.mem_cons.1 h with rfl | hrest
          · have hfirst := ih List.mem_cons_self
            rw [List.mem_cons, not_or]
            exact ⟨fun hmark => hc (beq_iff_eq.2 hmark.symm), hfirst⟩
          · exact ih (List.mem_cons_of_mem _ hrest)

/-! ## One line -/

/-- The level and the keys end where they should. -/
structure Named (command : Command) : Prop where
  level : ' ' ∉ command.level
  keys : ∀ property ∈ command.properties, '=' ∉ property.1 ∧ ',' ∉ property.1
  nonempty : command.properties ≠ []

/-- Nothing in a command is taken for something else: no value ends early, no code stands in the
values or the message, and the first colons are those in front of the message. -/
structure Literal (command : Command) : Prop where
  values : ∀ property ∈ command.properties, ',' ∉ property.2 ∧ unescape property.2 = property.2
  colons : ¬ [':', ':'] <:+: command.header ++ [':']
  message : unescape command.message = command.message

theorem property_of_text {property : List Char × List Char} (hkey : '=' ∉ property.1)
    (hvalue : unescape property.2 = property.2) :
    property? (propertyText property) = some property := by
  rw [property?, propertyText, around_append hkey]
  simp [hvalue]

/-- A command in which nothing is taken for something else is read back from its line. -/
theorem of_line (hnamed : command.Named) (h : command.Literal) :
    ofLine? command.line = some command := by
  have hcolons : aroundColons? (command.header ++ ':' :: ':' :: command.message) =
      some (command.header, command.message) := around_colons_iff.2 ⟨rfl, h.colons⟩
  have hspace : around? ' ' command.header = some (command.level,
      [','].intercalate (command.properties.map propertyText)) := around_append hnamed.level
  have hpieces : ([','].intercalate (command.properties.map propertyText)).splitOn ',' =
      command.properties.map propertyText := by
    refine List.splitOn_intercalate _ (fun text htext => ?_) (by simpa using hnamed.nonempty)
    obtain ⟨property, hproperty, rfl⟩ := List.mem_map.1 htext
    simp [propertyText, (hnamed.keys property hproperty).2, (h.values property hproperty).1]
  have hproperties : (command.properties.map propertyText).mapM property? =
      some command.properties :=
    map_m_eq_some_iff.2 (List.forall₂_map_left_iff.2 (List.forall₂_same.2 fun property hproperty =>
      property_of_text (hnamed.keys property hproperty).1 (h.values property hproperty).2))
  rw [line, ofLine?, hcolons]
  simp [hspace, hpieces, hproperties, h.message]

theorem length_le_of_property {property : List Char × List Char}
    (h : property? text = some property) : (propertyText property).length ≤ text.length ∧
      ((propertyText property).length = text.length →
        propertyText property = text ∧ unescape property.2 = property.2) := by
  obtain ⟨⟨key, value⟩, haround, rfl⟩ := Option.map_eq_some_iff.1 h
  have htext := eq_of_around haround
  have hvalue := length_unescape_le value
  subst htext
  simp only [propertyText, List.length_append, List.length_cons]
  refine ⟨by omega, fun hlength => ?_⟩
  have hplain := unescape_of_length (show (unescape value).length = value.length by omega)
  rw [hplain]
  exact ⟨rfl, hplain⟩

theorem length_le_of_properties {pieces : List (List Char)}
    {properties : List (List Char × List Char)}
    (h : List.Forall₂ (fun piece property => property? piece = some property) pieces properties) :
    ([','].intercalate (properties.map propertyText)).length ≤
        ([','].intercalate pieces).length ∧
      (([','].intercalate (properties.map propertyText)).length =
          ([','].intercalate pieces).length →
        properties.map propertyText = pieces ∧
          ∀ property ∈ properties, unescape property.2 = property.2) := by
  induction h with
  | nil => simp
  | @cons piece property pieces properties hfirst hrest ih =>
      obtain ⟨hle, hsame⟩ := length_le_of_property hfirst
      obtain ⟨hleRest, hsameRest⟩ := ih
      cases hrest with
      | nil =>
          simp only [List.map_cons, List.map_nil, List.intercalate_singleton]
          refine ⟨hle, fun hlength => ?_⟩
          obtain ⟨htext, hplain⟩ := hsame hlength
          exact ⟨by rw [htext], by simpa using hplain⟩
      | @cons next nextProperty pieces properties hnext hothers =>
          simp only [List.map_cons, List.intercalate_cons_cons, List.length_append] at *
          refine ⟨by omega, fun hlength => ?_⟩
          obtain ⟨htext, hplain⟩ := hsame (by omega)
          obtain ⟨htexts, hplains⟩ := hsameRest (by omega)
          exact ⟨by rw [htext, htexts], List.forall_mem_cons.2 ⟨hplain, hplains⟩⟩

/-- A line is at least as long as that of the command which it is read as, and if it is no longer it
is that line and nothing in it is taken for something else. -/
theorem length_le_of_line (h : ofLine? text = some command) :
    command.line.length ≤ text.length ∧
      (command.line.length = text.length → command.line = text ∧ command.Literal) := by
  unfold ofLine? at h
  split at h
  · simp only [Option.bind_eq_bind, Option.bind_eq_some_iff, Option.pure_def,
      Option.some.injEq] at h
    obtain ⟨⟨head, message⟩, hcolons, ⟨level, list⟩, hspace, properties, hproperties, rfl⟩ := h
    obtain ⟨rfl, hfirst⟩ := around_colons_iff.1 hcolons
    obtain rfl := eq_of_around hspace
    -- No part of the line is shorter than what is read from it, so in a line of the same length all
    -- parts are as they are read.
    obtain ⟨hle, hsame⟩ := length_le_of_properties (map_m_eq_some_iff.1 hproperties)
    rw [List.intercalate_splitOn] at hle hsame
    have hmessage := length_unescape_le message
    simp only [line, header, List.length_cons, List.length_append] at hle hsame ⊢
    refine ⟨by omega, fun hlength => ?_⟩
    obtain ⟨htexts, hplain⟩ := hsame (by omega)
    have hlist : [','].intercalate (properties.map propertyText) = list := by
      rw [htexts, List.intercalate_splitOn]
    have hback : unescape message = message := unescape_of_length (by omega)
    refine ⟨by rw [hlist, hback], ⟨fun property hproperty => ?_, ?_, ?_⟩⟩
    · have hpiece := not_mem_of_mem_split (htexts ▸ List.mem_map_of_mem hproperty)
      simp only [propertyText, List.mem_append, List.mem_cons, not_or] at hpiece
      exact ⟨hpiece.2.2, hplain property hproperty⟩
    · rw [header, hlist]
      exact hfirst
    · exact congrArg unescape hback
  · cases h

theorem of_line_iff (h : command.Named) : ofLine? command.line = some command ↔ command.Literal :=
  ⟨fun hread => ((length_le_of_line hread).2 rfl).2, of_line h⟩

/-! ## All lines -/

/-- Nothing in a text ends a line. -/
def Unbroken (text : List Char) : Prop :=
  ∀ c ∈ text, c ≠ '\n' ∧ c ≠ '\r'

theorem lines_of_unbroken (h : Unbroken front) (rest : List Char) :
    lines (front ++ '\n' :: rest) = front :: lines rest := by
  induction front with
  | nil => simp [lines]
  | cons c front ih =>
      obtain ⟨hc, hfront⟩ := List.forall_mem_cons.1 h
      rw [List.cons_append, lines, ih hfront]
      · simp [hc]
      · intro more hreturn
        exact absurd hreturn hc.2

theorem lines_of_break {c : Char} (h : c = '\n' ∨ c = '\r') (text : List Char) :
    ∃ more, lines (c :: text) = [] :: more := by
  unfold lines
  split
  · next heq => cases heq
  · exact ⟨_, rfl⟩
  · next heq =>
      obtain ⟨rfl, rfl⟩ := List.cons.inj heq
      exact ⟨_, if_pos h⟩

/-- A text that something in it ends is not the first line. -/
theorem lines_of_broken (h : ¬ Unbroken front) (rest : List Char) :
    ∃ first more, lines (front ++ '\n' :: rest) = first :: more ∧ first.length < front.length := by
  induction front with
  | nil => exact absurd (by simp [Unbroken]) h
  | cons c front ih =>
      by_cases hc : c = '\n' ∨ c = '\r'
      · obtain ⟨more, hmore⟩ := lines_of_break hc (front ++ '\n' :: rest)
        exact ⟨[], more, hmore, Nat.succ_pos _⟩
      · have hfront : ¬ Unbroken front := fun hfront =>
          h (List.forall_mem_cons.2 ⟨not_or.1 hc, hfront⟩)
        obtain ⟨first, more, hlines, hlength⟩ := ih hfront
        refine ⟨c :: first, more, ?_, Nat.succ_lt_succ hlength⟩
        rw [List.cons_append, lines, hlines]
        · simp [hc]
        · intro more hreturn
          exact absurd (.inr hreturn) hc

end Command

end NamingLint.Report
