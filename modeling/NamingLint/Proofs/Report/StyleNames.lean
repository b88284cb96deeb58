import NamingLint.Proofs.Unicode.Ascii
import NamingLint.Report.Render

/-!
# Names of styles

A style is found by its name in any letter case (`named_in_any_case`). The name is lowered as any
text is; that this finds nothing but what differs from a name in the case of letters of ASCII rests on
what lowering makes of all other characters.
-/

namespace NamingLint.Report.Style

open NamingLint.Unicode (IsBeyondAscii lowercaseText)

variable {text : String} {style : Style}

/-- No two styles have the same name. -/
theorem of_name_iff : ofName? text = some style ↔ lowercaseText text = style.name := by
  constructor
  · intro h
    have hname := List.find?_some h
    exact (beq_iff_eq.1 hname).symm
  · intro h
    unfold ofName?
    rw [h]
    cases style <;> decide

/-- The names are of ASCII and do without the letter `k`. -/
theorem name_letters (style : Style) : ∀ c ∈ style.name.toList, c ≠ 'k' ∧ ¬ IsBeyondAscii c := by
  have hall : style.name.toList.all (fun c => decide (c ≠ 'k' ∧ ¬ IsBeyondAscii c)) = true := by
    cases style <;> decide
  intro c hc
  exact of_decide_eq_true (List.all_eq_true.1 hall c hc)

theorem to_list_to_lower : text.toLower.toList = text.toList.map Char.toLower :=
  String.toList_map

theorem lower_name (style : Style) : style.name.toLower = style.name := by
  rw [← String.toList_inj, to_list_to_lower]
  cases style <;> decide

/-- The name of a style has no other lower-case forms than those of its letters. -/
theorem lowercase_text_iff : lowercaseText text = style.name ↔ text.toLower = style.name.toLower := by
  rw [lower_name, ← String.toList_inj, ← String.toList_inj, lowercaseText, String.toList_ofList,
    Unicode.lower_behind_eq_iff (name_letters style), to_list_to_lower]

/-- A text with a character outside of ASCII names no style. -/
theorem of_name_beyond_ascii (h : ∃ c ∈ text.toList, IsBeyondAscii c) : ofName? text = none := by
  refine Option.eq_none_iff_forall_ne_some.2 fun style hstyle => ?_
  have hname : Unicode.lowerBehind [] text.toList = style.name.toList := by
    rw [← of_name_iff.1 hstyle, lowercaseText, String.toList_ofList]
  obtain ⟨lowered, hmem, hlowered⟩ := Unicode.lower_behind_beyond_ascii h
  rw [hname] at hmem
  obtain ⟨hne, hascii⟩ := name_letters style lowered hmem
  exact hlowered.elim hne hascii

/-- A text names a style exactly if it is the name of the style up to the case of letters of ASCII.
So no text with a character outside of ASCII names a style, although texts are lowered as Unicode has
it, and each of the names does. -/
theorem named_in_any_case (text : String) :
    (∀ style, ofName? text = some style ↔ text.toLower = style.name.toLower) ∧
    ((∃ c ∈ text.toList, IsBeyondAscii c) → ofName? text = none) ∧
    all.map Style.name = ["human", "json", "sarif", "github"] ∧
    ∀ name ∈ all.map Style.name, ∃ style, ofName? name = some style := by
  refine ⟨fun style => ?_, of_name_beyond_ascii, rfl, fun name hname => ?_⟩
  · rw [of_name_iff, lowercase_text_iff]
  · obtain ⟨style, _, rfl⟩ := List.mem_map.1 hname
    exact ⟨style, of_name_iff.2 (lowercase_text_iff.2 rfl)⟩

/-- A dotted capital I is lowered to a small i and a dot, a capital sigma in the end to a letter that
ends words. -/
theorem named_beyond_ascii :
    ofName? "GitHub" = some .github ∧ ofName? "G\u0130THUB" = none ∧
      ofName? "Human\u03A3" = none := by
  obtain ⟨hcase, _⟩ := named_in_any_case "GitHub"
  obtain ⟨_, hdotted, _⟩ := named_in_any_case "G\u0130THUB"
  obtain ⟨_, hsigma, _⟩ := named_in_any_case "Human\u03A3"
  have hgithub : "GitHub".toLower = Style.github.name.toLower := by
    rw [← String.toList_inj, to_list_to_lower, to_list_to_lower]
    decide
  exact ⟨(hcase .github).2 hgithub, hdotted ⟨Char.ofNat 0x130, by decide, by decide⟩,
    hsigma ⟨Unicode.capitalSigma, by decide, by decide⟩⟩

end NamingLint.Report.Style
