import NamingLint.Naming.Casing

/-!
# When a name is reported

`evaluate_some_iff` turns the decision about a name, which is made in steps, into one condition.
`reported_by_first_characters` spells it out in terms of the first two characters of the name, and
says what follows for names that begin alike and for names that more is exempted of.
-/

namespace NamingLint.Naming

/-- A name breaks the lower-case rule and nothing exempts it. -/
structure Reported (identifier : Identifier) (context : Context) (exemptions : Exemptions) :
    Prop where
  present : identifier.present = true
  nonempty : identifier.text.toList ≠ []
  notLowercase : startsWithLowercase identifier.text.toList = false
  notDigit : exemptions.underscoreDigit = true →
    startsWithUnderscoreDigit identifier.text.toList = false
  ordinary : context.container = .ordinary
  unconstrained : context.implementsMember = false

variable {identifier : Identifier} {context : Context} {exemptions : Exemptions}
  {violation : Violation}

/-- A violation is found exactly if the name is reported; it repeats the name and its place. -/
theorem evaluate_some_iff : evaluate identifier context exemptions = some violation ↔
    Reported identifier context exemptions ∧
      violation = ⟨identifier.text, identifier.location⟩ := by
  constructor
  · intro h
    simp only [evaluate] at h
    -- Each exemption rules the violation out, and only the last branch is left.
    repeat' split at h
    any_goals cases h
    rename_i hpresent hlower hdigit hnative himplements
    rw [Bool.not_eq_true, Bool.or_eq_false_iff, Bool.not_eq_false'] at hpresent
    refine ⟨⟨hpresent.1, by simpa using hpresent.2, by simpa using hlower, by simpa using hdigit,
      ?_, by simpa using himplements⟩, rfl⟩
    cases hcontainer : context.container with
    | ordinary => rfl
    | native => exact absurd hcontainer hnative
  · rintro ⟨⟨hpresent, hnonempty, hlower, hdigit, hordinary, himplements⟩, rfl⟩
    have hexempt : (exemptions.underscoreDigit &&
        startsWithUnderscoreDigit identifier.text.toList) = false := by
      cases hallowed : exemptions.underscoreDigit with
      | false => rfl
      | true => exact hdigit hallowed
    simp [evaluate, hpresent, hnonempty, hlower, hexempt, hordinary, himplements]

/-- A violation repeats the name and its place. -/
theorem evaluate_some (h : evaluate identifier context exemptions = some violation) :
    violation = ⟨identifier.text, identifier.location⟩ :=
  (evaluate_some_iff.1 h).2

theorem evaluate_none_iff : evaluate identifier context exemptions = none ↔
    ¬ Reported identifier context exemptions := by
  rw [Option.eq_none_iff_forall_ne_some]
  constructor
  · exact fun h hreported => h _ (evaluate_some_iff.2 ⟨hreported, rfl⟩)
  · exact fun h violation hfound => h (evaluate_some_iff.1 hfound).1

theorem is_some_evaluate_iff : (evaluate identifier context exemptions).isSome = true ↔
    Reported identifier context exemptions := by
  cases h : evaluate identifier context exemptions with
  | none => simpa using evaluate_none_iff.1 h
  | some violation => simpa using (evaluate_some_iff.1 h).1

/-! ## The first two characters -/

section

variable {chars others : List Char}

theorem starts_with_lowercase_iff : startsWithLowercase chars = true ↔
    ∃ first, chars[0]? = some first ∧ Unicode.category first = .lowercaseLetter := by
  cases chars <;> simp [startsWithLowercase, Unicode.isLowercaseLetter]

theorem starts_with_underscore_digit_iff : startsWithUnderscoreDigit chars = true ↔
    chars[0]? = some '_' ∧
      ∃ second, chars[1]? = some second ∧ Unicode.category second = .decimalNumber := by
  unfold startsWithUnderscoreDigit
  split
  · simp [Unicode.isDecimalDigit]
  · rename_i hshape
    refine iff_of_false Bool.false_ne_true ?_
    rintro ⟨hfirst, second, hsecond, _⟩
    match chars, hfirst, hsecond with
    | [_, _], rfl, rfl => exact hshape _ _ rfl
    | _ :: _ :: _ :: _, rfl, rfl => exact hshape _ _ rfl

/-- A name is reported for what its first two characters are. -/
theorem reported_iff : Reported identifier context exemptions ↔
    identifier.present = true ∧
    (∃ first, identifier.text.toList[0]? = some first ∧
      Unicode.category first ≠ .lowercaseLetter ∧
      ¬ (exemptions.underscoreDigit = true ∧ first = '_' ∧
        ∃ second, identifier.text.toList[1]? = some second ∧
          Unicode.category second = .decimalNumber)) ∧
    context.container = .ordinary ∧ context.implementsMember = false := by
  constructor
  · rintro ⟨hpresent, hnonempty, hlower, hdigit, hordinary, hmember⟩
    obtain ⟨first, rest, hchars⟩ := List.exists_cons_of_ne_nil hnonempty
    have hfirst : identifier.text.toList[0]? = some first := by rw [hchars]; rfl
    refine ⟨hpresent, ⟨first, hfirst, fun hletter => ?_, ?_⟩, hordinary, hmember⟩
    · rw [starts_with_lowercase_iff.2 ⟨first, hfirst, hletter⟩] at hlower
      cases hlower
    · rintro ⟨hallowed, rfl, hsecond⟩
      have hnone := hdigit hallowed
      rw [starts_with_underscore_digit_iff.2 ⟨hfirst, hsecond⟩] at hnone
      cases hnone
  · rintro ⟨hpresent, ⟨first, hfirst, hletter, hdigit⟩, hordinary, hmember⟩
    refine ⟨hpresent, ?_, ?_, fun hallowed => ?_, hordinary, hmember⟩
    · rintro hnil
      rw [hnil] at hfirst
      cases hfirst
    · rw [Bool.eq_false_iff, ne_eq, starts_with_lowercase_iff]
      rintro ⟨other, hother, hlower⟩
      obtain rfl := Option.some.inj (hfirst.symm.trans hother)
      exact hletter hlower
    · rw [Bool.eq_false_iff, ne_eq, starts_with_underscore_digit_iff]
      rintro ⟨hunderscore, hsecond⟩
      exact hdigit ⟨hallowed, Option.some.inj (hfirst.symm.trans hunderscore), hsecond⟩

end

/-- Names that begin with the same two characters are reported alike. -/
theorem reported_congr {other : Identifier} (hpresent : other.present = identifier.present)
    (hbegin : other.text.toList.take 2 = identifier.text.toList.take 2) :
    Reported other context exemptions ↔ Reported identifier context exemptions := by
  have hchar (i : Nat) (hi : i < 2) : other.text.toList[i]? = identifier.text.toList[i]? := by
    rw [← List.getElem?_take_of_lt hi, hbegin, List.getElem?_take_of_lt hi]
  simp only [reported_iff, hpresent, hchar 0 (by decide), hchar 1 (by decide)]

/-! ## Exemptions -/

/-- All that exempts the name from being reported in the first case exempts the same name in the
second one. -/
structure ExemptsMore (identifier other : Identifier) (context around : Context)
    (exemptions more : Exemptions) : Prop where
  sameText : other.text = identifier.text
  missing : identifier.present = false → other.present = false
  native : context.container = .native → around.container = .native
  member : context.implementsMember = true → around.implementsMember = true
  underscoreDigit : exemptions.underscoreDigit = true → more.underscoreDigit = true

/-- What is reported in spite of more exemptions is reported. -/
theorem ExemptsMore.reported {other : Identifier} {around : Context} {more : Exemptions}
    (h : ExemptsMore identifier other context around exemptions more)
    (hreported : Reported other around more) : Reported identifier context exemptions := by
  obtain ⟨hpresent, hnonempty, hlower, hdigit, hordinary, hmember⟩ := hreported
  rw [h.sameText] at hnonempty hlower hdigit
  refine ⟨?_, hnonempty, hlower, fun hallowed => hdigit (h.underscoreDigit hallowed), ?_, ?_⟩
  · cases hmissing : identifier.present with
    | true => rfl
    | false => exact absurd (h.missing hmissing) (by simp [hpresent])
  · cases hcontainer : context.container with
    | ordinary => rfl
    | native => exact absurd (h.native hcontainer) (by simp [hordinary])
  · cases himplements : context.implementsMember with
    | false => rfl
    | true => exact absurd (h.member himplements) (by simp [hmember])

/-- A name is reported exactly if it is there, its first character is no letter of category Ll, it is
no underscore in front of a digit of category Nd that the exemptions allow, and neither the
container nor a member that the declaration implements exempts it. So names that begin with the same
two characters are reported alike, and a name that is accepted stays so if more is exempted. -/
theorem reported_by_first_characters (identifier : Identifier) (context : Context)
    (exemptions : Exemptions) :
    (∀ violation, evaluate identifier context exemptions = some violation ↔
      (identifier.present = true ∧
        (∃ first, identifier.text.toList[0]? = some first ∧
          Unicode.category first ≠ .lowercaseLetter ∧
          ¬ (exemptions.underscoreDigit = true ∧ first = '_' ∧
            ∃ second, identifier.text.toList[1]? = some second ∧
              Unicode.category second = .decimalNumber)) ∧
        context.container = .ordinary ∧ context.implementsMember = false) ∧
      violation = ⟨identifier.text, identifier.location⟩) ∧
    (∀ other : Identifier, other.present = identifier.present →
      other.text.toList.take 2 = identifier.text.toList.take 2 →
      (evaluate other context exemptions).isSome =
        (evaluate identifier context exemptions).isSome) ∧
    ∀ other around more, ExemptsMore identifier other context around exemptions more →
      evaluate identifier context exemptions = none → evaluate other around more = none := by
  refine ⟨fun violation => ?_, fun other hpresent hbegin => ?_, fun other around more h hnone => ?_⟩
  · rw [evaluate_some_iff, reported_iff]
  · rw [Bool.eq_iff_iff, is_some_evaluate_iff, is_some_evaluate_iff,
      reported_congr hpresent hbegin]
  · exact evaluate_none_iff.2 fun hreported => evaluate_none_iff.1 hnone (h.reported hreported)

theorem underscore_digit_exempted :
    evaluate ⟨"_1x", ⟨3, 9⟩, true⟩ {} {} = some ⟨"_1x", ⟨3, 9⟩⟩ ∧
    (evaluate ⟨"_1Z", ⟨7, 1⟩, true⟩ {} {}).isSome = true ∧
    evaluate ⟨"_1x", ⟨3, 9⟩, true⟩ {} ⟨true⟩ = none ∧
    evaluate ⟨"_1x", ⟨3, 9⟩, false⟩ ⟨.native, true⟩ ⟨true⟩ = none := by
  have hunderscore : Unicode.category '_' = .connectorPunctuation := by decide +kernel
  have hdigit : Unicode.category '1' = .decimalNumber := by decide +kernel
  obtain ⟨hstrict, halike, _⟩ := reported_by_first_characters ⟨"_1x", ⟨3, 9⟩, true⟩ {} {}
  obtain ⟨hlenient, _, hmore⟩ := reported_by_first_characters ⟨"_1x", ⟨3, 9⟩, true⟩ {} ⟨true⟩
  have hreported : evaluate ⟨"_1x", ⟨3, 9⟩, true⟩ {} {} = some ⟨"_1x", ⟨3, 9⟩⟩ :=
    (hstrict _).2 ⟨⟨rfl, ⟨'_', rfl, by simp [hunderscore], by simp⟩, rfl, rfl⟩, rfl⟩
  have haccepted : evaluate ⟨"_1x", ⟨3, 9⟩, true⟩ {} ⟨true⟩ = none := by
    refine Option.eq_none_iff_forall_ne_some.2 fun violation hviolation => ?_
    obtain ⟨⟨_, ⟨first, hfirst, _, hexempt⟩, _⟩, _⟩ := (hlenient violation).1 hviolation
    exact hexempt ⟨rfl, (Option.some.inj hfirst).symm, '1', rfl, hdigit⟩
  refine ⟨hreported, ?_, haccepted, ?_⟩
  · rw [halike ⟨"_1Z", ⟨7, 1⟩, true⟩ rfl (by decide), hreported]
    rfl
  · exact hmore _ _ _ ⟨rfl, nofun, nofun, nofun, fun h => h⟩ haccepted

end NamingLint.Naming
