import NamingLint.Proofs.Unicode.Lowering
import NamingLint.Unicode.TextCase

/-!
# Lowering into ASCII

A text of ASCII is lowered letter by letter. A character outside of ASCII keeps a character outside
of ASCII in its lower-case form, wherever it stands; only the sign for Kelvin does not, which is
lowered to `k`. So a text of ASCII without that letter is the lower-case form of texts of ASCII alone
(`lower_behind_eq_iff`).
-/

namespace NamingLint.Unicode

/-- Outside of ASCII. -/
def IsBeyondAscii (c : Char) : Prop :=
  128 ≤ c.toNat

instance (c : Char) : Decidable (IsBeyondAscii c) :=
  inferInstanceAs (Decidable (_ ≤ _))

/-! ## Single characters -/

namespace CaseShift

/-- A stretch stays outside of ASCII if it starts there. -/
def staysBeyondAscii (stretch : CaseShift) : Bool :=
  stretch.last < 128 ||
    128 ≤ stretch.first + stretch.shift &&
      (stretch.last + stretch.shift < 0xD800 ||
        0xDFFF < stretch.first + stretch.shift && stretch.last + stretch.shift < 0x110000)

theorem stays_beyond_ascii : ∀ stretch ∈ lowerShifts.toList, stretch.staysBeyondAscii = true := by
  rw [← List.all_eq_true, lowerShifts, Array.toList_map]
  decide +kernel

theorem image_beyond_ascii {stretch : CaseShift} {c : Char} (hmem : stretch ∈ lowerShifts.toList)
    (hcovers : stretch.covers c.toNat = true) (h : IsBeyondAscii c) :
    IsBeyondAscii (Char.ofNat (stretch.image c.toNat)) := by
  have hstays := stays_beyond_ascii stretch hmem
  simp only [covers, Bool.and_eq_true, decide_eq_true_eq] at hcovers
  simp only [staysBeyondAscii, Bool.or_eq_true, Bool.and_eq_true, decide_eq_true_eq] at hstays
  unfold IsBeyondAscii at h ⊢
  have hvalid : (stretch.image c.toNat).isValidChar := by
    unfold image Nat.isValidChar
    omega
  rw [char_to_nat_of_nat hvalid]
  unfold image
  omega

end CaseShift

section

variable {c : Char}

theorem lowercase_ascii (h : ¬ IsBeyondAscii c) : lowercase c = [c.toLower] := by
  have hall : ∀ point < 128, lowercase (Char.ofNat point) = [(Char.ofNat point).toLower] := by
    decide +kernel
  simpa only [Char.ofNat_toNat] using hall c.toNat (Nat.lt_of_not_le h)

/-- A lower-case form of a character outside of ASCII is not of ASCII alone, unless it is that of the
sign for Kelvin. -/
theorem lowercase_beyond_ascii (h : IsBeyondAscii c) :
    ∃ lowered ∈ lowercase c, lowered = 'k' ∨ IsBeyondAscii lowered := by
  rcases lowercase_cases c with
    hsame | ⟨_, hdotted⟩ | ⟨_, hkelvin⟩ | ⟨stretch, hmem, hcovers, himage⟩
  · rw [hsame]
    exact ⟨c, List.mem_singleton_self c, .inr h⟩
  · rw [hdotted]
    exact ⟨Char.ofNat 0x307, by simp, .inr (by decide)⟩
  · rw [hkelvin]
    exact ⟨'k', List.mem_singleton_self _, .inl rfl⟩
  · rw [himage]
    exact ⟨_, List.mem_singleton_self _, .inr (CaseShift.image_beyond_ascii hmem hcovers h)⟩

/-- Outside of ASCII no character is a capital of ASCII. -/
theorem to_lower_beyond_ascii (h : IsBeyondAscii c) : c.toLower = c := by
  have hcapital : ¬ (c.val ≥ 'A'.val ∧ c.val ≤ 'Z'.val) := by
    rintro ⟨_, hle⟩
    have hle : c.toNat ≤ 90 := UInt32.le_iff_toNat_le.1 hle
    unfold IsBeyondAscii at h
    omega
  exact dif_neg hcapital

end

/-! ## Texts -/

section

variable {before chars target : List Char}

theorem lower_behind_ascii (h : ∀ c ∈ chars, ¬ IsBeyondAscii c) :
    lowerBehind before chars = chars.map Char.toLower := by
  induction chars generalizing before with
  | nil => rfl
  | cons c rest ih =>
      obtain ⟨hc, hrest⟩ := List.forall_mem_cons.1 h
      have hsigma : c ≠ capitalSigma := by
        rintro rfl
        exact hc (by decide)
      simp [lowerBehind, hsigma, lowercase_ascii hc, ih hrest]

/-- Whether a capital sigma ends a word or not, its lower-case form is outside of ASCII. -/
theorem lower_behind_beyond_ascii (h : ∃ c ∈ chars, IsBeyondAscii c) :
    ∃ lowered ∈ lowerBehind before chars, lowered = 'k' ∨ IsBeyondAscii lowered := by
  induction chars generalizing before with
  | nil => simp at h
  | cons c rest ih =>
      obtain ⟨found, hmem, hfound⟩ := h
      simp only [lowerBehind, List.mem_append]
      rcases List.mem_cons.1 hmem with rfl | hrest
      · split
        · exact ⟨finalSigma, .inl (List.mem_singleton_self _), .inr (by decide)⟩
        · obtain ⟨lowered, hmem, hlowered⟩ := lowercase_beyond_ascii hfound
          exact ⟨lowered, .inl hmem, hlowered⟩
      · obtain ⟨lowered, hmem, hlowered⟩ := ih ⟨found, hrest, hfound⟩
        exact ⟨lowered, .inr hmem, hlowered⟩

/-- A text of ASCII without the letter `k` is the lower-case form of a text exactly if both are equal
up to the case of letters of ASCII. -/
theorem lower_behind_eq_iff (h : ∀ c ∈ target, c ≠ 'k' ∧ ¬ IsBeyondAscii c) :
    lowerBehind before chars = target ↔ chars.map Char.toLower = target := by
  by_cases hbeyond : ∃ c ∈ chars, IsBeyondAscii c
  · refine iff_of_false ?_ ?_
    · rintro rfl
      obtain ⟨lowered, hmem, hlowered⟩ := lower_behind_beyond_ascii hbeyond
      obtain ⟨hne, hascii⟩ := h lowered hmem
      exact hlowered.elim hne hascii
    · rintro rfl
      obtain ⟨c, hmem, hc⟩ := hbeyond
      have hsame : c.toLower = c := to_lower_beyond_ascii hc
      exact (h c (List.mem_map.2 ⟨c, hmem, hsame⟩)).2 hc
  · rw [lower_behind_ascii fun c hmem hc => hbeyond ⟨c, hmem, hc⟩]

end

end NamingLint.Unicode
