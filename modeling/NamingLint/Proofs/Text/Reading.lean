import Mathlib.Algebra.Group.Nat.Defs
import Mathlib.Data.List.Forall2
import NamingLint.Timestamp

/-!
# Lists and numerals

What the readers of several formats have in common. A list is read part by part, which
`map_m_eq_some_iff` turns into a statement about each of them. Numbers are written as they are and
with zeros in front up to a width; `number_of_numeral` and `number_of_padded` say that the digits
make up the number again.
-/

namespace NamingLint

/-! ## Lists -/

section Lists

variable {α β : Type} {read : α → Option β} {parts : List α}

/-- A list is read if each of its parts is. -/
theorem map_m_eq_some_iff {results : List β} : parts.mapM read = some results ↔
    List.Forall₂ (fun part result => read part = some result) parts results := by
  induction parts generalizing results with
  | nil => simp [eq_comm]
  | cons part parts ih =>
      simp only [List.mapM_cons, Option.bind_eq_bind, Option.bind_eq_some_iff, Option.pure_def,
        Option.some.injEq, List.forall₂_cons_left_iff]
      constructor
      · rintro ⟨result, hresult, others, hothers, rfl⟩
        exact ⟨result, others, hresult, ih.1 hothers, rfl⟩
      · rintro ⟨result, others, hresult, hothers, rfl⟩
        exact ⟨result, hresult, others, ih.2 hothers, rfl⟩

theorem map_m_of_forall {result : α → β} (h : ∀ part ∈ parts, read part = some (result part)) :
    parts.mapM read = some (parts.map result) :=
  map_m_eq_some_iff.2 (List.forall₂_map_right_iff.2 (List.forall₂_same.2 h))

end Lists

/-! ## Digits -/

/-- Characters that are all digits, of which there is at least one. -/
structure Digits (text : List Char) : Prop where
  ne_nil : text ≠ []
  all : ∀ c ∈ text, c.isDigit = true

namespace Digits

variable {text rest more : List Char} {c : Char}

theorem exists_cons (h : Digits text) : ∃ c rest, text = c :: rest ∧ c.isDigit = true := by
  obtain ⟨c, rest, rfl⟩ := List.exists_cons_of_ne_nil h.ne_nil
  exact ⟨c, rest, rfl, h.all c List.mem_cons_self⟩

/-- Something else than a digit does not stand in front of digits. -/
theorem append_ne_cons (h : Digits text) (hc : c.isDigit = false) : text ++ rest ≠ c :: more := by
  obtain ⟨first, digits, rfl, hfirst⟩ := h.exists_cons
  intro hcons
  obtain ⟨rfl, -⟩ := List.cons.inj hcons
  exact Bool.false_ne_true (hc.symm.trans hfirst)

/-- Digits end where something else stands. -/
theorem take_while_append (h : Digits text) (hrest : ∀ c ∈ rest.head?, c.isDigit = false) :
    (text ++ rest).takeWhile Char.isDigit = text := by
  rw [List.takeWhile_append_of_pos h.all]
  cases rest with
  | nil => simp
  | cons c rest => simp [hrest c rfl]

end Digits

/-! ## Numerals -/

/-- The characters of a number. -/
def numeral (number : Nat) : List Char :=
  (toString number).toList

variable {number width : Nat}

theorem numeral_eq : numeral number = Nat.toDigits 10 number :=
  Nat.toList_repr

theorem digits_numeral (number : Nat) : Digits (numeral number) where
  ne_nil := numeral_eq ▸ Nat.toDigits_ne_nil
  all := fun _ h => Nat.isDigit_of_mem_toDigits (by decide) (by decide) (numeral_eq ▸ h)

/-- A numeral of more than one digit does not start with a zero. -/
theorem tail_of_numeral {rest : List Char} (h : numeral number = '0' :: rest) : rest = [] := by
  rw [numeral_eq] at h
  induction number using Nat.strongRecOn generalizing rest with
  | ind number ih =>
      rw [Nat.toDigits_eq_if (by decide)] at h
      split at h
      · exact (List.cons.inj h).2.symm
      · rename_i hmany
        cases hfront : Nat.toDigits 10 (number / 10) with
        | nil => exact absurd hfront Nat.toDigits_ne_nil
        | cons c front =>
            -- The digits in front are those of a tenth, which would have to be zero.
            obtain ⟨rfl, -⟩ := List.cons.inj (hfront ▸ h)
            obtain rfl := ih (number / 10) (by omega) hfront
            have hzero := @Nat.ofDigitChars_ten_toDigits (number / 10)
            rw [hfront] at hzero
            have htenth : 0 = number / 10 := hzero
            omega

theorem number_of_numeral : Timestamp.numberOf (numeral number) = number := by
  rw [numeral_eq]
  exact Nat.ofDigitChars_ten_toDigits

/-! ## Numerals of a width -/

theorem padded_to_list : (padded width number).toList =
    List.replicate (width - (numeral number).length) '0' ++ numeral number := by
  rw [padded, String.toList_append, String.toList_ofList, numeral, String.length_toList]

theorem digits_padded (width number : Nat) : Digits (padded width number).toList where
  ne_nil := by
    rw [padded_to_list]
    exact List.append_ne_nil_of_right_ne_nil _ (digits_numeral number).ne_nil
  all := by
    rw [padded_to_list]
    intro c hc
    rcases List.mem_append.1 hc with hzero | hdigit
    · rw [List.eq_of_mem_replicate hzero]
      rfl
    · exact (digits_numeral number).all c hdigit

/-- A numeral has the width that it is written in if the number fits. -/
theorem length_padded (hwidth : 0 < width) (hnumber : number < 10 ^ width) :
    (padded width number).toList.length = width := by
  have hlength : (numeral number).length ≤ width := by
    rw [numeral_eq]
    exact (Nat.length_toDigits_le_iff (by decide) hwidth).2 hnumber
  rw [padded_to_list, List.length_append, List.length_replicate]
  omega

/-- Zeros in front do not count. -/
theorem number_of_padded : Timestamp.numberOf (padded width number).toList = number := by
  have hzeros (count : Nat) : Timestamp.numberOf (List.replicate count '0') = 0 :=
    Nat.ofDigitChars_replicate_zero
  rw [padded_to_list, Timestamp.numberOf, List.foldl_append]
  change (numeral number).foldl _ (Timestamp.numberOf (List.replicate _ '0')) = number
  rw [hzeros]
  exact number_of_numeral

/-- Each zero at the end is a factor of ten. -/
theorem number_of_zeros (digits : List Char) (count : Nat) :
    Timestamp.numberOf (digits ++ List.replicate count '0') =
      10 ^ count * Timestamp.numberOf digits := by
  rw [Timestamp.numberOf, List.foldl_append]
  exact Nat.ofDigitChars_replicate_zero

end NamingLint
