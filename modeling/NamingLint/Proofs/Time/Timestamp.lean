import NamingLint.Proofs.Text.Reading
import NamingLint.Proofs.Time.Calendar

/-!
# Reading timestamps back

`Instant.parse_render` says that a point in time is read back from its timestamp, leap seconds and
parts of seconds included, if its year is one that is written without a sign.
-/

namespace NamingLint

namespace Timestamp

variable {digits rest : List Char} {most number : Nat}

/-! ## Digits -/

/-- Digits are read up to the most that may be read, or up to something else. -/
theorem digits_of_append (h : Digits digits) (hmost : digits.length ≤ most)
    (hrest : digits.length = most ∨ ∀ c ∈ rest.head?, c.isDigit = false) :
    digits? most (digits ++ rest) = some (digits, rest) := by
  have htaken : ((digits ++ rest).take most).takeWhile Char.isDigit = digits := by
    -- What is left of the rest is empty if there are already as many digits as may be.
    rw [List.take_append, List.take_of_length_le hmost]
    refine h.take_while_append fun c hc => ?_
    rcases hrest with rfl | hdigit
    · simp at hc
    · rw [List.head?_take] at hc
      split at hc
      · cases hc
      · exact hdigit c hc
  cases digits with
  | nil => exact absurd rfl h.ne_nil
  | cons c digits => rw [digits?, htaken]; simp

theorem blank_of_digit {c : Char} (h : c.isDigit = true) : Unicode.isWhiteSpace c = false := by
  have hrange : 48 ≤ c.toNat ∧ c.toNat ≤ 57 := by
    simpa [Char.isDigit, UInt32.le_iff_toNat_le] using h
  simp only [Unicode.isWhiteSpace, Bool.or_eq_false_iff, Bool.and_eq_false_iff,
    beq_eq_false_iff_ne, decide_eq_false_iff_not]
  omega

theorem skip_blanks_digits (h : Digits digits) (rest : List Char) :
    skipBlanks (digits ++ rest) = digits ++ rest := by
  obtain ⟨c, more, rfl, hc⟩ := h.exists_cons
  exact List.dropWhile_cons_of_neg (Bool.eq_false_iff.1 (blank_of_digit hc))

/-! ## Dates -/

theorem field_of_padded (h : number < 100) (rest : List Char) :
    field? ((padded 2 number).toList ++ rest) = some (number, rest) := by
  have hlength : (padded 2 number).toList.length = 2 := length_padded (by decide) h
  rw [field?, skip_blanks_digits (digits_padded 2 number),
    digits_of_append (digits_padded _ _) hlength.le (.inl hlength)]
  simp [number_of_padded]

theorem behind_mark {mark : Char} (h : Unicode.isWhiteSpace mark = false) (rest : List Char) :
    behindMark? mark (mark :: rest) = some rest := by
  simp [behindMark?, skipBlanks, h]

theorem year_of_padded (h : number < 10000) (rest : List Char) :
    year? ((padded 4 number).toList ++ rest) = some ((number : Int), rest) := by
  have hlength : (padded 4 number).toList.length = 4 := length_padded (by decide) h
  have hread : digits? 4 ((padded 4 number).toList ++ rest) =
      some ((padded 4 number).toList, rest) :=
    digits_of_append (digits_padded _ _) hlength.le (.inl hlength)
  have hdigits := digits_padded 4 number
  rw [year?, skip_blanks_digits hdigits]
  split
  · exact absurd ‹_› (hdigits.append_ne_cons rfl)
  · exact absurd ‹_› (hdigits.append_ne_cons rfl)
  · rw [hread]
    simp [number_of_padded]

theorem date_of_render {date : Date} (hyear : 0 ≤ date.year ∧ date.year ≤ 9999)
    (hvalid : date.isValid = true) (rest : List Char) :
    date? (date.render.toList ++ rest) = some (date, rest) := by
  have hdays : Date.daysOfMonth date.year date.month ≤ 31 := by
    unfold Date.daysOfMonth
    repeat' split
    all_goals decide
  simp only [Date.isValid, Bool.and_eq_true, decide_eq_true_eq] at hvalid
  have hmonth : date.month < 100 := by omega
  have hday : date.day < 100 := by omega
  have hyearText : yearText date.year = padded 4 date.year.natAbs := by
    rw [yearText, if_neg (by omega), if_neg (by omega)]
  have htext : date.render.toList ++ rest = (padded 4 date.year.natAbs).toList ++
      ('-' :: ((padded 2 date.month).toList ++ ('-' :: ((padded 2 date.day).toList ++ rest)))) := by
    simp [Date.render, hyearText]
  have hmark (text : List Char) : behindMark? '-' ('-' :: text) = some text :=
    behind_mark (by decide) text
  rw [htext, date?, year_of_padded (by omega)]
  simp [hmark, field_of_padded hmonth, field_of_padded hday, abs_of_nonneg hyear.1]

/-! ## Times of day -/

/-- Zeros behind the digits of a fraction make it up to nanoseconds. -/
theorem fraction_of_padded {width : Nat} (hwidth : 0 < width) (hmost : width ≤ 9)
    (h : number < 10 ^ width) :
    fractionOf (padded width number).toList = 10 ^ (9 - width) * number := by
  have hlength : (padded width number).toList.length = width := length_padded hwidth h
  rw [fractionOf, List.take_of_length_le (hlength.le.trans hmost), number_of_zeros, hlength,
    number_of_padded]

theorem fraction_of_digits (h : Digits digits) (hrest : ∀ c ∈ rest.head?, c.isDigit = false) :
    fraction? ('.' :: (digits ++ rest)) = some (fractionOf digits, rest) := by
  have hread : digits? (digits ++ rest).length (digits ++ rest) = some (digits, rest) :=
    digits_of_append h (by simp) (.inr hrest)
  rw [fraction?, hread]
  rfl

theorem fraction_of_text {nanoseconds : Nat} (h : nanoseconds < nanosecondsPerSecond)
    (hrest : ∀ c ∈ rest.head?, c.isDigit = false ∧ c ≠ '.') :
    fraction? ((fractionText nanoseconds).toList ++ rest) = some (nanoseconds, rest) := by
  have hbound : nanoseconds < 1000000000 := h
  have hdigits (width number : Nat) (hwidth : 0 < width ∧ width ≤ 9)
      (hnumber : number < 10 ^ width) :
      fraction? (("." ++ padded width number).toList ++ rest) =
        some (10 ^ (9 - width) * number, rest) := by
    have hread := fraction_of_digits (digits_padded width number) fun c hc => (hrest c hc).1
    rw [fraction_of_padded hwidth.1 hwidth.2 hnumber] at hread
    simpa using hread
  -- Three or six digits are written only where the others are zeros.
  unfold fractionText
  split
  · next hzero =>
      cases rest with
      | nil => simp [fraction?, hzero]
      | cons c rest => simp [fraction?, (hrest c rfl).2, hzero]
  split
  · next hmillis =>
      rw [hdigits 3 _ (by decide) (by omega)]
      simp only [Option.some.injEq, Prod.mk.injEq, and_true]
      omega
  split
  · next hmicros =>
      rw [hdigits 6 _ (by decide) (by omega)]
      simp only [Option.some.injEq, Prod.mk.injEq, and_true]
      omega
  · rw [hdigits 9 _ (by decide) hbound]
    simp

/-- A time of day in digits is read back. -/
theorem clock_of_text {clock : Clock} (hhour : clock.hour < 100) (hminute : clock.minute < 100)
    (hsecond : clock.second < 100) (hnanoseconds : clock.nanoseconds < nanosecondsPerSecond)
    (hrest : ∀ c ∈ rest.head?, c.isDigit = false ∧ c ≠ '.') :
    clock? ((padded 2 clock.hour).toList ++ (':' :: ((padded 2 clock.minute).toList ++
      (':' :: ((padded 2 clock.second).toList ++
        ((fractionText clock.nanoseconds).toList ++ rest)))))) = some (clock, rest) := by
  have hmark (text : List Char) : behindMark? ':' (':' :: text) = some text :=
    behind_mark (by decide) text
  rw [clock?, field_of_padded hhour]
  simp [hmark, field_of_padded hminute, field_of_padded hsecond,
    fraction_of_text hnanoseconds hrest]

end Timestamp

open Timestamp

namespace Instant

/-- The time of day of a point in time. -/
def clock (instant : Instant) : Clock :=
  let inDay := (instant.seconds % 86400).toNat
  { hour := inDay / 3600
    minute := inDay / 60 % 60
    second := inDay % 60 + instant.nanoseconds / nanosecondsPerSecond
    nanoseconds := instant.nanoseconds % nanosecondsPerSecond }

variable {instant : Instant}

theorem clock_bounded (instant : Instant) :
    instant.clock.hour < 24 ∧ instant.clock.minute < 60 ∧ instant.clock.second ≤ 60 ∧
      instant.clock.nanoseconds < nanosecondsPerSecond := by
  have hbounded := instant.bounded
  simp only [clock, nanosecondsPerSecond] at hbounded ⊢
  omega

/-- The day and the time of day make up the point in time. Only a leap second is a second 60. -/
theorem instant_of_clock (instant : Instant) :
    instantOf? (instant.seconds / 86400) instant.clock 0 = some instant := by
  obtain ⟨hhour, hminute, -, hnanoseconds⟩ := clock_bounded instant
  obtain ⟨seconds, nanoseconds, hbounded⟩ := instant
  simp only [instantOf?, Int.reduceNeg, Int.reduceLE, decide_false, Bool.or_false,
    Bool.or_eq_true, decide_eq_true_eq, hnanoseconds, dite_true]
  rw [if_neg (by omega)]
  by_cases hplain : nanoseconds < nanosecondsPerSecond
  · have hsecond : (clock ⟨seconds, nanoseconds, hbounded⟩).second < 60 := by
      simp only [clock, Nat.div_eq_of_lt hplain]
      omega
    rw [if_pos hsecond]
    simp only [clock, nanosecondsPerSecond, Option.some.injEq, Instant.mk.injEq] at hplain ⊢
    omega
  · -- More nanoseconds than a second has are those of a leap second.
    obtain ⟨hleap, hlast⟩ := hbounded.resolve_left hplain
    have hsecond : (clock ⟨seconds, nanoseconds, hbounded⟩).second = 60 := by
      simp only [clock, nanosecondsPerSecond] at hplain hleap ⊢
      omega
    rw [if_neg (by omega), if_pos hsecond]
    simp only [clock, nanosecondsPerSecond, Option.some.injEq, Instant.mk.injEq] at hplain hleap ⊢
    omega

/-- A point in time in a year without a sign is read back from its timestamp. -/
theorem parse_render (hyear : 0 ≤ instant.date.year ∧ instant.date.year ≤ 9999) :
    parse? (instant.render "Z") = some instant := by
  obtain ⟨hhour, hminute, hsecond, hnanoseconds⟩ := clock_bounded instant
  have htext : (instant.render "Z").toList = instant.date.render.toList ++
      ('T' :: ((padded 2 instant.clock.hour).toList ++
        (':' :: ((padded 2 instant.clock.minute).toList ++
          (':' :: ((padded 2 instant.clock.second).toList ++
            ((fractionText instant.clock.nanoseconds).toList ++ ['Z']))))))) := by
    simp [render, clock]
  have hclock := @clock_of_text ['Z'] instant.clock (by omega) (by omega) (by omega) hnanoseconds
    (by rintro c ⟨⟩; decide)
  have hvalid : instant.date.isValid = true := Date.valid_of_day_number _
  have hzone : zone? (skipBlanks ['Z']) = some (0, []) := rfl
  have hend : skipBlanks [] = [] := rfl
  have hrange : hasYear instant.date = true := by
    simp only [hasYear, Bool.and_eq_true, decide_eq_true_eq]
    omega
  have hday : instant.date.dayNumber = instant.seconds / 86400 := Date.day_number_of_day_number _
  rw [parse?, htext, date_of_render hyear hvalid]
  simp [behindDate?, hclock, hzone, hend, hvalid, hrange, hday, instant_of_clock]

end Instant

end NamingLint
