import Mathlib.Tactic.IntervalCases
import NamingLint.Calendar

/-!
# The calendar

`day_number_of_day_number` and `valid_of_day_number` say that every number of days is that of a date
which the calendar has. A date is taken apart into the year that starts in March and the day in that
year: `of_day_number_parts` is about the years, and the lemmas on `ofYearDay` are about the months.
-/

namespace NamingLint.Date

/-- The month of a day in the year that starts in March, with March as month 0. -/
def monthOfYearDay (inYear : Nat) : Nat :=
  (5 * inYear + 2) / 153

/-- The date of a day in the year that starts in March of the given one. -/
def ofYearDay (year : Int) (inYear : Nat) : Date :=
  let day := inYear - daysBeforeMonth (monthOfYearDay inYear) + 1
  if monthOfYearDay inYear < 10 then ⟨year, monthOfYearDay inYear + 3, day⟩
  else ⟨year + 1, monthOfYearDay inYear - 9, day⟩

variable {year number : Int} {inYear : Nat}

/-! ## Months -/

theorem month_of_year_day (inYear : Nat) :
    153 * monthOfYearDay inYear ≤ 5 * inYear + 2 ∧
      5 * inYear + 2 < 153 * monthOfYearDay inYear + 153 := by
  unfold monthOfYearDay
  omega

/-- The number of a day is made up of the years before it and the days before it in its year. -/
theorem day_number_of_year_day (h : inYear ≤ 365) :
    (ofYearDay year inYear).dayNumber = daysBeforeYear year + inYear - daysBeforeCount := by
  have hmonth := month_of_year_day inYear
  unfold ofYearDay
  generalize monthOfYearDay inYear = month at hmonth
  by_cases hautumn : month < 10
  · have hback : (month + 3 + 9) % 12 = month := by omega
    simp only [dayNumber, if_pos hautumn, hback, daysBeforeMonth]
    rw [if_neg (by omega)]
    omega
  · have hback : (month - 9 + 9) % 12 = month := by omega
    simp only [dayNumber, if_neg hautumn, hback, daysBeforeMonth]
    rw [if_pos (by omega), Int.add_sub_cancel]
    omega

/-- A day of the year is that of a month. Only leap years have a day 365. -/
theorem valid_of_year_day (h : inYear ≤ 365)
    (hleap : inYear = 365 → isLeapYear (year + 1) = true) :
    (ofYearDay year inYear).isValid = true := by
  have hmonth := month_of_year_day inYear
  have hbound : monthOfYearDay inYear ≤ 11 := by omega
  unfold ofYearDay
  generalize monthOfYearDay inYear = month at hmonth hbound
  simp only [isValid, Bool.and_eq_true, decide_eq_true_eq]
  -- Only the last day of February depends on the year; all others are there in any month.
  by_cases hlast : inYear = 365
  · subst hlast
    obtain rfl : month = 11 := by omega
    simp [daysBeforeMonth, daysOfMonth, hleap rfl]
  · interval_cases month <;> simp [daysBeforeMonth, daysOfMonth] <;> (try split) <;> omega

/-! ## Years -/

/-- A number of days taken apart. The fourth year of a group is the only one with a day 365, and the
last group of a century has none unless the century is the last one of its period. -/
structure Parts (number : Int) where
  period : Int
  century : Nat
  group : Nat
  single : Nat
  inYear : Nat
  century_le : century ≤ 3
  group_le : group ≤ 24
  single_le : single ≤ 3
  inYear_le : inYear ≤ 365
  leap : inYear = 365 → single = 3 ∧ (group = 24 → century = 3)
  sum : number + daysBeforeCount =
    146097 * period + 36524 * century + 1461 * group + 365 * single + inYear

/-- The year of a day that is taken apart, starting in March. -/
def Parts.wholeYear (parts : Parts number) : Int :=
  400 * parts.period + (100 * parts.century + 4 * parts.group + parts.single : Nat)

theorem of_day_number_parts (number : Int) :
    ∃ parts : Parts number, ofDayNumber number = ofYearDay parts.wholeYear parts.inYear := by
  have hperiod := Int.mul_ediv_add_emod (number + daysBeforeCount) 146097
  have hday : (number + daysBeforeCount) % 146097 =
      (((number + daysBeforeCount) % 146097).toNat : Int) := by omega
  have hbound : ((number + daysBeforeCount) % 146097).toNat < 146097 := by omega
  -- The parts are those of the definition, and what remains are bounds on quotients.
  refine ⟨⟨(number + daysBeforeCount) / 146097, _, _, _, _, ?_, ?_, ?_, ?_, ?_, ?_⟩, rfl⟩
  all_goals
    generalize ((number + daysBeforeCount) % 146097).toNat = inPeriod at *
    omega

theorem Parts.leap_year (parts : Parts number) (h : parts.inYear = 365) :
    isLeapYear (parts.wholeYear + 1) = true := by
  obtain ⟨hsingle, hlast⟩ := parts.leap h
  have hcentury := parts.century_le
  have hgroup := parts.group_le
  simp only [isLeapYear, Parts.wholeYear, hsingle, Bool.and_eq_true, Bool.or_eq_true,
    decide_eq_true_eq]
  omega

/-- The years before a day and the days before it in its year make up its number. -/
theorem Parts.days_before (parts : Parts number) :
    daysBeforeYear parts.wholeYear + parts.inYear = number + daysBeforeCount := by
  have hcentury := parts.century_le
  have hgroup := parts.group_le
  have hsingle := parts.single_le
  rw [parts.sum, daysBeforeYear, wholeYear]
  omega

/-- The date of a number of days has this number. -/
theorem day_number_of_day_number (number : Int) : (ofDayNumber number).dayNumber = number := by
  obtain ⟨parts, hparts⟩ := of_day_number_parts number
  rw [hparts, day_number_of_year_day parts.inYear_le, parts.days_before]
  omega

/-- The date of a number of days is one of the calendar. -/
theorem valid_of_day_number (number : Int) : (ofDayNumber number).isValid = true := by
  obtain ⟨parts, hparts⟩ := of_day_number_parts number
  rw [hparts]
  exact valid_of_year_day parts.inYear_le parts.leap_year

end NamingLint.Date
