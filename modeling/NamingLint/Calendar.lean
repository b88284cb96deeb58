/-!
# Dates

Days are counted from the start of 1970. `Date.dayNumber` gives the count of a date and
`Date.ofDayNumber` the date of a count; the years in between are those of the calendar in use today,
extended to all times. Internally a year starts in March, so that the day that leap years add is its
last one.
-/

namespace NamingLint

/-- A day of the calendar. Months and days count from 1. -/
structure Date where
  year : Int
  month : Nat
  day : Nat
  deriving DecidableEq, Repr, Inhabited

namespace Date

/-- Every fourth year has a day more, but of the full centuries only every fourth. -/
def isLeapYear (year : Int) : Bool :=
  year % 4 = 0 && (year % 100 ≠ 0 || year % 400 = 0)

/-- How many days a month has. -/
def daysOfMonth (year : Int) (month : Nat) : Nat :=
  if month = 2 then (if isLeapYear year then 29 else 28)
  else if month = 4 || month = 6 || month = 9 || month = 11 then 30
  else 31

/-- The calendar has such a day. -/
def isValid (date : Date) : Bool :=
  1 ≤ date.month && date.month ≤ 12 && 1 ≤ date.day &&
    date.day ≤ daysOfMonth date.year date.month

/-- The days from the first of March of the year 0 to that of another year. -/
def daysBeforeYear (year : Int) : Int :=
  365 * year + year / 4 - year / 100 + year / 400

/-- The days from the first of March to that of a month, with March as month 0. -/
def daysBeforeMonth (month : Nat) : Nat :=
  (153 * month + 2) / 5

/-- The days from the first of March of the year 0 to the start of 1970. -/
def daysBeforeCount : Int := 719468

/-- The number of days from the start of 1970 to a date. -/
def dayNumber (date : Date) : Int :=
  let year := if date.month ≤ 2 then date.year - 1 else date.year
  daysBeforeYear year + daysBeforeMonth ((date.month + 9) % 12) + date.day - 1 - daysBeforeCount

/-- The date that is a number of days after the start of 1970. The four hundred years of a period
are taken apart into centuries, groups of four years, and years; the last century of a period and
the last year of a group may be a day longer than the others. -/
def ofDayNumber (number : Int) : Date :=
  let days := number + daysBeforeCount
  let period := days / 146097
  let inPeriod := (days % 146097).toNat
  let century := min (inPeriod / 36524) 3
  let inCentury := inPeriod - 36524 * century
  let group := inCentury / 1461
  let inGroup := inCentury % 1461
  let single := min (inGroup / 365) 3
  let inYear := inGroup - 365 * single
  let year := 400 * period + (100 * century + 4 * group + single : Nat)
  let month := (5 * inYear + 2) / 153
  let day := inYear - daysBeforeMonth month + 1
  if month < 10 then ⟨year, month + 3, day⟩ else ⟨year + 1, month - 9, day⟩

end Date

end NamingLint
