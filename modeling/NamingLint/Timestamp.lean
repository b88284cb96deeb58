import NamingLint.Calendar
import NamingLint.Instant
import NamingLint.Unicode.Blank

/-!
# Timestamps

A timestamp is the text of a point in time, such as `2024-01-02T03:04:05.250Z`. `Instant.render`
writes the shortest of the usual forms; `Instant.parse?` also accepts other zones, blanks between
the parts, and more or fewer digits.
-/

namespace NamingLint

/-! ## Writing -/

/-- A number with zeros in front up to a width. -/
def padded (width number : Nat) : String :=
  let digits := toString number
  String.ofList (List.replicate (width - digits.length) '0') ++ digits

/-- A year in at least four digits. Years outside of 0 to 9999 have a sign. -/
def yearText (year : Int) : String :=
  if year < 0 then "-" ++ padded 4 year.natAbs
  else if 9999 < year then "+" ++ padded 4 year.natAbs
  else padded 4 year.natAbs

/-- A date in digits. -/
def Date.render (date : Date) : String :=
  yearText date.year ++ "-" ++ padded 2 date.month ++ "-" ++ padded 2 date.day

/-- The part of a second in three, six or nine digits, as few as will do. -/
def fractionText (nanoseconds : Nat) : String :=
  if nanoseconds = 0 then ""
  else if nanoseconds % 1000000 = 0 then "." ++ padded 3 (nanoseconds / 1000000)
  else if nanoseconds % 1000 = 0 then "." ++ padded 6 (nanoseconds / 1000)
  else "." ++ padded 9 nanoseconds

namespace Instant

/-- The day of a point in time. -/
def date (instant : Instant) : Date :=
  Date.ofDayNumber (instant.seconds / 86400)

/-- The timestamp of a point in time, with a mark for UTC at the end. A leap second is second 60. -/
def render (mark : String) (instant : Instant) : String :=
  let inDay := (instant.seconds % 86400).toNat
  let second := inDay % 60 + instant.nanoseconds / nanosecondsPerSecond
  instant.date.render ++ "T" ++
    padded 2 (inDay / 3600) ++ ":" ++ padded 2 (inDay / 60 % 60) ++ ":" ++ padded 2 second ++
    fractionText (instant.nanoseconds % nanosecondsPerSecond) ++ mark

end Instant

/-! ## Reading -/

namespace Timestamp

/-- The text behind blanks. -/
def skipBlanks (text : List Char) : List Char :=
  text.dropWhile Unicode.isWhiteSpace

/-- The number that digits make up. -/
def numberOf (digits : List Char) : Nat :=
  digits.foldl (fun value digit => 10 * value + (digit.toNat - '0'.toNat)) 0

/-- The digits at the front of a text, at most a given number of them but at least one, and what
stands behind them. -/
def digits? (most : Nat) (text : List Char) : Option (List Char × List Char) :=
  match (text.take most).takeWhile Char.isDigit with
  | [] => none
  | digits => some (digits, text.drop digits.length)

/-- A number of at most two digits behind blanks. -/
def field? (text : List Char) : Option (Nat × List Char) :=
  (digits? 2 (skipBlanks text)).map fun (digits, rest) => (numberOf digits, rest)

/-- What stands behind a mark, which blanks may precede. -/
def behindMark? (mark : Char) (text : List Char) : Option (List Char) :=
  match skipBlanks text with
  | c :: rest => if c = mark then some rest else none
  | [] => none

/-- A year behind blanks: at most four digits, or a sign and any number of digits. -/
def year? (text : List Char) : Option (Int × List Char) :=
  match skipBlanks text with
  | '-' :: rest =>
    (digits? rest.length rest).map fun (digits, rest) => (-(numberOf digits : Int), rest)
  | '+' :: rest =>
    (digits? rest.length rest).map fun (digits, rest) => ((numberOf digits : Int), rest)
  | text => (digits? 4 text).map fun (digits, rest) => ((numberOf digits : Int), rest)

/-- A date. -/
def date? (text : List Char) : Option (Date × List Char) := do
  let (year, text) ← year? text
  let (month, text) ← field? (← behindMark? '-' text)
  let (day, text) ← field? (← behindMark? '-' text)
  return (⟨year, month, day⟩, text)

/-- What stands behind the mark between date and time. -/
def behindDate? : List Char → Option (List Char)
  | c :: rest => if c = 'T' || c = 't' || c = ' ' then some rest else none
  | [] => none

/-- The nanoseconds that the digits of a fraction make up; digits beyond the ninth do not count. -/
def fractionOf (digits : List Char) : Nat :=
  numberOf (digits.take 9 ++ List.replicate (9 - digits.length) '0')

/-- The part of a second, if there is one. -/
def fraction? : List Char → Option (Nat × List Char)
  | '.' :: rest => (digits? rest.length rest).map fun (digits, rest) => (fractionOf digits, rest)
  | text => some (0, text)

/-- A time of day. -/
structure Clock where
  hour : Nat
  minute : Nat
  /-- Second 60 is a leap second. -/
  second : Nat
  nanoseconds : Nat
  deriving DecidableEq, Repr, Inhabited

/-- A time of day. -/
def clock? (text : List Char) : Option (Clock × List Char) := do
  let (hour, text) ← field? text
  let (minute, text) ← field? (← behindMark? ':' text)
  let (second, text) ← field? (← behindMark? ':' text)
  let (nanoseconds, text) ← fraction? text
  return (⟨hour, minute, second, nanoseconds⟩, text)

/-- Hours and minutes in two digits each, which blanks and colons may separate, in minutes. -/
def zoneMinutes? : List Char → Option (Nat × List Char)
  | a :: b :: rest =>
    match rest.dropWhile fun c => c = ':' || Unicode.isWhiteSpace c with
    | c :: d :: rest =>
      if [a, b, c, d].all Char.isDigit && c < '6' then
        some (60 * numberOf [a, b] + numberOf [c, d], rest)
      else none
    | _ => none
  | _ => none

/-- The characters at the front of a text, whatever their case, and what stands behind them. -/
def behindWord? : List Char → List Char → Option (List Char)
  | [], text => some text
  | c :: word, d :: text => if d.toUpper = c then behindWord? word text else none
  | _ :: _, [] => none

/-- A zone by how many minutes it is ahead of UTC. -/
def zone? (text : List Char) : Option (Int × List Char) :=
  match behindWord? ['U', 'T', 'C'] text with
  | some rest => some (0, rest)
  | none =>
    match text with
    | c :: rest =>
      if c = 'Z' || c = 'z' then some (0, rest)
      else if c = '+' then
        (zoneMinutes? rest).map fun (minutes, rest) => ((minutes : Int), rest)
      else if c = '-' || c = '−' then
        (zoneMinutes? rest).map fun (minutes, rest) => (-(minutes : Int), rest)
      else none
    | [] => none

/-- The years that timestamps may lie in. -/
def hasYear (date : Date) : Bool :=
  -262143 ≤ date.year && date.year ≤ 262142

/-- The point in time at a time of day in a zone, if the day has such a time. -/
def instantOf? (day : Int) (clock : Clock) (zone : Int) : Option Instant :=
  let minutes := 1440 * day + 60 * clock.hour + clock.minute - zone
  if 24 ≤ clock.hour || 60 ≤ clock.minute || zone ≤ -1440 || 1440 ≤ zone then none
  else if h : clock.nanoseconds < nanosecondsPerSecond then
    if clock.second < 60 then
      some ⟨60 * minutes + clock.second, clock.nanoseconds, .inl h⟩
    else if clock.second = 60 then
      some ⟨60 * minutes + 59, nanosecondsPerSecond + clock.nanoseconds, .inr (by omega)⟩
    else none
  else none

end Timestamp

open Timestamp in
/-- The point in time that a timestamp stands for. -/
def Instant.parse? (text : String) : Option Instant := do
  let (date, rest) ← date? text.toList
  let (clock, rest) ← clock? (← behindDate? rest)
  let (zone, rest) ← zone? (skipBlanks rest)
  if !(skipBlanks rest).isEmpty || !date.isValid || !hasYear date then none
  else
    let instant ← instantOf? date.dayNumber clock zone
    if hasYear instant.date then some instant else none

end NamingLint
