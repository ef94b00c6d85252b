/-!
# Calendar time

A number of seconds since the start of 1970 as a date of the Gregorian calendar and a time
of day, both in universal time, written as `2024-02-29T12:34:56Z`.

Years are counted off from 1970 on and then months from January on.  A year is a leap year if
its number is divisible by 4 but not by 100, or by 400.
-/

namespace Likeness
namespace Calendar

/-- A date and a time of day. -/
structure Instant where
  year : Nat
  month : Nat
  day : Nat
  hour : Nat
  minute : Nat
  second : Nat
deriving DecidableEq, Repr, Inhabited

/-- Whether a year has 366 days. -/
def isLeap (year : Nat) : Bool :=
  (year % 4 == 0 && year % 100 != 0) || year % 400 == 0

def daysInYear (year : Nat) : Nat :=
  if isLeap year then 366 else 365

/-- Number of days of the months of a year. -/
def monthLengths (year : Nat) : List Nat :=
  [31, if isLeap year then 29 else 28, 31, 30, 31, 30, 31, 31, 30, 31, 30, 31]

/-- No year is empty. -/
theorem daysInYear_pos (year : Nat) : 0 < daysInYear year := by
  unfold daysInYear
  split <;> decide

/-- Counts off whole years: the year that a day lies in, and its number in that year. -/
def countYears (year days : Nat) : Nat × Nat :=
  if days < daysInYear year then (year, days)
  else countYears (year + 1) (days - daysInYear year)
termination_by days
decreasing_by
  have := daysInYear_pos year
  omega

/-- Counts off whole months. -/
def countMonths (month days : Nat) : List Nat → Nat × Nat
  | [] => (month, days)
  | length :: lengths =>
      if days < length then (month, days)
      else countMonths (month + 1) (days - length) lengths

/-- The date and time of day some seconds after the start of 1970. -/
def Instant.ofSeconds (seconds : Nat) : Instant :=
  let (year, inYear) := countYears 1970 (seconds / 86400)
  let (month, inMonth) := countMonths 1 inYear (monthLengths year)
  let today := seconds % 86400
  ⟨year, month, inMonth + 1, today / 3600, today % 3600 / 60, today % 60⟩

/-- A number with zeros on the left up to a width. -/
def padded (width n : Nat) : String :=
  let digits := toString n
  String.ofList (List.replicate (width - digits.length) '0') ++ digits

/-- The date, the letter `T`, the time of day and the letter `Z`. -/
def Instant.text (t : Instant) : String :=
  padded 4 t.year ++ "-" ++ padded 2 t.month ++ "-" ++ padded 2 t.day ++ "T"
    ++ padded 2 t.hour ++ ":" ++ padded 2 t.minute ++ ":" ++ padded 2 t.second ++ "Z"

end Calendar

/-- The text of a number of seconds since the start of 1970. -/
def timestamp (seconds : Nat) : String :=
  (Calendar.Instant.ofSeconds seconds).text

end Likeness
