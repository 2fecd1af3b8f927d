/-!
# Calendar dates

Dates of the Gregorian calendar, extended to all years. A date is also a day number, counted
from 1 January of year 1, which is a Monday; the two views give week dates and day arithmetic.
-/

namespace CustomFields.Calendar

/-- A year of 366 days, in the Gregorian calendar without a start. -/
def isLeapYear (year : Int) : Bool :=
  year % 4 == 0 && (year % 100 != 0 || year % 400 == 0)

/-- How many days a month has. What is no month has none. -/
def daysInMonth (year : Int) : Nat → Nat
  | 1 => 31
  | 2 => if isLeapYear year then 29 else 28
  | 3 => 31
  | 4 => 30
  | 5 => 31
  | 6 => 30
  | 7 => 31
  | 8 => 31
  | 9 => 30
  | 10 => 31
  | 11 => 30
  | 12 => 31
  | _ => 0

/-- A day of a month of a year. -/
structure Date where
  year : Int
  month : Nat
  day : Nat
deriving DecidableEq, Repr

namespace Date

/-- The date with these parts, if the calendar has it. -/
def of? (year : Int) (month day : Nat) : Option Date :=
  if 1 ≤ day ∧ day ≤ daysInMonth year month then some ⟨year, month, day⟩ else none

/-! ## Day numbers -/

/-- How many days lie between 1 January of year 1 and 1 January of a year. -/
def daysBeforeYear (year : Int) : Int :=
  let p := year - 1
  365 * p + p / 4 - p / 100 + p / 400

/-- How many days of a year lie before a month. -/
def daysBeforeMonth (year : Int) : Nat → Nat
  | 0 => 0
  | month + 1 => daysBeforeMonth year month + daysInMonth year month

/-- The number of a day, counted from the first day of year 0. -/
def dayNumber (d : Date) : Int :=
  daysBeforeYear d.year + daysBeforeMonth d.year d.month + d.day - 1

/-- The year that a day lies in: whole cycles of 400 years, then of 100, 4 and one. The last
century of a cycle and the last year of four years have a day more than the others. -/
def yearOfDayNumber (n : Int) : Int :=
  let r := (n % 146097).toNat
  let century := min (r / 36524) 3
  let r' := r - century * 36524
  let four := r' / 1461
  let r'' := r' - four * 1461
  let one := min (r'' / 365) 3
  400 * (n / 146097) + 100 * century + 4 * four + one + 1

/-- Passes over `months` months from `month` on, and then `days` days. -/
def advance (year : Int) : Nat → Nat → Nat → Date
  | 0, month, days => ⟨year, month, days + 1⟩
  | months + 1, month, days =>
    if days < daysInMonth year month then ⟨year, month, days + 1⟩
    else advance year months (month + 1) (days - daysInMonth year month)

/-- The day with a number. -/
def ofDayNumber (n : Int) : Date :=
  let year := yearOfDayNumber n
  advance year 11 1 (n - daysBeforeYear year).toNat

/-! ## Weeks -/

/-- The day number of the Monday of the first week of a year: the week with 4 January. -/
def firstMonday (year : Int) : Int :=
  let fourth := daysBeforeYear year + 3
  fourth - fourth % 7

/-- How many weeks a year has. -/
def weeksInYear (year : Int) : Nat :=
  ((firstMonday (year + 1) - firstMonday year) / 7).toNat

/-- The day of a week of a year, if the year has that week; weekdays count from Monday as 1. -/
def ofWeek? (year : Int) (week weekday : Nat) : Option Date :=
  if 1 ≤ week ∧ week ≤ weeksInYear year ∧ 1 ≤ weekday ∧ weekday ≤ 7 then
    some (ofDayNumber (firstMonday year + 7 * (week - 1) + (weekday - 1)))
  else none

/-! ## Order and text -/

/-- Dates are ordered as days. -/
def compare (a b : Date) : Ordering :=
  (Ord.compare a.year b.year).then ((Ord.compare a.month b.month).then (Ord.compare a.day b.day))

/-- The digits of a number, with zeros in front up to a width. -/
def padded (width n : Nat) : String :=
  let digits := Nat.toDigits 10 n
  String.ofList (List.replicate (width - digits.length) '0' ++ digits)

/-- A year has four digits; outside of the years 0 to 9999 it has a sign as well. -/
def yearText (year : Int) : String :=
  if year < 0 then "-" ++ padded 4 year.natAbs
  else if 9999 < year then "+" ++ padded 4 year.natAbs
  else padded 4 year.natAbs

/-- The text `YYYY-MM-DD`. -/
def text (d : Date) : String :=
  yearText d.year ++ "-" ++ padded 2 d.month ++ "-" ++ padded 2 d.day

end Date

end CustomFields.Calendar
