import CustomFields.Calendar.Date
import CustomFields.Text.Split

/-!
# Dates in ISO 8601 texts

`parseIsoDate?` finds the calendar date of a date or date-time text. The date part is a calendar
date (`2024-01-31`, `20240131`) or a week date (`2024-W05-3`, `2024W053`, `2024-W05`, `2024W05`).
It may be followed by one separator character, whichever it is, and a time of day with an
optional offset; both are checked and then discarded. Where several date parts fit the front of
a text, the longest is tried first.
-/

namespace CustomFields.Calendar

-- Powers are those of the core library, whatever else is imported.
attribute [local instance (high)] instPowNat

/-- The number of a row of ASCII digits; an empty row has none. -/
def digits? (cs : List Char) : Option Nat :=
  if !cs.isEmpty && cs.all Char.isDigit then some (Nat.ofDigitChars 10 cs 0) else none

/-! ## Dates -/

/-- Reads the week, and the weekday with 1 for Monday, behind the year of a week date. -/
def readWeekAndDay? : List Char → Option (Nat × Nat)
  | ['-', 'W', a, b] => do return (← digits? [a, b], 1)
  | ['-', 'W', a, b, '-', d] => do return (← digits? [a, b], ← digits? [d])
  | ['W', a, b] => do return (← digits? [a, b], 1)
  | ['W', a, b, d] => do return (← digits? [a, b], ← digits? [d])
  | _ => none

/-- Reads `YYYY-Www[-D]` or `YYYYWww[D]`. -/
def readWeekDate? : List Char → Option Date
  | a :: b :: c :: d :: rest => do
    let year ← digits? [a, b, c, d]
    let (week, weekday) ← readWeekAndDay? rest
    Date.ofWeek? year week weekday
  | _ => none

/-- Reads a date part and nothing else. -/
def readDatePart? : List Char → Option Date
  | [a, b, c, d, '-', e, f, '-', g, h] => do
    Date.of? (← digits? [a, b, c, d]) (← digits? [e, f]) (← digits? [g, h])
  | [a, b, c, d, e, f, g, h] =>
    if [a, b, c, d, e, f, g, h].all Char.isDigit then do
      Date.of? (← digits? [a, b, c, d]) (← digits? [e, f]) (← digits? [g, h])
    else readWeekDate? [a, b, c, d, e, f, g, h]
  | cs => readWeekDate? cs

/-! ## Times -/

/-- A time of day. -/
structure TimeOfDay where
  hour : Nat
  minute : Nat
  second : Nat
  nanosecond : Nat
deriving DecidableEq, Repr

/-- A time of the day, if its parts are in their ranges. -/
def TimeOfDay.of? (hour minute second nanosecond : Nat) : Option TimeOfDay :=
  if hour < 24 ∧ minute < 60 ∧ second < 60 ∧ nanosecond < 10 ^ (9 : Nat) then
    some ⟨hour, minute, second, nanosecond⟩
  else none

/-- The bytes of a text in UTF-8, each as the character that starts there, if one does. -/
def byteCells (cs : List Char) : List (Option Char) :=
  cs.flatMap fun c => some c :: List.replicate (c.utf8Size - 1) none

/-- The windows of two bytes of a text that start and end between characters; the others are
left out. -/
def byteWindows : List (Option Char) → List (List Char)
  | a :: b :: rest =>
    let startsWhole := a.isSome
    let endsWhole := match rest with
      | [] => true
      | c :: _ => c.isSome
    if startsWhole && endsWhole then (a.toList ++ b.toList) :: byteWindows rest
    else byteWindows rest
  | _ => []

/-- The parts of a clock: between its colons, or its windows of two bytes when it has none. -/
def clockParts? (cs : List Char) : Option (List (List Char)) :=
  if cs.contains ':' then some (Text.split ':' cs)
  else
    let cells := byteCells cs
    if cells.length % 2 = 0 then some (byteWindows cells) else none

/-- The nanoseconds of the digits of a fraction of a second; digits behind the ninth are
discarded. -/
def nanoseconds? (fraction : List Char) : Option Nat := do
  let _ ← digits? fraction
  let first := fraction.take 9
  return (← digits? first) * 10 ^ (9 - first.length)

/-- Two digits of a clock. -/
def twoDigits? : List Char → Option Nat
  | [a, b] => digits? [a, b]
  | _ => none

/-- Reads `HH`, `HH:MM`, `HH:MM:SS` or the forms without colons, with a fraction behind the
seconds. -/
def readTime? (cs : List Char) : Option TimeOfDay := do
  let (clock, rest) := cs.span fun c => c != '.' && c != ','
  let fraction := rest.tail?
  match ← clockParts? clock, fraction with
  | [h], none => TimeOfDay.of? (← twoDigits? h) 0 0 0
  | [h, m], none => TimeOfDay.of? (← twoDigits? h) (← twoDigits? m) 0 0
  | [h, m, s], none => TimeOfDay.of? (← twoDigits? h) (← twoDigits? m) (← twoDigits? s) 0
  | [h, m, s], some f =>
    TimeOfDay.of? (← twoDigits? h) (← twoDigits? m) (← twoDigits? s) (← nanoseconds? f)
  | _, _ => none

/-- Whether a text is a time of day with an optional offset. The offset starts at the first sign
or `Z`; a lone `Z` is one, and else what follows its first character is read as a time. -/
def isTimeWithOffset (cs : List Char) : Bool :=
  let (time, offset) := cs.span fun c => c != '+' && c != '-' && c != 'Z'
  (readTime? time).isSome &&
    match offset with
    | [] => true
    | ['Z'] => true
    | _ :: rest => (readTime? rest).isSome

/-! ## Date-times -/

/-- The lengths of date parts, the longest first. -/
def datePartLengths : List Nat := [10, 8, 7]

/-- Reads a text whose date part has a given length. -/
def readWithDatePart? (cs : List Char) (length : Nat) : Option Date :=
  if cs.length < length then none
  else do
    let date ← readDatePart? (cs.take length)
    match cs.drop length with
    | [] => some date
    | _ :: time => if isTimeWithOffset time then some date else none

/-- The calendar date of an ISO 8601 date or date-time text. -/
def parseIsoDate? (s : String) : Option Date :=
  datePartLengths.findSome? (readWithDatePart? s.toList)

end CustomFields.Calendar
