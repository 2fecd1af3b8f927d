import CustomFields.Decimal.Numeral
import CustomFields.Proofs.Calendar.Slices

/-!
# Reading dates with operations that can go wrong

The reader of dates works on the bytes of a text and with numbers of 32 bits. Some of its operations
have an answer for whatever they are given: a slice between two offsets is there or it is not. Others
rely on what has been checked before: a text is cut at an offset that has to be a boundary, the first
part of a clock is taken from a list that must not be empty, and a difference or a product must be a
number of the machine. This module has the reader with all its operations as they are; where one of
those is not given what it relies on, it is a *fault*.

A reader finds something, finds nothing or has a fault. What it answers without a fault is derived
along the way in which it is put together.

## Main definitions

* `Calendar.Fault`, `Calendar.Reader`: what can go wrong, and readers for which it can
* `Calendar.Checked.parse` and the readers that it is made of
* `Calendar.Reader.Answers`: a reader has no fault, and has this answer
-/

namespace CustomFields.Calendar

-- Powers are those of the core library, whatever else is imported.
attribute [local instance (high)] instPowNat

/-- What can go wrong in an operation. -/
inductive Fault where
  /-- A text is cut within a character or behind its end. -/
  | cut
  /-- A list has no element at an index. -/
  | index
  /-- A difference is negative. -/
  | underflow
  /-- A number has more than 32 bits. -/
  | overflow
  /-- A day lies outside of the calendar. -/
  | calendar
deriving DecidableEq, Repr

/-- Readers that may find nothing, and may have a fault. -/
abbrev Reader := OptionT (Except Fault)

namespace Reader

variable {α β : Type}

/-- Answers what an operation finds that has no fault. -/
def ask (found : Option α) : Reader α := OptionT.mk (.ok found)

/-- A step that goes wrong. -/
def fault (f : Fault) : Reader α := OptionT.mk (.error f)

/-- A reader has no fault, and this is what it finds. -/
def Answers (x : Reader α) (found : Option α) : Prop := x.run = .ok found

theorem ask_some (a : α) : ask (some a) = pure a := rfl

theorem answers_ask (found : Option α) : (ask found).Answers found := rfl

theorem answers_pure (a : α) : (pure a : Reader α).Answers (some a) := rfl

theorem answers_failure : (failure : Reader α).Answers none := rfl

/-- One reader after the other: the second one has to answer for what the first one finds. -/
theorem Answers.bind {x : Reader α} {found : Option α} (hx : x.Answers found)
    {f : α → Reader β} {g : α → Option β} (hf : ∀ a, found = some a → (f a).Answers (g a)) :
    (x >>= f).Answers (found >>= g) := by
  have hx : x.run = .ok found := hx
  rw [Answers, OptionT.run_bind, hx]
  cases found with
  | none => rfl
  | some a => exact hf a rfl

/-- Where the first reader finds nothing, the second one is asked. -/
theorem Answers.orElse {x y : Reader α} {found found' : Option α} (hx : x.Answers found)
    (hy : y.Answers found') : (x <|> y).Answers (found <|> found') := by
  have hx : x.run = .ok found := hx
  rw [Answers, OptionT.run_orElse, hx]
  cases found with
  | none => exact hy
  | some a => rfl

end Reader

/-- The days of a calendar. It has at least those of the years 0 to 10000. -/
structure DayRange where
  first : ℤ
  last : ℤ
  first_le : first ≤ Date.daysBeforeYear 0
  le_last : Date.daysBeforeYear 10001 ≤ last + 1

open Reader (ask fault)

namespace Checked

/-! ## Operations -/

/-- Cuts a text at an offset. -/
def splitAt (cs : List Char) (i : ℕ) : Except Fault (List Char × List Char) :=
  match slice? cs 0 i, slice? cs i (byteLength cs) with
  | some before, some behind => .ok (before, behind)
  | _, _ => .error .cut

-- behind the first byte of a character of two bytes
example : splitAt ['é', '1'] 1 = .error .cut := by decide

/-- An element of a list, which has to be there. -/
def index {α : Type} (as : List α) (i : ℕ) : Reader α :=
  match as[i]? with
  | some a => pure a
  | none => fault .index

/-- A difference of words, which must not be negative. -/
def subtract (a b : ℕ) : Reader ℕ :=
  if b ≤ a then pure (a - b) else fault .underflow

theorem subtract_eq {a b : ℕ} (h : b ≤ a) : subtract a b = pure (a - b) := if_pos h

/-- A number that has to have 32 bits. -/
def word (n : ℕ) : Reader ℕ :=
  if n < 2 ^ (32 : ℕ) then pure n else fault .overflow

theorem word_eq {n : ℕ} (h : n < 2 ^ (32 : ℕ)) : word n = pure n := if_pos h

/-- A product that has to fit into a word. -/
def multiply (a b : ℕ) : Reader ℕ := word (a * b)

/-- A power that has to fit into a word. -/
def power (a b : ℕ) : Reader ℕ := word (a ^ b)

/-- The day that is some days behind another, in a calendar of some days. -/
def addDays (range : DayRange) (d : Date) (days : ℕ) : Reader Date :=
  if range.first ≤ d.dayNumber + days ∧ d.dayNumber + days ≤ range.last then
    pure (Date.ofDayNumber (d.dayNumber + days))
  else fault .calendar

/-! ## Numbers -/

/-- Whether a text has bytes, all of them digits. -/
def isDigits (cs : List Char) : Bool :=
  !(byteCells cs).isEmpty && (byteCells cs).all (Option.any Char.isDigit)

/-- The number of digits, if it is below a limit. -/
def digitsBelow? (limit : ℕ) (cs : List Char) : Option ℕ :=
  if isDigits cs then Decimal.natBelow? limit (String.ofList cs) else none

/-- A year is a signed number. -/
def year? (cs : List Char) : Option ℕ := digitsBelow? (2 ^ (31 : ℕ)) cs

/-- The number of some digits, if it fits into 32 bits. -/
def number? (cs : List Char) : Option ℕ := digitsBelow? (2 ^ (32 : ℕ)) cs

/-! ## Dates -/

variable (range : DayRange)

/-- What is left behind a hyphen. -/
def stripHyphen? : List Char → Option (List Char)
  | '-' :: rest => some rest
  | _ => none

/-- The texts of the week, and of the weekday if there is one, behind the year of a week date. -/
def weekAndDay? : List Char → Option (List Char × Option (List Char))
  | '-' :: 'W' :: extended =>
    if byteLength extended = 2 then some (extended, none)
    else if byteLength extended = 4 then do
      let week ← slice? extended 0 2
      let day ← stripHyphen? (← slice? extended 2 (byteLength extended))
      return (week, some day)
    else none
  | 'W' :: basic =>
    if byteLength basic = 2 then some (basic, none)
    else if byteLength basic = 3 then do
      return (← slice? basic 0 2, some (← slice? basic 2 (byteLength basic)))
    else none
  | _ => none

/-- The weekday that a text shows; without one it is Monday. -/
def weekday? (day : Option (List Char)) : Option ℕ :=
  day.elim (some 1) number?

/-- The day of a week, so many days behind its Monday. -/
def dayOfWeek (year : ℕ) (week : List Char) (weekday : ℕ) : Reader Date :=
  if 1 ≤ weekday ∧ weekday ≤ 7 then do
    let monday ← ask (Date.ofWeek? year (← ask (number? week)) 1)
    addDays range monday (← subtract weekday 1)
  else failure

/-- The day of a week of a year. -/
def weekDate (cs : List Char) : Reader Date := do
  let year ← ask (year? (← ask (slice? cs 0 4)))
  let (week, day) ← ask (weekAndDay? (← ask (slice? cs 4 (byteLength cs))))
  dayOfWeek range year week (← ask (weekday? day))

/-- The day of a month whose parts lie at some offsets. -/
def dayOfMonth? (cs : List Char) (month day : ℕ) : Option Date := do
  Date.of? (← year? (← slice? cs 0 4)) (← number? (← slice? cs month (month + 2)))
    (← number? (← slice? cs day (day + 2)))

/-- Whether the bytes are those of a calendar date with hyphens. -/
def hasHyphens (cs : List Char) : Bool :=
  byteLength cs = 10 && (byteCells cs)[4]? = some (some '-') && (byteCells cs)[7]? = some (some '-')

/-- A date in one of the three forms, by its hyphens and its length. -/
def datePart (cs : List Char) : Reader Date :=
  if hasHyphens cs then ask (dayOfMonth? cs 5 8)
  else if byteLength cs = 8 && isDigits cs then ask (dayOfMonth? cs 4 6)
  else weekDate range cs

/-! ## Times -/

/-- The text of a clock, and of the digits behind the mark of a fraction if there is one. -/
def splitFraction? (cs : List Char) : Option (List Char × Option (List Char)) :=
  match findByte? (fun c => c == '.' || c == ',') cs with
  | some i => do return (← slice? cs 0 i, some (← slice? cs (i + 1) (byteLength cs)))
  | none => some (cs, none)

/-- The parts of a clock: between colons, or windows of two bytes, of which those are dropped that
cut through a character. -/
def parts? (clock : List Char) : Option (List (List Char)) :=
  if clock.contains ':' then some (Text.split ':' clock)
  else if byteLength clock % 2 = 0 then
    some ((List.range' 0 (byteLength clock / 2) 2).filterMap fun i => slice? clock i (i + 2))
  else none

/-- The part of a clock at an index; without one it is zero. -/
def part? (parts : List (List Char)) (i : ℕ) : Option ℕ :=
  (parts[i]?).elim (some 0) number?

/-- The nanoseconds of a fraction, of which nine digits count. -/
def nanoseconds (fraction : List Char) : Reader ℕ :=
  if isDigits fraction then do
    let first ← ask (slice? fraction 0 (min (byteLength fraction) 9))
    multiply (← ask (number? first)) (← power 10 (← subtract 9 (byteLength first)))
  else failure

/-- The time that the parts of a clock show, and the digits of a fraction if there are any. -/
def timeOfParts (parts : List (List Char)) (fraction : Option (List Char)) : Reader TimeOfDay :=
  if parts.isEmpty || decide (3 < parts.length) || parts.any (byteLength · != 2) then failure
  else if fraction.isSome && parts.length != 3 then failure
  else do
    let hour ← ask (number? (← index parts 0))
    let minute ← ask (part? parts 1)
    let second ← ask (part? parts 2)
    let nanosecond ← fraction.elim (pure 0) nanoseconds
    ask (TimeOfDay.of? hour minute second nanosecond)

/-- A time of the day with its fraction. -/
def time (cs : List Char) : Reader TimeOfDay := do
  let (clock, fraction) ← ask (splitFraction? cs)
  timeOfParts (← ask (parts? clock)) fraction

/-- Whether a text is read as a time. -/
def isTime (cs : List Char) : Except Fault Bool :=
  (time cs).run.map Option.isSome

/-- Whether a text is an offset: nothing, `Z`, or a time behind its first character. -/
def isOffset : List Char → Except Fault Bool
  | [] => return true
  | ['Z'] => return true
  | offset => (slice? offset 1 (byteLength offset)).elim (pure false) isTime

/-- The text of a time, and of an offset from its first character on. -/
def splitOffset (cs : List Char) : Except Fault (List Char × List Char) :=
  match findByte? (fun c => c == '+' || c == '-' || c == 'Z') cs with
  | some i => splitAt cs i
  | none => return (cs, [])

/-- Whether what stands behind a date is a time with an offset. -/
def isTimeWithOffset (cs : List Char) : Except Fault Bool := do
  let (clock, offset) ← splitOffset cs
  if ← isTime clock then isOffset offset else return false

/-! ## Date-times -/

/-- A date in the first bytes of a text, with nothing or a time behind it. -/
def withDatePart (cs : List Char) (length : ℕ) : Reader Date := do
  let date ← datePart range (← ask (slice? cs 0 length))
  match ← ask (slice? cs length (byteLength cs)) with
  | [] => return date
  | _ :: rest => if ← isTimeWithOffset rest then return date else failure

/-- A date with or without a time behind it. -/
def parse (cs : List Char) : Reader Date :=
  datePartLengths.firstM (withDatePart range cs)

end Checked

end CustomFields.Calendar
