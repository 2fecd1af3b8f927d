import CustomFields.Calendar.Date
import CustomFields.Text.Blank

/-!
# Points in time

A timestamp counts seconds from the start of 1970 in UTC, and nanoseconds; a leap second keeps
the count of the second before it and has more than a thousand million nanoseconds. The text is
RFC 3339: it is read with any offset and written in UTC, with as many groups of three fraction
digits as lose nothing.
-/

namespace CustomFields.Calendar

-- Powers are those of the core library, whatever else is imported.
attribute [local instance (high)] instPowNat

/-- A moment, in seconds and nanoseconds since the start of 1970. -/
structure Timestamp where
  seconds : Int
  nanoseconds : Nat
deriving DecidableEq, Repr

namespace Timestamp

/-- The day number of the day on which the count starts. -/
def epochDay : Int := 719162

/-- Earlier points come first. -/
def compare (a b : Timestamp) : Ordering :=
  (Ord.compare a.seconds b.seconds).then (Ord.compare a.nanoseconds b.nanoseconds)

/-- The fraction of a second, with the fewest groups of three digits. -/
def fractionText (n : Nat) : String :=
  if n = 0 then ""
  else if n % 1000000 = 0 then "." ++ Date.padded 3 (n / 1000000)
  else if n % 1000 = 0 then "." ++ Date.padded 6 (n / 1000)
  else "." ++ Date.padded 9 n

/-- The text of a timestamp. -/
def text (t : Timestamp) : String :=
  let second := (t.seconds % 86400).toNat
  let extra := t.nanoseconds / 10 ^ (9 : Nat)
  (Date.ofDayNumber (t.seconds / 86400 + epochDay)).text ++ "T" ++
    Date.padded 2 (second / 3600) ++ ":" ++ Date.padded 2 (second / 60 % 60) ++ ":" ++
    Date.padded 2 (second % 60 + extra) ++ fractionText (t.nanoseconds % 10 ^ (9 : Nat)) ++ "Z"

/-! ## Reading -/

/-- Reads one up to `width` digits. -/
def readDigits? (width : Nat) (cs : List Char) : Option (Nat × List Char) :=
  let ds := (cs.take width).takeWhile Char.isDigit
  if ds.isEmpty then none else some (Nat.ofDigitChars 10 ds 0, cs.drop ds.length)

/-- Reads a number of one or two digits, with the blanks in front of it. -/
def readNumber? (cs : List Char) : Option (Nat × List Char) :=
  readDigits? 2 (Text.trimStart cs)

/-- Reads a year: up to four digits, or a sign and any number of digits. -/
def readYear? (cs : List Char) : Option (Int × List Char) :=
  match Text.trimStart cs with
  | '-' :: rest => (readDigits? rest.length rest).map fun (n, r) => (-n, r)
  | '+' :: rest => (readDigits? rest.length rest).map fun (n, r) => (n, r)
  | rest => (readDigits? 4 rest).map fun (n, r) => (n, r)

/-- Reads a mark between two numbers, with the blanks in front of it. -/
def expect? (c : Char) (cs : List Char) : Option (List Char) :=
  match Text.trimStart cs with
  | [] => none
  | d :: rest => if c = d then some rest else none

/-- Reads the fraction of a second, if there is one; digits behind the ninth are discarded. -/
def readFraction? : List Char → Option (Nat × List Char)
  | '.' :: rest =>
    let ds := rest.takeWhile Char.isDigit
    if ds.isEmpty then none
    else
      let first := ds.take 9
      some (Nat.ofDigitChars 10 first 0 * 10 ^ (9 - first.length), rest.drop ds.length)
  | rest => some (0, rest)

/-- The ways to write that there is no offset. -/
def isZulu (cs : List Char) : Bool :=
  cs == ['Z'] || cs == ['z'] || (cs.map Char.toUpper) == ['U', 'T', 'C']

/-- Reads an offset in seconds, up to the end of the text. -/
def readOffset? (cs : List Char) : Option Int := do
  let cs := Text.trimEnd (Text.trimStart cs)
  if isZulu cs then return 0
  let (sign, cs) ← match cs with
    | '+' :: r => some ((1 : Int), r)
    | '-' :: r => some (-1, r)
    | '−' :: r => some (-1, r)
    | _ => none
  match cs with
  | a :: b :: rest =>
    match rest.dropWhile (fun c => c == ':' || Text.isBlank c) with
    | [c, d] =>
      if a.isDigit && b.isDigit && c.isDigit && d.isDigit && c < '6' then
        let minutes := Nat.ofDigitChars 10 [a, b] 0 * 60 + Nat.ofDigitChars 10 [c, d] 0
        if minutes < 24 * 60 then return sign * (minutes * 60) else none
      else none
    | _ => none
  | _ => none

/-- Reads a timestamp. Letters between date and time may have either case or be a blank. -/
def parse? (s : String) : Option Timestamp := do
  let (year, cs) ← readYear? s.toList
  let (month, cs) ← readNumber? (← expect? '-' cs)
  let (day, cs) ← readNumber? (← expect? '-' cs)
  let cs ← match cs with
    | c :: rest => if c = 'T' ∨ c = 't' ∨ c = ' ' then some rest else none
    | [] => none
  let (hour, cs) ← readNumber? cs
  let (minute, cs) ← readNumber? (← expect? ':' cs)
  let (second, cs) ← readNumber? (← expect? ':' cs)
  let (fraction, cs) ← readFraction? cs
  let offset ← readOffset? cs
  if 23 < hour ∨ 59 < minute ∨ 60 < second ∨ year < -262143 ∨ 262142 < year then none
  let date ← Date.of? year month day
  let clock := hour * 3600 + minute * 60 + min second 59
  return { seconds := (date.dayNumber - epochDay) * 86400 + clock - offset
           nanoseconds := if second = 60 then fraction + 10 ^ (9 : Nat) else fraction }

end Timestamp

end CustomFields.Calendar
