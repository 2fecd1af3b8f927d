import CustomFields.Calendar.Date

/-!
# Dates and times of TOML documents

A value may be a date, a time of day, or both with or without an offset. It stays a text: the
letter between date and time is a capital, zeros at the end of a fraction are left out, and of a
fraction at most nine digits count.
-/

namespace CustomFields.Toml.Moment

/-- Reads a number of exactly `width` digits. -/
def readDigits? (width : Nat) (cs : List Char) : Option (List Char × List Char) :=
  let ds := cs.take width
  if ds.length = width && ds.all Char.isDigit then some (ds, cs.drop width) else none

/-- Reads two digits that stand for a number within bounds. -/
def readPair? (low high : Nat) (cs : List Char) : Option (List Char × List Char) := do
  let (ds, rest) ← readDigits? 2 cs
  let n := Nat.ofDigitChars 10 ds 0
  if low ≤ n ∧ n ≤ high then some (ds, rest) else none

/-- What is left behind a character that has to come next. -/
def expect? (c : Char) : List Char → Option (List Char)
  | c' :: rest => if c = c' then some rest else none
  | [] => none

/-- Reads a date; its text is what was read. -/
def readDate? (cs : List Char) : Option (List Char × List Char) := do
  let (year, rest) ← readDigits? 4 cs
  let (month, rest) ← readPair? 1 12 (← expect? '-' rest)
  let (day, rest) ← readPair? 1 31 (← expect? '-' rest)
  let number (ds : List Char) : Nat := Nat.ofDigitChars 10 ds 0
  let _ ← Calendar.Date.of? (number year) (number month) (number day)
  return (year ++ '-' :: month ++ '-' :: day, rest)

/-- The text of a fraction: nine digits at most, and none of the zeros at its end. -/
def fractionText (ds : List Char) : List Char :=
  match ((ds.take 9).reverse.dropWhile (· == '0')).reverse with
  | [] => []
  | ds => '.' :: ds

/-- Reads a time of day. -/
def readTime? (cs : List Char) : Option (List Char × List Char) := do
  let (hour, rest) ← readPair? 0 23 cs
  let (minute, rest) ← readPair? 0 59 (← expect? ':' rest)
  let (second, rest) ← readPair? 0 60 (← expect? ':' rest)
  let whole := hour ++ ':' :: minute ++ ':' :: second
  match rest with
  | '.' :: rest =>
    let (ds, rest) := rest.span Char.isDigit
    if ds.isEmpty then none else some (whole ++ fractionText ds, rest)
  | _ => some (whole, rest)

/-- Reads an offset, if there is one. A negative offset of nothing is written as a positive
one. -/
def readOffset? (cs : List Char) : Option (List Char × List Char) :=
  match cs with
  | c :: rest =>
    if c = 'Z' ∨ c = 'z' then some (['Z'], rest)
    else if c = '+' ∨ c = '-' then do
      let (hour, rest) ← readPair? 0 23 rest
      let (minute, rest) ← readPair? 0 59 (← expect? ':' rest)
      let digits := hour ++ ':' :: minute
      let sign := if digits.all (fun d => d == '0' || d == ':') then '+' else c
      return (sign :: digits, rest)
    else some ([], cs)
  | [] => some ([], [])

/-- The text of a whole date, time or both. A blank may stand between them. -/
def parse? (cs : List Char) : Option String := do
  match readDate? cs with
  | some (date, []) => return .ofList date
  | some (date, c :: rest) =>
    if c = 'T' ∨ c = 't' ∨ c = ' ' then
      let (time, rest) ← readTime? rest
      let (offset, rest) ← readOffset? rest
      if rest.isEmpty then return .ofList (date ++ 'T' :: time ++ offset) else none
    else none
  | none =>
    let (time, rest) ← readTime? cs
    if rest.isEmpty then return .ofList time else none

end CustomFields.Toml.Moment
