import CustomFields.Text.Digit

/-!
# Sets of code points

A set of code points is kept as its maximal ranges, in order. `contains` asks about one
character; union, complement and what is built from them work on the ranges. `ofText` reads the
text form in which the tables of the character database are written: ranges of hexadecimal
numbers such as `41-5A`, single numbers such as `AA`, and ranges of which only every second
number counts, such as `100-12E/2`.
-/

namespace CustomFields

/-- A set of code points, as ranges that are apart and in order. -/
structure CodePoints where
  ranges : List (Nat × Nat)
deriving DecidableEq, Repr

namespace CodePoints

/-- The last code point. -/
def maximum : Nat := 0x10FFFF

/-- The empty set. -/
def empty : CodePoints := ⟨[]⟩

/-- Whether a character is in a set. -/
def contains (s : CodePoints) (c : Char) : Bool :=
  s.ranges.any fun (low, high) => low ≤ c.toNat && c.toNat ≤ high

/-- Joins a range with those behind it as far as they overlap or touch. -/
def joinInto (low high : Nat) : List (Nat × Nat) → List (Nat × Nat)
  | [] => [(low, high)]
  | (low', high') :: rest =>
    if low' ≤ high + 1 then joinInto low (max high high') rest
    else (low, high) :: joinInto low' high' rest

/-- The set of the code points in some ranges, which may overlap. -/
def ofRanges (ranges : List (Nat × Nat)) : CodePoints :=
  match ranges.mergeSort (fun a b => a.1 ≤ b.1) with
  | [] => empty
  | (low, high) :: rest => ⟨joinInto low high rest⟩

/-- The set of one character. -/
def single (c : Char) : CodePoints := ⟨[(c.toNat, c.toNat)]⟩

/-- The set of the characters from one to another. -/
def range (low high : Char) : CodePoints := ⟨[(low.toNat, high.toNat)]⟩

/-- The union of two sets. -/
def union (s t : CodePoints) : CodePoints := ofRanges (s.ranges ++ t.ranges)

/-- The ranges between those of a list, from a code point on. -/
def gaps (start : Nat) : List (Nat × Nat) → List (Nat × Nat)
  | [] => if start ≤ maximum then [(start, maximum)] else []
  | (low, high) :: rest =>
    if start < low then (start, low - 1) :: gaps (high + 1) rest else gaps (high + 1) rest

/-- What is not in a set. -/
def complement (s : CodePoints) : CodePoints := ⟨gaps 0 s.ranges⟩

/-- The intersection of two sets. -/
def inter (s t : CodePoints) : CodePoints := (s.complement.union t.complement).complement

/-- What is in the first set and not in the second one. -/
def diff (s t : CodePoints) : CodePoints := s.inter t.complement

/-- What is in one of two sets, but not in both. -/
def symmDiff (s t : CodePoints) : CodePoints := (s.diff t).union (t.diff s)

/-- Whether no code point of the set lies beyond ASCII. -/
def isAscii (s : CodePoints) : Bool :=
  s.ranges.all fun (_, high) => high < 0x80

/-! ## Text form -/

/-- The number that a row of hexadecimal digits stands for. -/
def hexNumber (cs : List Char) : Nat :=
  (Digit.number? 16 cs).getD 0

/-- The ranges that one entry of a table stands for. -/
def entryRanges (entry : String) : List (Nat × Nat) :=
  let (low, rest) := entry.toList.span (· != '-')
  match rest with
  | [] => [(hexNumber low, hexNumber low)]
  | _ :: rest =>
    let (high, stride) := rest.span (· != '/')
    let low := hexNumber low
    let high := hexNumber high
    if stride.isEmpty then [(low, high)]
    else (List.range ((high - low) / 2 + 1)).map fun i => (low + 2 * i, low + 2 * i)

/-- The set that a table stands for. -/
def ofText (text : String) : CodePoints :=
  if text.isEmpty then empty else ofRanges ((text.splitOn " ").flatMap entryRanges)

end CodePoints

end CustomFields
