import CustomFields.Pattern.Node
import CustomFields.Pattern.Reader

/-!
# Matching patterns

A text of `n` characters has the positions 0 to `n`, and a set of positions is a number: bit `i`
says whether position `i` is in it. On such sets a leaf is one step, and the ends of all matches
of a node that start in a set are computed at once. A pattern matches a text if some match
starts somewhere. The time is bounded by the sizes of the two, whatever the pattern is.
-/

namespace CustomFields

-- Powers are those of the core library, whatever else is imported.
attribute [local instance (high)] instPowNat

namespace Pattern

/-- What a leaf does to a set of positions: it keeps those of a mask, and goes one on if it
takes a character. -/
structure Move where
  mask : Nat
  takesCharacter : Bool

/-- Makes a move in a set of states, each of which is a bit. -/
def Move.apply (m : Move) (s : Nat) : Nat :=
  if m.takesCharacter then (s &&& m.mask) <<< 1 else s &&& m.mask

/-- The number with the given bits, the lowest first. -/
def maskOf : List Bool → Nat
  | [] => 0
  | b :: bs => 2 * maskOf bs + b.toNat

/-- The characters on the two sides of every position. -/
def surroundings (cs : List Char) : List (Option Char × Option Char) :=
  (none :: cs.map some).zip (cs.map some ++ [none])

/-- What a leaf does on a text. -/
def Leaf.move (cs : List Char) : Leaf → Move
  | .oneOf set => ⟨maskOf (cs.map set.contains), true⟩
  | .anchor a => ⟨maskOf ((surroundings cs).map fun (before, after) => a.holds before after), false⟩

/-- Applies a step a number of times, or until it changes nothing. -/
def iterate (step : Nat → Nat) : Nat → Nat → Nat
  | 0, s => s
  | n + 1, s =>
    let s' := step s
    if s' = s then s else iterate step n s'

/-- Applies a step at most a number of times and collects what is reached, until nothing new is. -/
def accumulate (step : Nat → Nat) : Nat → Nat → Nat
  | 0, s => s
  | n + 1, s =>
    let s' := s ||| step s
    if s' = s then s else accumulate step n s'

/-- The ends of the matches that start in a set of positions below `positions`. -/
def Node.ends (positions : Nat) : Node Move → Nat → Nat
  | .empty, s => s
  | .leaf m, s => m.apply s
  | .sequence p q, s => q.ends positions (p.ends positions s)
  | .either p q, s => p.ends positions s ||| q.ends positions s
  | .repetition p least most, s =>
    let s := iterate (p.ends positions) least s
    match most with
    | none => accumulate (p.ends positions) positions s
    | some most => accumulate (p.ends positions) (min (most - least) positions) s

end Pattern

/-- A pattern: its text and what the text means. -/
structure Pattern where
  source : String
  node : Pattern.Node Pattern.Leaf

namespace Pattern

/-- Reads a pattern. Beside what the dialect refuses it refuses classes by the age of characters and
by the rules of segmentation, whose tables are left out. -/
def parse (source : String) : Except Error Pattern := do
  let e ← Expression.parse source
  return ⟨source, ← e.toNode⟩

/-- Whether a pattern matches somewhere in a text. -/
def isMatch (p : Pattern) (text : String) : Bool :=
  let cs := text.toList
  let positions := cs.length + 1
  (p.node.map (Leaf.move cs)).ends positions (2 ^ positions - 1) != 0

end Pattern

end CustomFields
