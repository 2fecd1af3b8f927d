import CustomFields.Decimal.Numeral
import CustomFields.Rule.Operator
import CustomFields.Rule.Parameters
import CustomFields.Text.Blank

/-!
# Comparing numbers

The rule that compares a value with a threshold. Both are read as binary64 numbers: numbers as
they are, truth values as one and zero, and texts as numerals in which underscores may separate
groups of digits. What has no such reading does not satisfy the rule.
-/

namespace CustomFields.Rule.Numeric

/-- Whether every underscore stands between two digits; `digitBefore` says whether a digit
stands in front. -/
def separatesDigits : Bool → List Char → Bool
  | _, [] => true
  | digitBefore, c :: rest =>
    if c = '_' then
      digitBefore && rest.head?.any Char.isDigit && separatesDigits false rest
    else separatesDigits c.isDigit rest

/-- Drops underscores between digits; any other underscore is refused. -/
def dropSeparators? (cs : List Char) : Option (List Char) :=
  if separatesDigits false cs then some (cs.filter (· != '_')) else none

/-- The number that a text shows. -/
def ofText? (s : String) : Option Binary64 := do
  let cs ← dropSeparators? (Text.trim s).toList
  Decimal.numeral? cs

/-- The number that a value shows. -/
def reading? : Json.Value → Option Binary64
  | .number n => some n.toBinary64
  | .bool b => some (.ofInt (if b then 1 else 0))
  | .string s => ofText? s
  | _ => none

/-- How two numbers compare; what is not a number has no order. -/
def order (x y : Binary64) : Option Ordering :=
  if x.lt y then some .lt
  else if y.lt x then some .gt
  else if x.eq y then some .eq
  else none

/-- The name that the rule is registered under. -/
def name : String := "numeric_comparation"

/-- Whether the value stands in the given relation to the threshold. -/
def rule : Function := fun value params _ => do
  params.rejectOthers ["threshold", "operator"]
  let threshold ← params.require "threshold"
  let operator ← params.require "operator"
  match reading? value, reading? threshold with
  | some x, some y =>
    match Operator.ofJson? operator with
    | some op => return op.holds (order x y)
    | none => return false
  | _, _ => return false

end CustomFields.Rule.Numeric
