import CustomFields.Json.Value

/-!
# Comparison operators

The six operators of the built-in rules. How two things compare is an `Ordering`, or nothing where
they have no order; then they differ, and no other operator holds.
-/

namespace CustomFields.Rule

/-- The comparisons that the rules make. -/
inductive Operator where
  | greater
  | less
  | greaterEqual
  | lessEqual
  | equal
  | notEqual
deriving DecidableEq, Repr

namespace Operator

/-- All operators. -/
def all : List Operator := [.greater, .less, .greaterEqual, .lessEqual, .equal, .notEqual]

/-- The name of an operator in parameters. -/
def name : Operator → String
  | .greater => "gt"
  | .less => "lt"
  | .greaterEqual => "gte"
  | .lessEqual => "lte"
  | .equal => "eq"
  | .notEqual => "neq"

/-- The names of all operators. -/
def names : List String := all.map name

/-- The operator with a name. -/
def ofName? (s : String) : Option Operator :=
  all.find? (·.name == s)

/-- The message about a name that no operator has. -/
def unknownMessage (s : String) : String :=
  "Unknown comparison operator: " ++ s

/-- The operator that a parameter names. -/
def ofJson? (v : Json.Value) : Option Operator :=
  v.string?.bind ofName?

/-- Whether the operator holds between two things that compare in a way. -/
def holds (op : Operator) (order : Option Ordering) : Bool :=
  match op with
  | .greater => order == some .gt
  | .less => order == some .lt
  | .greaterEqual => order == some .gt || order == some .eq
  | .lessEqual => order == some .lt || order == some .eq
  | .equal => order == some .eq
  | .notEqual => order != some .eq

end Operator

end CustomFields.Rule
