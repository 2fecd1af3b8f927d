import CustomFields.Data.Entries
import CustomFields.Decimal.Binary64

/-!
# JSON values

A number is an integer of the signed or unsigned 64-bit range, or a binary64 number; the two
are never equal. The members of an object stand in the order in which they are written:
free-form objects that were read from a text have their keys in order and each key once, and
documents of the library's own types have the order of their declaration.
-/

namespace CustomFields.Json

-- Powers are those of the core library, whatever else is imported.
attribute [local instance (high)] instPowNat

/-- A number: an integer, or one with a point or an exponent. -/
inductive Number where
  | integer (value : Int)
  | float (value : Binary64)
deriving DecidableEq, Repr

/-- A JSON value. -/
inductive Value where
  | null
  | bool (value : Bool)
  | number (value : Number)
  | string (value : String)
  | array (items : List Value)
  | object (members : List (String × Value))

instance : Inhabited Value := ⟨.null⟩

/-- The members of a free-form object, keys in order. -/
abbrev Object := List (String × Value)

/-- A member that is left out where there is no value. -/
def memberIf (key : String) : Option Value → Object
  | none => []
  | some v => [(key, v)]

namespace Number

/-- The number as a signed 64-bit integer. -/
def toInt64? : Number → Option Int
  | .integer n => if -2 ^ (63 : Nat) ≤ n ∧ n < 2 ^ (63 : Nat) then some n else none
  | .float _ => none

/-- Whether the number is an integer of the signed or the unsigned 64-bit range. -/
def isInteger : Number → Bool
  | .integer n => -2 ^ (63 : Nat) ≤ n && n < 2 ^ (64 : Nat)
  | .float _ => false

/-- The number, rounded to binary64. -/
def toBinary64 : Number → Binary64
  | .integer n => .ofInt n
  | .float x => x

end Number

namespace Value

/-- An integer. -/
def int (n : Int) : Value := .number (.integer n)

/-- A number of things. -/
def nat (n : Nat) : Value := .number (.integer n)

/-- An array of texts. -/
def strings (ss : List String) : Value := .array (ss.map .string)

/-- The text that a value is. -/
def string? : Value → Option String
  | .string s => some s
  | _ => none

/-- Whether a value is null. -/
def isNull : Value → Bool
  | .null => true
  | _ => false

/-- The member of an object with a key. -/
def member? (v : Value) (key : String) : Option Value :=
  match v with
  | .object members => Entries.get? key members
  | _ => none

/-- The name of the kind of a value. -/
def kindName : Value → String
  | .null => "null"
  | .bool _ => "boolean"
  | .number _ => "number"
  | .string _ => "string"
  | .array _ => "array"
  | .object _ => "object"

end Value

end CustomFields.Json
