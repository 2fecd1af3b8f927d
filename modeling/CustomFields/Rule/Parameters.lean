import CustomFields.Json.Value
import CustomFields.Calendar.Date
import CustomFields.Rule.Error

/-!
# Rules as functions

A rule sees a value, the parameters of its invocation, and the date of today. The two checks here
are those that rules make on their parameters.
-/

namespace CustomFields.Rule

/-- What a rule is given along with a value. -/
abbrev Parameters := Json.Object

/-- A business rule. -/
abbrev Function := Json.Value → Parameters → Calendar.Date → Except Failure Bool

namespace Parameters

/-- The value of a parameter that has to be there. -/
def require (params : Parameters) (name : String) : Except Failure Json.Value :=
  match Entries.get? name params with
  | some v => return v
  | none => throw (.missingParameter name)

/-- Fails on the first parameter that is not among the accepted ones. -/
def rejectOthers (params : Parameters) (accepted : List String) : Except Failure Unit :=
  match (Entries.keys params).find? (· ∉ accepted) with
  | some name => throw (.unexpectedParameter name)
  | none => return ()

end Parameters

end CustomFields.Rule
