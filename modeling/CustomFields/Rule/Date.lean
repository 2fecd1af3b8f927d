import CustomFields.Calendar.IsoText
import CustomFields.Rule.Operator
import CustomFields.Rule.Parameters

/-!
# Comparing dates

The rule that compares a date with a reference date, which is that of today or given as a text.
Values without a date do not satisfy the rule.
-/

namespace CustomFields.Rule.Date

/-- The name that the rule is registered under. -/
def name : String := "date_comparation"

/-- The references that mean the date of today. -/
def relativeReferences : List String := ["now", "today"]

/-- The date that a value shows. -/
def reading? (v : Json.Value) : Option Calendar.Date := do
  let s ← v.string?
  if s.isEmpty then none else Calendar.parseIsoDate? s

/-- Whether the value stands in the given relation to the reference date. -/
def rule : Function := fun value params today => do
  params.rejectOthers ["operator", "reference_date"]
  let reference ← params.require "reference_date"
  let operator ← params.require "operator"
  match reading? value with
  | none => return false
  | some date =>
    match reference with
    | .string text =>
      let reference? :=
        if text ∈ relativeReferences then some today else Calendar.parseIsoDate? text
      match reference?, Operator.ofJson? operator with
      | some reference, some op => return op.holds (some (date.compare reference))
      | _, _ => return false
    | _ => throw (.invalidParameter "reference_date" "expected a string")

end CustomFields.Rule.Date
