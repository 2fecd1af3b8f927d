/-!
# Faults of business rules

A rule answers yes or no about a value. It fails only if its parameters are wrong, or if it is not
registered at all.
-/

namespace CustomFields.Rule

/-- Why a rule could not run with its parameters. -/
inductive Failure where
  | missingParameter (name : String)
  | invalidParameter (name reason : String)
  | unexpectedParameter (name : String)
  | failed (message : String)
deriving DecidableEq, Repr

/-- What is said of a rule that fails. -/
def Failure.message : Failure → String
  | .missingParameter name => "missing required parameter '" ++ name ++ "'"
  | .invalidParameter name reason => "invalid parameter '" ++ name ++ "': " ++ reason
  | .unexpectedParameter name => "unexpected parameter '" ++ name ++ "'"
  | .failed message => message

/-- Why a rule that is called by its name gave no answer. -/
inductive Error where
  | unknown (rule : String)
  | execution (rule : String) (failure : Failure)
deriving DecidableEq, Repr

/-- What is said where a rule cannot be applied. -/
def Error.message : Error → String
  | .unknown rule => "Validation rule '" ++ rule ++ "' is not registered"
  | .execution rule failure => "Rule '" ++ rule ++ "' failed: " ++ failure.message

end CustomFields.Rule
