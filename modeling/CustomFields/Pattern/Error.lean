/-!
# Faults of patterns

Why the text of a pattern is refused.
-/

namespace CustomFields.Pattern

/-- Why a pattern is refused. -/
inductive Error where
  | unexpectedEnd
  | unrecognizedEscape
  | backreference
  | invalidHexadecimal
  | unclosedClass
  | invalidClassItem
  | invalidClassRange
  | unopenedGroup
  | unclosedGroup
  | lookAround
  | invalidGroupName
  | duplicateGroupName
  | invalidFlags
  | missingRepeated
  | invalidCount
  | nestedTooDeep
  | unknownProperty
  | unicodeNotAllowed
  | tooLarge
deriving DecidableEq, Repr

namespace Error

/-- What is said of a pattern that is refused. -/
def message : Error → String
  | .unexpectedEnd => "the pattern ends too early"
  | .unrecognizedEscape => "unrecognized escape sequence"
  | .backreference => "backreferences are not supported"
  | .invalidHexadecimal => "invalid hexadecimal escape"
  | .unclosedClass => "unclosed character class"
  | .invalidClassItem => "invalid item in a character class"
  | .invalidClassRange => "invalid character class range"
  | .unopenedGroup => "unopened group"
  | .unclosedGroup => "unclosed group"
  | .lookAround => "look-around is not supported"
  | .invalidGroupName => "invalid group name"
  | .duplicateGroupName => "duplicate group name"
  | .invalidFlags => "invalid flags"
  | .missingRepeated => "repetition operator without an expression"
  | .invalidCount => "invalid repetition count"
  | .nestedTooDeep => "the pattern nests too deep"
  | .unknownProperty => "Unicode property not found"
  | .unicodeNotAllowed => "Unicode is not allowed here"
  | .tooLarge => "the pattern is too large"

end Error

end CustomFields.Pattern
