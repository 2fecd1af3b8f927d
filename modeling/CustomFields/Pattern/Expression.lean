/-!
# Pattern expressions

What the text of a pattern says, as it is written: sequences, alternatives, repetitions and
groups over single characters, classes of characters and conditions on a position. A change of
flags stands where it is written and holds up to the end of the group around it.
-/

namespace CustomFields.Pattern

/-- The switches of `(?…)`. -/
inductive Flag where
  /-- `i`: letters match both cases. -/
  | ignoreCase
  /-- `m`: line starts and ends are tested, not those of the text. -/
  | multiLine
  /-- `s`: a dot matches a line feed too. -/
  | dotMatchesAll
  /-- `U`: greedy and lazy repetitions swap their marks. -/
  | swapGreed
  /-- `u`: classes and letter case are those of all characters, not of ASCII. -/
  | unicode
  /-- `R`: carriage returns end lines too. -/
  | carriageReturns
  /-- `x`: blanks and comments in the pattern are skipped. -/
  | ignoreBlanks
deriving DecidableEq, Repr

/-- A switch and whether it is turned on. -/
abbrev FlagChange := Flag × Bool

/-- A condition on a position, as it is written. -/
inductive PositionMark where
  | caret
  | dollar
  | textStart
  | textEnd
  | wordEdge
  | notWordEdge
  | wordStart
  | wordEnd
  | wordStartHalf
  | wordEndHalf
deriving DecidableEq, Repr

/-- The classes that have a letter. -/
inductive Shorthand where
  | digit
  | space
  | word
deriving DecidableEq, Repr

/-- The classes that have a name between `[:` and `:]`. -/
inductive AsciiClass where
  | alnum | alpha | ascii | blank | cntrl | digit | graph
  | lower | print | punct | space | upper | word | xdigit
deriving DecidableEq, Repr

/-- A class with a Unicode property, which may have a value. -/
structure PropertyClass where
  name : String
  value : Option String
  negated : Bool
deriving DecidableEq, Repr

/-- How two sets in a class are put together. -/
inductive SetOperator where
  | intersection
  | difference
  | symmetricDifference
deriving DecidableEq, Repr

/-- A literal character, and whether it is given as a byte by two hexadecimal digits. -/
structure Literal where
  char : Char
  isByte : Bool
deriving DecidableEq, Repr

/-- What stands between the brackets of a class. -/
inductive ClassSet where
  | literal (l : Literal)
  | range (low high : Literal)
  | ascii (kind : AsciiClass) (negated : Bool)
  | shorthand (kind : Shorthand) (negated : Bool)
  | property (p : PropertyClass)
  | bracketed (negated : Bool) (set : ClassSet)
  | union (sets : List ClassSet)
  | operation (op : SetOperator) (left right : ClassSet)

instance : Inhabited ClassSet := ⟨.union []⟩

/-- A regular expression, as it is written. -/
inductive Expression where
  | empty
  | flags (changes : List FlagChange)
  | literal (l : Literal)
  | dot
  | mark (m : PositionMark)
  | shorthand (kind : Shorthand) (negated : Bool)
  | property (p : PropertyClass)
  | bracketed (negated : Bool) (set : ClassSet)
  | repetition (e : Expression) (least : Nat) (most : Option Nat)
  | group (changes : List FlagChange) (e : Expression)
  | sequence (es : List Expression)
  | alternatives (es : List Expression)

instance : Inhabited Expression := ⟨.empty⟩

/-! ## Nesting -/

/-- How deep the brackets and operators of a class nest. -/
def ClassSet.depth : ClassSet → Nat
  | .bracketed _ s => s.depth + 1
  | .union (s₁ :: s₂ :: ss) => go (s₁ :: s₂ :: ss) + 1
  | .union ss => go ss
  | .operation _ l r => max l.depth r.depth + 1
  | _ => 0
where
  go : List ClassSet → Nat
    | [] => 0
    | s :: ss => max s.depth (go ss)

/-- How deep an expression nests. -/
def Expression.depth : Expression → Nat
  | .bracketed _ s => s.depth + 1
  | .repetition e _ _ => e.depth + 1
  | .group _ e => e.depth + 1
  | .sequence es => go es + 1
  | .alternatives es => go es + 1
  | _ => 0
where
  go : List Expression → Nat
    | [] => 0
    | e :: es => max e.depth (go es)

end CustomFields.Pattern
