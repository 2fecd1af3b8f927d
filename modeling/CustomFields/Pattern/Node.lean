import CustomFields.Pattern.Expression
import CustomFields.Pattern.Error
import CustomFields.Unicode.LetterCase
import CustomFields.Unicode.Lookup

/-!
# The meaning of pattern expressions

A `Node` is an expression without flags: its leaves are sets of characters and conditions on a
position that need no context. `Expression.resolve` threads the flags through an expression in
the order of its text, so a change of flags inside a group ends with the group and one inside a
branch holds for the branches behind it too.
-/

namespace CustomFields.Pattern

/-! ## Conditions on a position -/

/-- How the words on the two sides of a position are to lie. -/
inductive WordRule where
  | edge
  | notEdge
  | start
  | stop
  | startHalf
  | stopHalf
deriving DecidableEq, Repr

/-- Whether a rule holds at a place, by the characters around it. -/
def WordRule.holds (before after : Bool) : WordRule → Bool
  | .edge => before != after
  | .notEdge => before == after
  | .start => !before && after
  | .stop => before && !after
  | .startHalf => !before
  | .stopHalf => !after

/-- A condition on the characters before and after a position. -/
inductive Anchor where
  | textStart
  | textEnd
  /-- A line starts; carriage returns count if so marked. -/
  | lineStart (carriageReturns : Bool)
  | lineEnd (carriageReturns : Bool)
  | word (rule : WordRule) (characters : CodePoints)

/-- Whether a condition holds between two characters, of which either may be missing. Between a
carriage return and its line feed no line ends or starts. -/
def Anchor.holds (before after : Option Char) : Anchor → Bool
  | .textStart => before.isNone
  | .textEnd => after.isNone
  | .lineStart false => before.isNone || before == some '\n'
  | .lineStart true =>
    before.isNone || before == some '\n' || (before == some '\r' && after != some '\n')
  | .lineEnd false => after.isNone || after == some '\n'
  | .lineEnd true =>
    after.isNone || after == some '\r' || (after == some '\n' && before != some '\r')
  | .word rule characters =>
    rule.holds (before.any characters.contains) (after.any characters.contains)

/-! ## Nodes -/

/-- What a pattern looks for at one place. -/
inductive Leaf where
  | oneOf (set : CodePoints)
  | anchor (a : Anchor)

/-- A pattern with all flags worked in. -/
inductive Node (α : Type) where
  | empty
  | leaf (l : α)
  | sequence (p q : Node α)
  | either (p q : Node α)
  | repetition (p : Node α) (least : Nat) (most : Option Nat)

/-- A pattern with other leaves. -/
def Node.map {α β : Type} (f : α → β) : Node α → Node β
  | .empty => .empty
  | .leaf l => .leaf (f l)
  | .sequence p q => .sequence (p.map f) (q.map f)
  | .either p q => .either (p.map f) (q.map f)
  | .repetition p least most => .repetition (p.map f) least most

/-! ## Flags -/

/-- The flags that bear on the meaning of an expression. -/
structure Flags where
  ignoreCase : Bool
  multiLine : Bool
  dotMatchesAll : Bool
  unicode : Bool
  carriageReturns : Bool

namespace Flags

/-- The flags at the start of a pattern. -/
def initial : Flags := ⟨false, false, false, true, false⟩

/-- The flags after one change. -/
def change (fs : Flags) : FlagChange → Flags
  | (.ignoreCase, on) => { fs with ignoreCase := on }
  | (.multiLine, on) => { fs with multiLine := on }
  | (.dotMatchesAll, on) => { fs with dotMatchesAll := on }
  | (.unicode, on) => { fs with unicode := on }
  | (.carriageReturns, on) => { fs with carriageReturns := on }
  | (.swapGreed, _) | (.ignoreBlanks, _) => fs

/-- The flags after some changes. -/
def changeAll (fs : Flags) (changes : List FlagChange) : Flags :=
  changes.foldl change fs

end Flags

/-! ## Sets -/

/-- The characters of some ranges. -/
private def ofChars (ranges : List (Char × Char)) : CodePoints :=
  .ofRanges (ranges.map fun (low, high) => (low.toNat, high.toNat))

/-- The characters of a class that is named in brackets. -/
def AsciiClass.codePoints : AsciiClass → CodePoints
  | .alnum => ofChars [('0', '9'), ('A', 'Z'), ('a', 'z')]
  | .alpha => ofChars [('A', 'Z'), ('a', 'z')]
  | .ascii => ofChars [('\x00', '\x7F')]
  | .blank => ofChars [('\t', '\t'), (' ', ' ')]
  | .cntrl => ofChars [('\x00', '\x1F'), ('\x7F', '\x7F')]
  | .digit => ofChars [('0', '9')]
  | .graph => ofChars [('!', '~')]
  | .lower => ofChars [('a', 'z')]
  | .print => ofChars [(' ', '~')]
  | .punct => ofChars [('!', '/'), (':', '@'), ('[', '\x60'), ('\x7B', '~')]
  | .space => ofChars [('\t', '\r'), (' ', ' ')]
  | .upper => ofChars [('A', 'Z')]
  | .word => ofChars [('0', '9'), ('A', 'Z'), ('_', '_'), ('a', 'z')]
  | .xdigit => ofChars [('0', '9'), ('A', 'F'), ('a', 'f')]

/-- The characters of a shorthand, among all characters or those of ASCII. -/
def Shorthand.codePoints (unicode : Bool) : Shorthand → CodePoints
  | .digit =>
    if unicode then Unicode.Category.decimalNumber.codePoints else AsciiClass.digit.codePoints
  | .space =>
    if unicode then Unicode.Property.whiteSpace.codePoints else AsciiClass.space.codePoints
  | .word => if unicode then Unicode.wordCharacters else AsciiClass.word.codePoints

namespace Flags

/-- Adds the other case of the letters of a set, where case is ignored. -/
def foldCase (fs : Flags) (s : CodePoints) : CodePoints :=
  if !fs.ignoreCase then s
  else if fs.unicode then Unicode.closeUnderFolding s
  else
    let upper := s.inter AsciiClass.upper.codePoints
    let lower := s.inter AsciiClass.lower.codePoints
    .ofRanges (s.ranges ++ upper.ranges.map (fun (a, b) => (a + 32, b + 32)) ++
      lower.ranges.map (fun (a, b) => (a - 32, b - 32)))

/-- Takes the complement of a set if asked to. Without Unicode a set has to stay inside ASCII. -/
def negateIf (fs : Flags) (negated : Bool) (s : CodePoints) : Except Error CodePoints :=
  let s := if negated then s.complement else s
  if !fs.unicode && !s.isAscii then throw .unicodeNotAllowed else return s

/-- The character of a literal. Without Unicode a byte has to be an ASCII character. -/
def literalChar (fs : Flags) (l : Literal) : Except Error Char :=
  if !fs.unicode && l.isByte && 0x7F < l.char.toNat then throw .unicodeNotAllowed
  else return l.char

/-- The character of a literal inside a class, which without Unicode is an ASCII character. -/
def classLiteralChar (fs : Flags) (l : Literal) : Except Error Char :=
  if !fs.unicode && 0x7F < l.char.toNat then throw .unicodeNotAllowed else return l.char

/-- The characters of a shorthand, or the others. -/
def shorthandSet (fs : Flags) (kind : Shorthand) (negated : Bool) : Except Error CodePoints :=
  fs.negateIf negated (kind.codePoints fs.unicode)

/-- The characters that have a property, which is asked for by its name, with or without a value. -/
def propertySet (fs : Flags) (p : PropertyClass) : Except Error CodePoints :=
  if !fs.unicode then throw .unicodeNotAllowed
  else
    let set? := match p.value with
      | none => Unicode.named? p.name
      | some v => Unicode.valued? p.name v
    match set? with
    | none => throw .unknownProperty
    | some s => fs.negateIf p.negated (fs.foldCase s)

/-- The set of what stands between the brackets of a class. -/
def classSet (fs : Flags) : ClassSet → Except Error CodePoints
  | .literal l => return .single (← fs.classLiteralChar l)
  | .range low high => return .range (← fs.classLiteralChar low) (← fs.classLiteralChar high)
  | .ascii kind negated => fs.negateIf negated (fs.foldCase kind.codePoints)
  | .shorthand kind negated => fs.shorthandSet kind negated
  | .property p => fs.propertySet p
  | .bracketed negated s => do fs.negateIf negated (fs.foldCase (← classSet fs s))
  | .union ss => go ss
  | .operation op l r => do
    let left := fs.foldCase (← classSet fs l)
    let right := fs.foldCase (← classSet fs r)
    return match op with
      | .intersection => left.inter right
      | .difference => left.diff right
      | .symmetricDifference => left.symmDiff right
where
  go : List ClassSet → Except Error CodePoints
    | [] => return .empty
    | s :: ss => do return (← classSet fs s).union (← go ss)

/-- The characters that a dot matches. -/
def dotSet (fs : Flags) : Except Error CodePoints :=
  if !fs.unicode then throw .unicodeNotAllowed
  else if fs.dotMatchesAll then return CodePoints.empty.complement
  else if fs.carriageReturns then return ((CodePoints.single '\n').union (.single '\r')).complement
  else return (CodePoints.single '\n').complement

/-- What a mark of a position means with the flags that hold there. -/
def anchor (fs : Flags) (m : PositionMark) : Anchor :=
  let word (rule : WordRule) : Anchor := .word rule (Shorthand.word.codePoints fs.unicode)
  match m with
  | .caret => if fs.multiLine then .lineStart fs.carriageReturns else .textStart
  | .dollar => if fs.multiLine then .lineEnd fs.carriageReturns else .textEnd
  | .textStart => .textStart
  | .textEnd => .textEnd
  | .wordEdge => word .edge
  | .notWordEdge => word .notEdge
  | .wordStart => word .start
  | .wordEnd => word .stop
  | .wordStartHalf => word .startHalf
  | .wordEndHalf => word .stopHalf

end Flags

/-! ## Expressions -/

/-- The node of an expression, and the flags that hold behind it. -/
def Expression.resolve (fs : Flags) : Expression → Except Error (Node Leaf × Flags)
  | .empty => return (.empty, fs)
  | .flags changes => return (.empty, fs.changeAll changes)
  | .literal l => do
    let c ← fs.literalChar l
    return (.leaf (.oneOf (fs.foldCase (.single c))), fs)
  | .dot => return (.leaf (.oneOf (← fs.dotSet)), fs)
  | .mark m => return (.leaf (.anchor (fs.anchor m)), fs)
  | .shorthand kind negated => return (.leaf (.oneOf (← fs.shorthandSet kind negated)), fs)
  | .property p => return (.leaf (.oneOf (← fs.propertySet p)), fs)
  | .bracketed negated s => do
    return (.leaf (.oneOf (← fs.negateIf negated (fs.foldCase (← fs.classSet s)))), fs)
  | .repetition e least most => do
    let (p, fs) ← e.resolve fs
    return (.repetition p least most, fs)
  | .group changes e => do
    let (p, _) ← e.resolve (fs.changeAll changes)
    return (p, fs)
  | .sequence es => sequence fs es
  | .alternatives es => alternatives fs es
where
  sequence (fs : Flags) : List Expression → Except Error (Node Leaf × Flags)
    | [] => return (.empty, fs)
    | e :: es => do
      let (p, fs) ← e.resolve fs
      let (q, fs) ← sequence fs es
      return (.sequence p q, fs)
  alternatives (fs : Flags) : List Expression → Except Error (Node Leaf × Flags)
    | [] => return (.empty, fs)
    | [e] => e.resolve fs
    | e :: es => do
      let (p, fs) ← e.resolve fs
      let (q, fs) ← alternatives fs es
      return (.either p q, fs)

/-! ## Size -/

/-- What a leaf takes in a matching automaton over bytes, in bytes. -/
def Leaf.size : Leaf → Nat
  | .oneOf s =>
    if s.isAscii then if s.ranges.length = 1 then 32 else 64 + 8 * s.ranges.length
    else 32 + 60 * s.ranges.length
  | .anchor _ => 32

/-- Whether only the empty text matches. -/
def Node.isEmptyOnly : Node Leaf → Bool
  | .empty => true
  | .leaf (.oneOf _) => false
  | .leaf (.anchor _) => true
  | .sequence p q => p.isEmptyOnly && q.isEmptyOnly
  | .either p q => p.isEmptyOnly && q.isEmptyOnly
  | .repetition p _ most => p.isEmptyOnly || most == some 0

/-- What a node takes in a matching automaton, in bytes: a repetition takes its body as often as
its counts say. The charges are estimates: the size of a compiled automaton is not determined by what
it matches. So a pattern that comes close to the limit may be taken here where another matcher
refuses it, or the other way round. -/
def Node.size : Node Leaf → Nat
  | .empty => 32
  | .leaf l => l.size
  | .sequence p q => p.size + q.size
  | .either p q => p.size + q.size + 72
  | .repetition p least most =>
    if p.isEmptyOnly then p.size + 64
    else
      match most with
      | none => max least 1 * p.size + 64
      | some most => least * p.size + (most - least) * (p.size + 40)

/-- The size of a pattern that is not exceeded. -/
def maxSize : Nat := 10 * (1 <<< 20)

/-- The node of a whole pattern, if it is not too large to be matched. -/
def Expression.toNode (e : Expression) : Except Error (Node Leaf) := do
  let (p, _) ← e.resolve .initial
  if maxSize < p.size then throw .tooLarge
  return p

end CustomFields.Pattern
