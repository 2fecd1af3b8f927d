import CustomFields.Pattern.Error
import CustomFields.Pattern.Expression
import CustomFields.Text.Blank
import CustomFields.Text.Digit
import CustomFields.Unicode.Lookup

/-!
# Reading patterns

The reader goes once through the text of a pattern. Its state is what is left of the text, the
names of the groups so far, and whether blanks and comments are skipped, which a flag decides.
Every step of a recursion takes a character or opens a group or class that takes one, so twice
the length of the text bounds its depth.
-/

namespace CustomFields.Pattern

/-- What is left to read, and what has been met so far. -/
structure ReaderState where
  rest : List Char
  ignoreBlanks : Bool
  groupNames : List String

/-- Reads a part of a pattern. -/
abbrev Reader := StateT ReaderState (Except Error)

namespace Reader

/-- The next character, which stays. -/
def peek : Reader (Option Char) := do
  return (← get).rest.head?

/-- Leaves a character behind. -/
def advance : Reader Unit :=
  modify fun s => { s with rest := s.rest.drop 1 }

/-- Drops blanks and comments, in a comment from the start or not. -/
def dropLayout : Bool → List Char → List Char
  | _, [] => []
  | true, c :: cs => dropLayout (c != '\n') cs
  | false, c :: cs =>
    if Text.isBlank c then dropLayout false cs
    else if c = '#' then dropLayout true cs
    else c :: cs

/-- Skips blanks and comments where they are to be skipped. -/
def skipLayout : Reader Unit :=
  modify fun s => if s.ignoreBlanks then { s with rest := dropLayout false s.rest } else s

/-- Takes a character, and the layout behind it. -/
def advanceLayout : Reader Unit := do
  advance
  skipLayout

/-- Whether nothing is left. -/
def isAtEnd : Reader Bool := do
  return (← get).rest.isEmpty

/-- The character at the front; the end of the text is an error. -/
def current (e : Error) : Reader Char := do
  match ← peek with
  | some c => return c
  | none => throw e

/-- Takes a given row of characters if it stands at the front. -/
def takeIf (cs : List Char) : Reader Bool := do
  let s ← get
  if cs.isPrefixOf s.rest then
    set { s with rest := s.rest.drop cs.length }
    return true
  return false

/-- The character behind the one at the front. -/
def peekNext : Reader (Option Char) := do
  return ((← get).rest.drop 1).head?

/-- The character behind the one at the front and its layout. -/
def peekBeyondLayout : Reader (Option Char) := do
  let s ← get
  let rest := s.rest.drop 1
  return (if s.ignoreBlanks then dropLayout false rest else rest).head?

/-- The length of the rest, which bounds loops. -/
def fuel : Reader Nat := do
  return (← get).rest.length + 1

end Reader

open Reader

/-! ## Escapes -/

/-- The character with a code, if there is one. -/
def scalar? (n : Nat) : Option Char :=
  if h : n.isValidChar then some (Char.ofNatAux n h) else none

/-- Reads a number of hexadecimal digits, the first of which is at the front. -/
def readHexDigits : Nat → Nat → Reader Nat
  | 0, n => return n
  | count + 1, n => do
    match Digit.value? 16 (← current .unexpectedEnd) with
    | none => throw .invalidHexadecimal
    | some d =>
      advanceLayout
      readHexDigits count (n * 16 + d)

/-- Reads hexadecimal digits up to a closing brace; `n` is nothing before the first. -/
def readBracedHex : Nat → Option Nat → Reader Nat
  | 0, _ => throw .unexpectedEnd
  | fuel + 1, n => do
    let c ← current .unexpectedEnd
    if c = '}' then
      advanceLayout
      match n with
      | none => throw .invalidHexadecimal
      | some n => return n
    else
      match Digit.value? 16 c with
      | none => throw .invalidHexadecimal
      | some d =>
        advanceLayout
        readBracedHex fuel (some (n.getD 0 * 16 + d))

/-- Reads an escape by code behind its letter. -/
def readHex (letter : Char) : Reader Literal := do
  let digits := if letter = 'x' then 2 else if letter = 'u' then 4 else 8
  let braced := (← current .unexpectedEnd) = '{'
  let n ← if braced then do
      advanceLayout
      readBracedHex (← fuel) none
    else readHexDigits digits 0
  match scalar? n with
  | some c => return ⟨c, !braced && letter = 'x'⟩
  | none => throw .invalidHexadecimal

/-- Reads up to a closing brace. -/
def readToBrace : Nat → List Char → Reader (List Char)
  | 0, _ => throw .unexpectedEnd
  | fuel + 1, cs => do
    let c ← current .unexpectedEnd
    if c = '}' then
      advance
      return cs.reverse
    else
      advanceLayout
      readToBrace fuel (c :: cs)

/-- A property class from the text between its braces: a name, or a name and a value around
one of the signs `!=`, `:` and `=`, which all mean the same. -/
def PropertyClass.ofText (negated : Bool) (text : String) : PropertyClass :=
  let split (sign : String) : Option PropertyClass :=
    match text.splitOn sign with
    | name :: value :: more => some ⟨name, some (sign.intercalate (value :: more)), negated⟩
    | _ => none
  ((split "!=").orElse fun _ => (split ":").orElse fun _ => split "=").getD ⟨text, none, negated⟩

/-- Reads a property class behind its letter. -/
def readProperty (negated : Bool) : Reader PropertyClass := do
  let c ← current .unexpectedEnd
  if c = '{' then
    advanceLayout
    let text ← readToBrace (← fuel) []
    return .ofText negated (String.ofList text)
  else if c = '\\' then throw .unknownProperty
  else
    advanceLayout
    return ⟨c.toString, none, negated⟩

/-- The letters and hyphens of a condition in braces. -/
def readConditionName : Nat → List Char → Reader (List Char)
  | 0, _ => throw .unexpectedEnd
  | fuel + 1, cs => do
    match ← peek with
    | some c =>
      if c.isAlpha || c = '-' then
        advanceLayout
        readConditionName fuel (c :: cs)
      else return cs.reverse
    | none => return cs.reverse

/-- Reads what may follow `\b`: the name of a special condition in braces. Braces that hold no
name are left where they are. -/
def readWordCondition : Reader PositionMark := do
  if (← peek) ≠ some '{' then return .wordEdge
  let start ← get
  advanceLayout
  let c ← current .unexpectedEnd
  if !(c.isAlpha || c = '-') then
    set start
    return .wordEdge
  let name ← readConditionName (← fuel) []
  if (← peek) ≠ some '}' then throw .unrecognizedEscape
  advance
  match String.ofList name with
  | "start" => return .wordStart
  | "end" => return .wordEnd
  | "start-half" => return .wordStartHalf
  | "end-half" => return .wordEndHalf
  | _ => throw .unrecognizedEscape

/-- An item that stands for one place of the text or for a condition on a position. -/
inductive Primitive where
  | literal (l : Literal)
  | mark (m : PositionMark)
  | shorthand (kind : Shorthand) (negated : Bool)
  | property (p : PropertyClass)

/-- The character of an escape for one that cannot be seen. -/
private def control? : Char → Option Char
  | 'a' => some '\x07'
  | 'f' => some '\x0c'
  | 't' => some '\t'
  | 'n' => some '\n'
  | 'r' => some '\r'
  | 'v' => some '\x0b'
  | _ => none

/-- The shorthand of a letter, and whether it means the other characters. -/
private def shorthand? (c : Char) : Option (Shorthand × Bool) :=
  match c with
  | 'd' => some (.digit, false)
  | 'D' => some (.digit, true)
  | 's' => some (.space, false)
  | 'S' => some (.space, true)
  | 'w' => some (.word, false)
  | 'W' => some (.word, true)
  | _ => none

/-- Reads an escape behind its backslash. -/
def readEscape : Reader Primitive := do
  let c ← current .unexpectedEnd
  if c.isDigit then throw .backreference
  advance
  if c = 'x' ∨ c = 'u' ∨ c = 'U' then
    skipLayout
    return .literal (← readHex c)
  if c = 'p' ∨ c = 'P' then
    skipLayout
    return .property (← readProperty (c = 'P'))
  if let some (kind, negated) := shorthand? c then return .shorthand kind negated
  if let some control := control? c then return .literal ⟨control, false⟩
  match c with
  | 'A' => return .mark .textStart
  | 'z' => return .mark .textEnd
  | 'b' => return .mark (← readWordCondition)
  | 'B' => return .mark .notWordEdge
  | '<' => return .mark .wordStart
  | '>' => return .mark .wordEnd
  | _ =>
    if c.toNat < 0x80 && !c.isAlphanum then return .literal ⟨c, false⟩
    throw .unrecognizedEscape

/-! ## Classes -/

/-- The class with a name. -/
def AsciiClass.ofName? : String → Option AsciiClass
  | "alnum" => some .alnum
  | "alpha" => some .alpha
  | "ascii" => some .ascii
  | "blank" => some .blank
  | "cntrl" => some .cntrl
  | "digit" => some .digit
  | "graph" => some .graph
  | "lower" => some .lower
  | "print" => some .print
  | "punct" => some .punct
  | "space" => some .space
  | "upper" => some .upper
  | "word" => some .word
  | "xdigit" => some .xdigit
  | _ => none

/-- Reads a named ASCII class, whose bracket is at the front, or nothing. -/
def readAsciiClass? : Reader (Option ClassSet) := do
  let s ← get
  match s.rest with
  | '[' :: ':' :: rest =>
    let (negated, rest) := match rest with
      | '^' :: r => (true, r)
      | r => (false, r)
    let (name, rest) := rest.span (· != ':')
    match AsciiClass.ofName? (String.ofList name), rest with
    | some kind, ':' :: ']' :: rest =>
      set { s with rest := rest }
      return some (.ascii kind negated)
    | _, _ => return none
  | _ => return none

/-- Reads an item of a class that may be the end of a range. -/
def readClassPrimitive : Reader Primitive := do
  let c ← current .unclosedClass
  advance
  if c = '\\' then readEscape else return .literal ⟨c, false⟩

/-- What an escape means within a class. -/
def Primitive.toClassSet : Primitive → Except Error ClassSet
  | .literal l => return .literal l
  | .shorthand kind negated => return .shorthand kind negated
  | .property p => return .property p
  | .mark _ => throw .invalidClassItem

/-- An escape that stands for one character, as the ends of a range do. -/
def Primitive.toLiteral : Primitive → Except Error Literal
  | .literal l => return l
  | _ => throw .invalidClassRange

/-- Reads an item of a class or a range. A hyphen in front of the closing bracket or of another
hyphen makes no range. -/
def readClassItem : Reader ClassSet := do
  let low ← readClassPrimitive
  skipLayout
  let c ← current .unclosedClass
  let next ← peekBeyondLayout
  if c ≠ '-' ∨ next = some ']' ∨ next = some '-' then low.toClassSet
  else
    advanceLayout
    let high ← readClassPrimitive
    let low ← low.toLiteral
    let high ← high.toLiteral
    if high.char < low.char then throw .invalidClassRange
    return .range low high

/-- Reads the hyphens that open a class, which stand for themselves. -/
def readOpeningHyphens : Nat → List ClassSet → Reader (List ClassSet)
  | 0, items => return items
  | fuel + 1, items => do
    if (← current .unclosedClass) = '-' then
      advanceLayout
      readOpeningHyphens fuel (.literal ⟨'-', false⟩ :: items)
    else return items

/-- Reads the opening of a class behind its bracket: whether it is negated, and the items that
can stand only there. -/
def readClassOpening : Reader (Bool × List ClassSet) := do
  skipLayout
  let negated := (← current .unclosedClass) = '^'
  if negated then advanceLayout
  let items ← readOpeningHyphens (← fuel) []
  if items.isEmpty && (← current .unclosedClass) = ']' then
    advanceLayout
    let _ ← current .unclosedClass
    return (negated, [.literal ⟨']', false⟩])
  return (negated, items)

/-- The items of a class, in reverse, as one set. -/
def joinItems : List ClassSet → ClassSet
  | [item] => item
  | items => .union items.reverse

/-- What an operator of a class has on its left. -/
def applyPending (pending : Option (SetOperator × ClassSet)) (right : ClassSet) : ClassSet :=
  match pending with
  | none => right
  | some (op, left) => .operation op left right

/-- The operator of a doubled character. -/
private def operator? (c : Char) : Option SetOperator :=
  match c with
  | '&' => some .intersection
  | '-' => some .difference
  | '~' => some .symmetricDifference
  | _ => none

/-- Reads a class up to its closing bracket; `items` are those read since the last operator, in
reverse, and `pending` is that operator with its left side. -/
def readClass : Nat → List ClassSet → Option (SetOperator × ClassSet) → Reader ClassSet
  | 0, _, _ => throw .unclosedClass
  | fuel + 1, items, pending => do
    skipLayout
    let c ← current .unclosedClass
    let next ← peekNext
    if c = ']' then
      advance
      return applyPending pending (joinItems items)
    else if c = '[' then
      match ← readAsciiClass? with
      | some item => readClass fuel (item :: items) pending
      | none =>
        advance
        let (negated, opening) ← readClassOpening
        let set ← readClass fuel opening none
        readClass fuel (.bracketed negated set :: items) pending
    else
      match operator? c with
      | some op =>
        if next = some c then
          advance
          advance
          readClass fuel [] (some (op, applyPending pending (joinItems items)))
        else
          let item ← readClassItem
          readClass fuel (item :: items) pending
      | none =>
        let item ← readClassItem
        readClass fuel (item :: items) pending

/-! ## Repetitions -/

/-- Reads decimal digits, between which there may be layout. -/
def readDigits : Nat → List Char → Reader (List Char)
  | 0, ds => return ds.reverse
  | fuel + 1, ds => do
    match ← peek with
    | some c =>
      if c.isDigit then
        advanceLayout
        readDigits fuel (c :: ds)
      else return ds.reverse
    | none => return ds.reverse

/-- Drops blanks whatever the flags are. -/
def skipBlanks : Reader Unit :=
  modify fun s => { s with rest := s.rest.dropWhile Text.isBlank }

/-- Reads a count with blanks around it; no digits are no count. -/
def readCount : Reader (Option Nat) := do
  skipBlanks
  let ds ← readDigits (← fuel) []
  skipBlanks
  skipLayout
  if ds.isEmpty then return none
  let n := Nat.ofDigitChars 10 ds 0
  if n < UInt32.size then return some n else throw .invalidCount

/-- Reads the counts of a repetition behind its brace, and the closing brace. -/
def readCounts : Reader (Nat × Option Nat) := do
  skipLayout
  let _ ← current .invalidCount
  let first ← readCount
  let counts ← if (← current .invalidCount) = ',' then do
      advanceLayout
      let c ← current .invalidCount
      match first with
      | none => throw .invalidCount
      | some least =>
        if c = '}' then pure (least, none)
        else
          match ← readCount with
          | none => throw .invalidCount
          | some most => pure (least, some most)
    else
      match first with
      | none => throw .invalidCount
      | some n => pure (n, some n)
  if (← current .invalidCount) ≠ '}' then throw .invalidCount
  advanceLayout
  match counts with
  | (least, some most) => if most < least then throw .invalidCount else return counts
  | _ => return counts

/-! ## Groups -/

/-- The flag of a letter. -/
private def flag? : Char → Option Flag
  | 'i' => some .ignoreCase
  | 'm' => some .multiLine
  | 's' => some .dotMatchesAll
  | 'U' => some .swapGreed
  | 'u' => some .unicode
  | 'R' => some .carriageReturns
  | 'x' => some .ignoreBlanks
  | _ => none

/-- Reads flags up to a colon or a closing parenthesis, which is left; those behind a hyphen
are turned off. A flag or the hyphen may stand only once, and the hyphen not at the end. -/
def readFlags : Nat → Bool → Bool → List FlagChange → Reader (List FlagChange)
  | 0, _, _, _ => throw .unclosedGroup
  | fuel + 1, negated, dangling, changes => do
    let c ← current .unclosedGroup
    if c = ':' ∨ c = ')' then
      if dangling then throw .invalidFlags
      return changes.reverse
    else if c = '-' then
      if negated then throw .invalidFlags
      advance
      readFlags fuel true true changes
    else
      match flag? c with
      | none => throw .invalidFlags
      | some f =>
        if changes.any (·.1 == f) then throw .invalidFlags
        advance
        readFlags fuel negated false ((f, !negated) :: changes)

/-- Whether a character may stand in the name of a group: a letter or an underscore, and behind
the first place also a digit, a point or a bracket. -/
def isNameChar (first : Bool) (c : Char) : Bool :=
  if c.toNat < 0x80 then
    c = '_' || c.isAlpha || (!first && (c.isDigit || c = '.' || c = '[' || c = ']'))
  else
    Unicode.Property.alphabetic.codePoints.contains c ||
      (!first && (Unicode.ofCategories (·.startsWith "N")).contains c)

/-- Reads the name of a group behind its bracket, and the closing bracket. -/
def readGroupName : Nat → List Char → Reader Unit
  | 0, _ => throw .invalidGroupName
  | fuel + 1, cs => do
    let c ← current .invalidGroupName
    if c = '>' then
      advance
      if cs.isEmpty then throw .invalidGroupName
      let name := String.ofList cs.reverse
      let s ← get
      if s.groupNames.contains name then throw .duplicateGroupName
      set { s with groupNames := name :: s.groupNames }
    else if isNameChar cs.isEmpty c then
      advance
      readGroupName fuel (c :: cs)
    else throw .invalidGroupName

/-- What follows an opening parenthesis: a change of flags, or a group with such a change. -/
inductive GroupOpening where
  | flags (changes : List FlagChange)
  | group (changes : List FlagChange)

/-- Whether a group looks around, which patterns cannot do. -/
private def startsLookAround (cs : List Char) : Bool :=
  ["?=", "?!", "?<=", "?<!"].any fun opening => opening.toList.isPrefixOf cs

/-- Reads the opening of a group behind its parenthesis. -/
def readGroupOpening : Reader GroupOpening := do
  skipLayout
  if startsLookAround (← get).rest then throw .lookAround
  if (← takeIf ['?', 'P', '<']) || (← takeIf ['?', '<']) then
    readGroupName (← fuel) []
    return .group []
  else if ← takeIf ['?'] then
    let changes ← readFlags (← fuel) false false []
    let c ← current .unclosedGroup
    advance
    if c = ')' then
      if changes.isEmpty then throw .missingRepeated
      return .flags changes
    return .group changes
  else return .group []

/-- The value that the last change of a flag gives it. -/
def lastChange? (f : Flag) (changes : List FlagChange) : Option Bool :=
  (changes.reverse.find? (·.1 == f)).map (·.2)

/-! ## Expressions -/

/-- What an escape means outside of classes. -/
def Primitive.toExpression : Primitive → Expression
  | .literal l => .literal l
  | .mark m => .mark m
  | .shorthand kind negated => .shorthand kind negated
  | .property p => .property p

/-- The items of a sequence, in reverse, as one expression. -/
def joinSequence : List Expression → Expression
  | [] => .empty
  | [e] => e
  | es => .sequence es.reverse

/-- The branches of an alternative, in reverse, as one expression. -/
def joinBranches : List Expression → Expression
  | [e] => e
  | es => .alternatives es.reverse

/-- Repeats the last item of a sequence. -/
def repeatLast (least : Nat) (most : Option Nat) : List Expression → Except Error (List Expression)
  | [] => throw .missingRepeated
  | .empty :: _ => throw .missingRepeated
  | .flags _ :: _ => throw .missingRepeated
  | e :: es => return .repetition e least most :: es

/-- Takes the question mark that makes a repetition lazy. It has no bearing on what matches. -/
def skipLazyMark : Reader Unit := do
  let _ ← takeIf ['?']

/-- Reads alternatives up to the end of their group or of the text. `items` are those of the
sequence so far and `branches` the sequences before it, both in reverse. -/
def readAlternatives : Nat → List Expression → List Expression → Reader Expression
  | 0, _, _ => throw .nestedTooDeep
  | fuel + 1, items, branches => do
    skipLayout
    match ← peek with
    | none | some ')' => return joinBranches (joinSequence items :: branches)
    | some '|' =>
      advance
      readAlternatives fuel [] (joinSequence items :: branches)
    | some '(' =>
      advance
      let outer := (← get).ignoreBlanks
      match ← readGroupOpening with
      | .flags changes =>
        let inner := (lastChange? .ignoreBlanks changes).getD outer
        modify fun s => { s with ignoreBlanks := inner }
        readAlternatives fuel (.flags changes :: items) branches
      | .group changes =>
        let inner := (lastChange? .ignoreBlanks changes).getD outer
        modify fun s => { s with ignoreBlanks := inner }
        let e ← readAlternatives fuel [] []
        let _ ← current .unclosedGroup
        modify fun s => { s with ignoreBlanks := outer }
        advance
        readAlternatives fuel (.group changes e :: items) branches
    | some '[' =>
      advance
      let (negated, opening) ← readClassOpening
      let set ← readClass fuel opening none
      readAlternatives fuel (.bracketed negated set :: items) branches
    | some '?' =>
      advance
      skipLazyMark
      readAlternatives fuel (← repeatLast 0 (some 1) items) branches
    | some '*' =>
      advance
      skipLazyMark
      readAlternatives fuel (← repeatLast 0 none items) branches
    | some '+' =>
      advance
      skipLazyMark
      readAlternatives fuel (← repeatLast 1 none items) branches
    | some '{' =>
      advance
      let _ ← repeatLast 0 none items
      let (least, most) ← readCounts
      skipLazyMark
      readAlternatives fuel (← repeatLast least most items) branches
    | some '\\' =>
      advance
      let p ← readEscape
      readAlternatives fuel (p.toExpression :: items) branches
    | some '.' =>
      advance
      readAlternatives fuel (.dot :: items) branches
    | some '^' =>
      advance
      readAlternatives fuel (.mark .caret :: items) branches
    | some '$' =>
      advance
      readAlternatives fuel (.mark .dollar :: items) branches
    | some c =>
      advance
      readAlternatives fuel (.literal ⟨c, false⟩ :: items) branches

/-- How deep an expression may nest. -/
def maxDepth : Nat := 250

/-- Reads the whole text of a pattern. -/
def Expression.parse (text : String) : Except Error Expression := do
  let cs := text.toList
  let (e, s) ← (readAlternatives (2 * cs.length + 2) [] []).run ⟨cs, false, []⟩
  if !s.rest.isEmpty then throw .unopenedGroup
  if maxDepth < e.depth then throw .nestedTooDeep
  return e

end CustomFields.Pattern
