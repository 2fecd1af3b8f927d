import CustomFields.Decimal.Numeral
import CustomFields.Json.Value
import CustomFields.Text.Digit
import CustomFields.Yaml.Node

/-!
# YAML documents as JSON values

A plain scalar is what it looks like: null, a truth value, a number, or else a text. A tag of the
core schema asks for one of these; a tag of the document's own has no JSON value. Keys are texts
whatever they look like, and the last entry of a key wins. Aliases stand for copies; how deep
values nest and how often aliases are followed is limited.
-/

namespace CustomFields.Yaml

-- Powers are those of the core library, whatever else is imported.
attribute [local instance (high)] instPowNat

/-! ## Scalars -/

/-- Digits with a zero in front are a text. -/
def isZeroPadded (cs : List Char) : Bool :=
  match (Decimal.splitSign cs).2 with
  | '0' :: rest => !rest.isEmpty && rest.all Char.isDigit
  | _ => false

/-- The integer of a plain scalar: decimal, or with a mark for another base. -/
def integer? (cs : List Char) : Option Int :=
  let (negative, ds) := Decimal.splitSign cs
  let marked := match ds with
    | '0' :: 'x' :: rest => Digit.number? 16 rest
    | '0' :: 'o' :: rest => Digit.number? 8 rest
    | '0' :: 'b' :: rest => Digit.number? 2 rest
    | _ => none
  let n := marked.or (if isZeroPadded cs then none else Digit.number? 10 ds)
  n.map fun n => if negative then -n else n

/-- Integers that no 64-bit number holds but a 128-bit number does have no value. -/
def integerValue? (i : Int) : Option Json.Value :=
  if (Json.Number.integer i).isInteger then some (.int i) else none

/-- An integer that fits into 128 bits, with or without a sign. -/
def isWide (i : Int) : Bool :=
  -2 ^ (127 : Nat) ≤ i && i < 2 ^ (128 : Nat)

/-- The fractional number of a plain scalar; null stands for what JSON does not have. -/
def float? (cs : List Char) : Option Json.Value :=
  let text := String.ofList cs
  if text ∈ [".nan", ".NaN", ".NAN"] then some .null
  else if text ∈ [".inf", ".Inf", ".INF", "+.inf", "+.Inf", "+.INF", "-.inf", "-.Inf", "-.INF"] then
    some .null
  else
    match Decimal.numeral? cs with
    | some x => if x.isFinite then some (.number (.float x)) else none
    | none => none

/-- The ways to write the null value. -/
def isNullText (s : String) : Bool :=
  s ∈ ["null", "Null", "NULL", "~"]

/-- The truth value of a text that is one. -/
def bool? (s : String) : Option Bool :=
  if s ∈ ["true", "True", "TRUE"] then some true
  else if s ∈ ["false", "False", "FALSE"] then some false
  else none

/-- What a plain scalar looks like; nothing if it is a number without a value. -/
def plainValue? (s : String) : Option Json.Value :=
  let cs := s.toList
  if s.isEmpty || isNullText s then some .null
  else
    match bool? s, integer? cs with
    | some b, _ => some (.bool b)
    | none, some i =>
      if isWide i then integerValue? i else some ((float? cs).getD (.string s))
    | none, none =>
      if isZeroPadded cs then some (.string s) else some ((float? cs).getD (.string s))

/-- The front of the tags of the core schema. -/
def coreTag (name : String) : String := "tag:yaml.org,2002:" ++ name

/-- The value of a scalar. -/
def scalarValue? (tag : Option String) (text : String) (isPlain : Bool) : Option Json.Value :=
  match tag with
  | none => if isPlain then plainValue? text else some (.string text)
  | some tag =>
    if tag.startsWith "!" then none
    else if tag = coreTag "bool" then (bool? text).map .bool
    else if tag = coreTag "int" then (integer? text.toList).bind integerValue?
    else if tag = coreTag "float" then float? text.toList
    else if tag = coreTag "null" then if isNullText text then some .null else none
    else some (.string text)

/-! ## Nodes -/

/-- The nodes that have anchors, by their numbers; the last node of a number wins. -/
def Node.anchored : Node → List (Nat × Node)
  | .scalar p text isPlain => (p.anchor.map (·, .scalar p text isPlain)).toList
  | .sequence p items => ofItems items ++ (p.anchor.map (·, .sequence p items)).toList
  | .mapping p entries => ofEntries entries ++ (p.anchor.map (·, .mapping p entries)).toList
  | .alias _ => []
where
  ofItems : List Node → List (Nat × Node)
    | [] => []
    | n :: ns => ofItems ns ++ n.anchored
  ofEntries : List (Node × Node) → List (Nat × Node)
    | [] => []
    | (k, v) :: es => ofEntries es ++ v.anchored ++ k.anchored

/-- How many steps it takes to walk through a node: one for a scalar or an alias, two for what
holds others. -/
def Node.size : Node → Nat
  | .scalar _ _ _ | .alias _ => 1
  | .sequence _ items => 2 + ofItems items
  | .mapping _ entries => 2 + ofEntries entries
where
  ofItems : List Node → Nat
    | [] => 0
    | n :: ns => n.size + ofItems ns
  ofEntries : List (Node × Node) → Nat
    | [] => 0
    | (k, v) :: es => k.size + v.size + ofEntries es

/-- How deep values may nest. -/
def maxNesting : Nat := 128

/-- How often aliases are followed, for each step of a document. -/
def maxRepetition : Nat := 100

/-- A step that may follow so many aliases. -/
abbrev Resolve := StateT Nat Option

/-- Follows an alias to its node. -/
def follow (anchors : List (Nat × Node)) : Node → Resolve Node
  | .alias n => do
    match ← get with
    | 0 => failure
    | left + 1 =>
      set left
      match Entries.get? n anchors with
      | some node => return node
      | none => failure
  | node => return node

/-- The text of a key. -/
def keyText (anchors : List (Nat × Node)) (key : Node) : Resolve String := do
  match ← follow anchors key with
  | .scalar _ text _ => return text
  | _ => failure

/-- The value of a node with at most `levels` sequences and mappings inside one another. -/
def resolve (anchors : List (Nat × Node)) : Nat → Node → Resolve Json.Value
  | levels, node => do
    let hasOwnTag (p : Properties) : Bool := p.tag.any (·.startsWith "!")
    match ← follow anchors node with
    | .scalar p text isPlain => scalarValue? p.tag text isPlain
    | .alias _ => failure
    | .sequence p items =>
      match levels with
      | 0 => failure
      | levels + 1 =>
        if hasOwnTag p then failure
        return .array (← items.mapM (resolve anchors levels))
    | .mapping p entries =>
      match levels with
      | 0 => failure
      | levels + 1 =>
        if hasOwnTag p then failure
        let members ← entries.mapM fun (k, v) => do
          let key ← keyText anchors k
          return (key, ← resolve anchors levels v)
        return .object (Entries.ofBindings members)

/-- The content of a text with one document at most. -/
def parse? (text : String) : Option Json.Value := do
  match ← Node.parse? text with
  | none => return .null
  | some node =>
    let (v, _) ← (resolve node.anchored maxNesting node).run (maxRepetition * node.size)
    return v

end CustomFields.Yaml
