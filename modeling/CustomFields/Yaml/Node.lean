import CustomFields.Data.Entries
import CustomFields.Yaml.Scanner

/-!
# From tokens to nodes

A document is a node: a scalar, a sequence, a mapping, or an alias of a node with an anchor. A
node that is left out is an empty plain scalar. The recursion follows the tokens: no call goes
deeper without a token of its own, so their number bounds it.
-/

namespace CustomFields.Yaml

/-- What may stand in front of a node: the number of its anchor, and its tag in full. -/
structure Properties where
  anchor : Option Nat := none
  tag : Option String := none
deriving DecidableEq, Repr

/-- A node of a document, with its tag and its anchor. -/
inductive Node where
  | scalar (p : Properties) (text : String) (isPlain : Bool)
  | sequence (p : Properties) (items : List Node)
  | mapping (p : Properties) (entries : List (Node × Node))
  | alias (anchor : Nat)

instance : Inhabited Node := ⟨.scalar {} "" true⟩

/-- The tag without a name. On a scalar it says nothing. -/
def emptyTag : String := "!"

/-- A node that is left out. -/
def Node.empty (p : Properties) : Node := .scalar p "" true

/-! ## Steps -/

/-- What is left to read, and what has been declared so far. -/
structure Builder where
  tokens : List Token
  /-- The anchors so far. Two names have two numbers unless a name was used again in between. -/
  anchors : List (String × Nat)
  /-- What the handles of tags stand for. -/
  handles : List (String × String)

/-- A step through the tokens, which may find that they make no document. -/
abbrev Build := StateT Builder Option

namespace Build

/-- The next token, which stays. -/
def peek : Build Token := do
  match (← get).tokens with
  | t :: _ => return t
  | [] => failure

/-- Leaves the next token behind. -/
def next : Build Unit := modify fun b => { b with tokens := b.tokens.drop 1 }

/-- Passes a token if it is the next one. -/
def accept (t : Token) : Build Bool := do
  if (← peek) = t then
    next
    return true
  else return false

/-- Whether the next token is one of some. -/
def isNext (ts : List Token) : Build Bool := return (← peek) ∈ ts

/-- Gives an anchor its number: how many names there are without it. -/
def addAnchor (name : String) : Build Nat := do
  let b ← get
  let n := b.anchors.length
  set { b with anchors := Entries.assign name n b.anchors }
  return n

/-- A tag in full. -/
def fullTag (handle suffix : String) : Build String := do
  if handle.isEmpty then return suffix
  match Entries.get? handle (← get).handles with
  | some meaning => return meaning ++ suffix
  | none => failure

/-! ## Nodes -/

/-- Reads an anchor if there is one. -/
def anchor? : Build (Option String) := do
  match ← peek with
  | .anchor name =>
    next
    return some name
  | _ => return none

/-- Reads a tag if there is one. -/
def tag? : Build (Option (String × String)) := do
  match ← peek with
  | .tag handle suffix =>
    next
    return some (handle, suffix)
  | _ => return none

/-- Reads an anchor and a tag, in either order. -/
def properties : Build Properties := do
  let name ← anchor?
  let tag ← tag?
  let name ← match name with
    | some name => pure (some name)
    | none => if tag.isSome then anchor? else pure none
  let full ← tag.mapM fun (handle, suffix) => fullTag handle suffix
  return { anchor := ← name.mapM addAnchor, tag := full }

mutual

/-- Reads a node. Blocks may begin only where `inBlock` is true, and a sequence without
indentation of its own only where `indentless` is. -/
def node (inBlock indentless : Bool) : Nat → Build Node
  | 0 => failure
  | fuel + 1 => do
    match ← peek with
    | .alias name =>
      next
      match Entries.get? name (← get).anchors with
      | some n => return .alias n
      | none => failure
    | _ =>
      let p ← properties
      match ← peek with
      | .scalar text isPlain =>
        next
        return .scalar { p with tag := p.tag.filter (· != emptyTag) } text isPlain
      | .flowSequenceStart =>
        next
        return .sequence p (← flowItems true fuel)
      | .flowMappingStart =>
        next
        return .mapping p (← flowEntries true fuel)
      | t =>
        if t = .blockEntry && indentless then return .sequence p (← indentlessItems fuel)
        else if t = .blockSequenceStart && inBlock then
          next
          return .sequence p (← blockItems fuel)
        else if t = .blockMappingStart && inBlock then
          next
          return .mapping p (← blockEntries fuel)
        else if p = {} then failure
        else return .empty p

/-- Reads a node that is left out where one of some tokens follows. -/
def nodeUnless (ts : List Token) (inBlock indentless : Bool) : Nat → Build Node
  | 0 => failure
  | fuel + 1 => do
    if ← isNext ts then return .empty {} else node inBlock indentless fuel

/-- Reads the items of a block up to its end. -/
def blockItems : Nat → Build (List Node)
  | 0 => failure
  | fuel + 1 => do
    if ← accept .blockEnd then return []
    if !(← accept .blockEntry) then failure
    let item ← nodeUnless [.blockEntry, .blockEnd] true false fuel
    return item :: (← blockItems fuel)

/-- Reads the items of a sequence in a mapping at the same column. -/
def indentlessItems : Nat → Build (List Node)
  | 0 => failure
  | fuel + 1 => do
    if !(← accept .blockEntry) then return []
    let item ← nodeUnless [.blockEntry, .key, .value, .blockEnd] true false fuel
    return item :: (← indentlessItems fuel)

/-- Reads the entries of a block up to its end. -/
def blockEntries : Nat → Build (List (Node × Node))
  | 0 => failure
  | fuel + 1 => do
    if ← accept .blockEnd then return []
    if !(← accept .key) then failure
    let key ← nodeUnless [.key, .value, .blockEnd] true true fuel
    let value ← if ← accept .value then nodeUnless [.key, .value, .blockEnd] true true fuel
      else pure (.empty {})
    return (key, value) :: (← blockEntries fuel)

/-- Reads the items between brackets. An item with a key is a mapping with one entry. -/
def flowItems (isFirst : Bool) : Nat → Build (List Node)
  | 0 => failure
  | fuel + 1 => do
    if ← accept .flowSequenceEnd then return []
    if !isFirst then
      if !(← accept .flowEntry) then failure
    if ← accept .flowSequenceEnd then return []
    let item ← if ← accept .key then singleEntry fuel else node false false fuel
    return item :: (← flowItems false fuel)

/-- Reads the entry of an item with a key. A colon right behind the mark of the key belongs to
the key, which is then empty, and so is the value. -/
def singleEntry : Nat → Build Node
  | 0 => failure
  | fuel + 1 => do
    let ends := [Token.flowEntry, .flowSequenceEnd]
    let key ← if ← isNext (.value :: ends) then do
        next
        pure (.empty {})
      else node false false fuel
    let value ← if ← accept .value then nodeUnless ends false false fuel else pure (.empty {})
    return .mapping {} [(key, value)]

/-- Reads the entries between braces. An entry may be a key alone. -/
def flowEntries (isFirst : Bool) : Nat → Build (List (Node × Node))
  | 0 => failure
  | fuel + 1 => do
    let ends := [Token.flowEntry, .flowMappingEnd]
    if ← accept .flowMappingEnd then return []
    if !isFirst then
      if !(← accept .flowEntry) then failure
    if ← accept .flowMappingEnd then return []
    let entry ← if ← accept .key then do
        let key ← nodeUnless (.value :: ends) false false fuel
        let value ← if ← accept .value then nodeUnless ends false false fuel else pure (.empty {})
        pure (key, value)
      else do
        let key ← node false false fuel
        pure (key, .empty {})
    return entry :: (← flowEntries false fuel)

end

/-! ## Documents -/

/-- The handles that every document has, unless it gives them another meaning. -/
def standardHandles : List (String × String) := [("!", "!"), ("!!", "tag:yaml.org,2002:")]

/-- Reads directives. A document has one version at most, and one meaning for each handle. -/
def directives : Nat → Bool → List (String × String) → Build (List (String × String))
  | 0, _, _ => failure
  | fuel + 1, hasVersion, handles => do
    match ← peek with
    | .versionDirective major minor =>
      if hasVersion || major != 1 || (minor != 1 && minor != 2) then failure
      next
      directives fuel true handles
    | .tagDirective handle meaning =>
      if Entries.contains handle handles then failure
      next
      directives fuel hasVersion ((handle, meaning) :: handles)
    | _ => return handles

/-- Reads the only document of a text; a text without one has no node. -/
def document (fuel : Nat) : Build (Option Node) := do
  match ← peek with
  | .streamEnd => return none
  | .versionDirective _ _ | .tagDirective _ _ | .documentStart =>
    let handles ← directives fuel false []
    modify fun b => { b with handles := handles ++ standardHandles }
    if !(← accept .documentStart) then failure
    match ← peek with
    | .versionDirective _ _ | .tagDirective _ _ | .documentStart | .documentEnd | .streamEnd =>
      return some (.empty {})
    | _ => return some (← node true false fuel)
  | _ => return some (← node true false fuel)

end Build

/-- The node of a text with one document at most. -/
def Node.parse? (text : String) : Option (Option Node) := do
  let tokens ← tokens? text
  let fuel := 4 * tokens.length + 8
  let (node, b) ← (Build.document fuel).run ⟨tokens, [], Build.standardHandles⟩
  if b.tokens.dropWhile (· = .documentEnd) = [.streamEnd] then return node else none

end CustomFields.Yaml
