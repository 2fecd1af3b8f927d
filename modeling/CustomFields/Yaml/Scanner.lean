import CustomFields.Text.Utf8
import CustomFields.Yaml.Scalar

/-!
# From texts to tokens

A scanner goes through a text once. It keeps the stack of columns at which blocks began, and for
each flow collection that is open whether a key may just have begun: a key without a mark of its
own is known as one only when its colon comes, and its token is then put in front of it. Such a
key has to end on its line and within 1024 characters.
-/

namespace CustomFields.Yaml

/-- What may turn out to be a key. -/
structure PossibleKey where
  /-- How many tokens stand in front of it. -/
  place : Nat
  /-- Whether nothing but a key may stand there. -/
  required : Bool
  index : Nat
  line : Nat
  column : Nat

/-- The state of a scanner: where it is, what it has found, and in which blocks and brackets it is.
-/
structure Scanner where
  cursor : Cursor
  tokens : Array Token
  /-- The column of the innermost block; before the first one it is negative. -/
  indent : Int
  /-- The columns of the blocks around it. -/
  outer : List Int
  /-- Whether a key may begin here. -/
  keyAllowed : Bool
  /-- The possible key outside all flow collections or in the innermost one. -/
  key : Option PossibleKey
  /-- The possible keys outside it. -/
  outerKeys : List (Option PossibleKey)

/-- A step of a scanner, which may find that the text is not well formed. -/
abbrev Scan := StateT Scanner Option

namespace Scan

/-- Whether the scanner is within brackets. -/
def inFlow : Scan Bool := return !(← get).outerKeys.isEmpty

/-- Where the scanner is. -/
def cursor : Scan Cursor := return (← get).cursor

/-- Goes to a place. -/
def moveTo (c : Cursor) : Scan Unit := modify fun s => { s with cursor := c }

/-- Leaves some characters behind. -/
def skip (n : Nat) : Scan Unit := do moveTo ((← cursor).skip n)

/-- Adds a token to those that have been found. -/
def emit (t : Token) : Scan Unit := modify fun s => { s with tokens := s.tokens.push t }

/-- Says whether a key may start here. -/
def allowKey (allowed : Bool) : Scan Unit := modify fun s => { s with keyAllowed := allowed }

/-- Goes on with what a reader finds at the cursor. -/
def reading {α : Type} (read? : Cursor → Option (α × Cursor)) : Scan α := do
  let (a, c) ← read? (← cursor)
  moveTo c
  return a

/-! ## Keys -/

/-- Whether what may be a key can no longer be one here. -/
def isStale (c : Cursor) (k : PossibleKey) : Bool :=
  k.line < c.line || k.index + 1024 < c.index

/-- Forgets possible keys that can no longer be keys; one that is required may not be lost. -/
def dropStaleKeys : Scan Unit := do
  let s ← get
  let stale := isStale s.cursor
  let lost (k : Option PossibleKey) : Bool := k.any fun k => stale k && k.required
  if lost s.key || s.outerKeys.any lost then failure
  let keep (k : Option PossibleKey) : Option PossibleKey := k.filter (!stale ·)
  set { s with key := keep s.key, outerKeys := s.outerKeys.map keep }

/-- Forgets the possible key of the innermost collection. -/
def dropKey : Scan Unit := do
  if (← get).key.any (·.required) then failure
  modify fun s => { s with key := none }

/-- Notes that a key may begin here. -/
def noteKey : Scan Unit := do
  let s ← get
  let c := s.cursor
  if s.keyAllowed then
    dropKey
    let required := !(← inFlow) && s.indent == c.column
    modify fun s => { s with
      key := some ⟨s.tokens.size, required, c.index, c.line, c.column⟩ }

/-! ## Blocks -/

/-- Opens a block at a column to the right of the innermost one, with a token at a place. -/
def openBlock (column place : Nat) (t : Token) : Scan Unit := do
  let s ← get
  if !(← inFlow) && s.indent < column then
    set { s with
      indent := column, outer := s.indent :: s.outer,
      tokens := s.tokens.insertIdxIfInBounds place t }

/-- The columns that are left when all blocks to the right of a column are closed, and their
number. -/
def closedBlocks (column : Int) : Int → List Int → Nat × Int × List Int
  | indent, [] => (0, indent, [])
  | indent, o :: outer =>
    if column < indent then
      let (n, indent, outer) := closedBlocks column o outer
      (n + 1, indent, outer)
    else (0, indent, o :: outer)

/-- Closes the blocks to the right of a column. -/
def closeBlocks (column : Int) : Scan Unit := do
  let s ← get
  if !(← inFlow) then
    let (n, indent, outer) := closedBlocks column s.indent s.outer
    set { s with indent, outer, tokens := s.tokens ++ Array.replicate n Token.blockEnd }

/-! ## Marks -/

/-- A line that starts or ends a document. -/
def scanDocumentMark (t : Token) : Scan Unit := do
  closeBlocks (-1)
  dropKey
  allowKey false
  skip 3
  emit t

/-- An opening bracket. -/
def scanFlowStart (t : Token) : Scan Unit := do
  noteKey
  modify fun s => { s with key := none, outerKeys := s.key :: s.outerKeys }
  allowKey true
  skip 1
  emit t

/-- A closing bracket. -/
def scanFlowEnd (t : Token) : Scan Unit := do
  dropKey
  modify fun s =>
    match s.outerKeys with
    | [] => s
    | k :: ks => { s with key := k, outerKeys := ks }
  allowKey false
  skip 1
  emit t

/-- A comma within brackets. -/
def scanFlowEntry : Scan Unit := do
  dropKey
  allowKey true
  skip 1
  emit .flowEntry

/-- Opens a block for a mark outside flow collections, where a key would be allowed. -/
def openBlockHere (t : Token) : Scan Unit := do
  if !(← inFlow) then
    let s ← get
    if !s.keyAllowed then failure
    openBlock s.cursor.column s.tokens.size t

/-- A hyphen in front of an item of a block. -/
def scanBlockEntry : Scan Unit := do
  openBlockHere .blockSequenceStart
  dropKey
  allowKey true
  skip 1
  emit .blockEntry

/-- A question mark in front of a key. -/
def scanKey : Scan Unit := do
  openBlockHere .blockMappingStart
  dropKey
  allowKey (!(← inFlow))
  skip 1
  emit .key

/-- A colon in front of a value. What stands before it becomes a key. -/
def scanValue : Scan Unit := do
  match (← get).key with
  | some k =>
    modify fun s => { s with
      key := none, tokens := s.tokens.insertIdxIfInBounds k.place .key }
    openBlock k.column k.place .blockMappingStart
    allowKey false
  | none =>
    openBlockHere .blockMappingStart
    allowKey (!(← inFlow))
  skip 1
  emit .value

/-! ## Directives, names and tags -/

/-- The handle of a tag, up to its end. -/
private def readWordChars (c : Cursor) : Option (String × Cursor) :=
  let name := c.rest.takeWhile isWordChar
  some (.ofList name, c.skip name.length)

/-- Reads the name of an anchor behind its mark. -/
def readName (c : Cursor) : Option (String × Cursor) := do
  let (name, c) ← readWordChars c
  let ends := endsWord c.rest ||
    c.rest.head?.any ['?', ':', ',', ']', '}', '%', '@', '\x60'].contains
  if name.isEmpty || !ends then none else some (name, c)

/-- Reads what may be a handle of tags: an exclamation mark, and a word with another one. -/
def readHandle (c : Cursor) : Option (String × Cursor) := do
  let '!' :: _ := c.rest | none
  let (name, c) ← readWordChars (c.skip 1)
  if c.rest.head? == some '!' then some ("!" ++ name ++ "!", c.skip 1) else some ("!" ++ name, c)

/-- A character of a tag; some of them may stand between angle brackets only. -/
def isTagChar (isVerbatim : Bool) (c : Char) : Bool :=
  isWordChar c || ";/?:@&=+$.%!~*'()".contains c || (isVerbatim && ",[]".contains c)

/-- The bytes of the characters of a tag, in which a percent sign has to stand before two
hexadecimal digits. -/
def tagBytes : List Char → Option (List UInt8)
  | '%' :: a :: b :: rest => do
    return UInt8.ofNat (← Digit.number? 16 [a, b]) :: (← tagBytes rest)
  | '%' :: _ => none
  | c :: rest => do return UInt8.ofNat c.toNat :: (← tagBytes rest)
  | [] => some []

/-- Reads the characters of a tag behind some that have been read. -/
def readTagText (isVerbatim : Bool) (before : String) (c : Cursor) : Option (String × Cursor) := do
  let cs := c.rest.takeWhile (isTagChar isVerbatim)
  if before.isEmpty && cs.isEmpty then none
  let text ← Utf8.decode? (← tagBytes cs)
  return (String.ofList (before.toList.drop 1) ++ text, c.skip cs.length)

/-- Reads a tag: its handle, and what follows it. -/
def readTag (c : Cursor) : Option ((String × String) × Cursor) := do
  let (tag, c) ← match c.rest with
    | '!' :: '<' :: _ => do
      let (text, c) ← readTagText true "" (c.skip 2)
      if c.rest.head? == some '>' then some (("", text), c.skip 1) else none
    | _ => do
      let (handle, c) ← readHandle c
      if handle.length ≥ 2 && handle.endsWith "!" then
        let (text, c) ← readTagText false "" c
        some ((handle, text), c)
      else
        let (text, c) ← readTagText false handle c
        some (if text.isEmpty then ("", "!") else ("!", text), c)
  return (tag, c)

/-- A part of a version number, which has nine digits at most. -/
private def readNumber (c : Cursor) : Option (Nat × Cursor) :=
  let ds := c.rest.takeWhile Char.isDigit
  if ds.isEmpty || 9 < ds.length then none
  else some (Nat.ofDigitChars 10 ds 0, c.skip ds.length)

/-- Reads a directive behind its mark, up to the end of its line. -/
def readDirective (c : Cursor) : Option (Token × Cursor) := do
  let (name, c) ← readWordChars c
  if !endsWord c.rest then none
  let c := c.skipWhile isBlank
  let (t, c) ← match name with
    | "YAML" => do
      let (major, c) ← readNumber c
      let '.' :: _ := c.rest | none
      let (minor, c) ← readNumber (c.skip 1)
      some (Token.versionDirective major minor, c)
    | "TAG" => do
      let (handle, c) ← readHandle c
      if handle != "!" && !(handle.length ≥ 2 && handle.endsWith "!") then none
      if !c.rest.head?.any isBlank then none
      let (meaning, c) ← readTagText true "" (c.skipWhile isBlank)
      if !endsWord c.rest then none
      some (Token.tagDirective handle meaning, c)
    | _ => none
  let c ← skipRestOfLine c
  return (t, c)

/-- A directive in front of a document. -/
def scanDirective : Scan Unit := do
  closeBlocks (-1)
  dropKey
  allowKey false
  skip 1
  emit (← reading readDirective)

/-- An anchor, or an alias for one. -/
def scanName (t : String → Token) : Scan Unit := do
  noteKey
  allowKey false
  skip 1
  emit (t (← reading readName))

/-- A tag, which has to be followed by a blank. -/
def scanTag : Scan Unit := do
  noteKey
  allowKey false
  let (handle, suffix) ← reading readTag
  let rest := (← cursor).rest
  let isInFlow ← inFlow
  if !endsWord rest && !(isInFlow && rest.head? == some ',') then failure
  emit (.tag handle suffix)

/-! ## Scalars -/

/-- A text of several lines that is introduced by a mark. -/
def scanBlock (isLiteral : Bool) : Scan Unit := do
  dropKey
  allowKey true
  skip 1
  let parent := (← get).indent
  let text ← reading (readBlock isLiteral parent)
  emit (.scalar (.ofList text) false)

/-- A text in quotes. -/
def scanQuoted (quote : Char) : Scan Unit := do
  noteKey
  allowKey false
  skip 1
  let text ← reading fun c => readQuoted quote (c.rest.length + 1) c
  emit (.scalar (.ofList text) false)

/-- A text without quotes. -/
def scanPlain : Scan Unit := do
  noteKey
  allowKey false
  let isInFlow ← inFlow
  let indent := (← get).indent + 1
  let (text, endsInBreak) ← reading fun c => do
    let (text, endsInBreak, c) ← readPlain isInFlow indent (c.rest.length + 1) .empty c
    return ((text, endsInBreak), c)
  emit (.scalar (.ofList text) true)
  if endsInBreak then allowKey true

/-! ## All tokens -/

/-- Passes blanks, comments and line breaks. A tab may not stand where a key may begin. -/
def skipToToken : Nat → Scan Unit
  | 0 => pure ()
  | fuel + 1 => do
    let s ← get
    let isInFlow ← inFlow
    let mayBeTab := isInFlow || !s.keyAllowed
    let c := s.cursor
    let c := if c.index == 0 && c.rest.head? == some '\uFEFF' then c.skip 1 else c
    let c := c.skipWhile fun ch => ch == ' ' || (mayBeTab && ch == '\t')
    let c := if c.rest.head? == some '#' then c.skipLine else c
    match c.skipBreak with
    | none => moveTo c
    | some (_, c) =>
      moveTo c
      if !isInFlow then allowKey true
      skipToToken fuel

/-- Whether a plain scalar may begin with these characters. -/
def mayBeginPlain (isInFlow : Bool) : List Char → Bool
  | [] => false
  | c :: rest =>
    if c == '-' then !rest.head?.any isBlank
    else if c == '?' || c == ':' then !isInFlow && !endsWord rest
    else !endsWord [c] && !",[]\x7b\x7d#&*!|>'\"%@\x60".contains c

/-- Scans one token, or the tokens that end the text; the answer is whether it ends. -/
def scanToken : Scan Bool := do
  skipToToken ((← cursor).rest.length + 1)
  dropStaleKeys
  let c ← cursor
  closeBlocks c.column
  let isInFlow ← inFlow
  let next (step : Scan Unit) : Scan Bool := do
    step
    return false
  match c.rest with
  | [] =>
    closeBlocks (-1)
    dropKey
    emit .streamEnd
    return true
  | ch :: rest =>
    if c.column == 0 && ch == '%' then next scanDirective
    else if c.column == 0 && isDocumentMark '-' c.rest then next (scanDocumentMark .documentStart)
    else if c.column == 0 && isDocumentMark '.' c.rest then next (scanDocumentMark .documentEnd)
    else if ch == '[' then next (scanFlowStart .flowSequenceStart)
    else if ch == '{' then next (scanFlowStart .flowMappingStart)
    else if ch == ']' then next (scanFlowEnd .flowSequenceEnd)
    else if ch == '}' then next (scanFlowEnd .flowMappingEnd)
    else if ch == ',' then next scanFlowEntry
    else if ch == '-' && endsWord rest then next scanBlockEntry
    else if ch == '?' && (isInFlow || endsWord rest) then next scanKey
    else if ch == ':' && (isInFlow || endsWord rest) then next scanValue
    else if ch == '*' then next (scanName .alias)
    else if ch == '&' then next (scanName .anchor)
    else if ch == '!' then next scanTag
    else if ch == '|' && !isInFlow then next (scanBlock true)
    else if ch == '>' && !isInFlow then next (scanBlock false)
    else if ch == '\'' || ch == '"' then next (scanQuoted ch)
    else if mayBeginPlain isInFlow c.rest then next scanPlain
    else failure

/-- Scans all tokens. -/
def scanAll : Nat → Scan Unit
  | 0 => failure
  | fuel + 1 => do
    if !(← scanToken) then scanAll fuel

end Scan

/-- The tokens of a text, the last of which ends it. A mark of byte order in front of the text is
not part of it. -/
def tokens? (text : String) : Option (List Token) := do
  if !text.toList.all isAllowed then none
  let c := Cursor.start <| match text.toList with
    | '\uFEFF' :: rest => rest
    | cs => cs
  let s : Scanner :=
    { cursor := c, tokens := #[], indent := -1, outer := [], keyAllowed := true, key := none,
      outerKeys := [] }
  let (_, s) ← (Scan.scanAll (c.rest.length + 2)).run s
  return s.tokens.toList

end CustomFields.Yaml
