import CustomFields.Text.Digit
import CustomFields.Yaml.Token

/-!
# Scalars of YAML texts

The three ways to write a scalar: plain, between quotes, and as a block of indented lines. In the
first two a line break between words is a blank, and empty lines are kept as breaks; in a block
that depends on its mark. Readers begin behind the mark or the quote.
-/

namespace CustomFields.Yaml

/-! ## Gaps between words -/

/-- The blanks and breaks between two words. -/
structure Gap where
  /-- The blanks in front of the first break. -/
  blanks : List Char
  breaks : List Char

namespace Gap

/-- No gap. -/
def empty : Gap := ⟨[], []⟩

/-- Whether a gap goes over the end of a line. -/
def hasBreak (g : Gap) : Bool :=
  !g.breaks.isEmpty

/-- What a gap adds to a text: its blanks, or its breaks without the first one, or a blank if
there is only one. -/
def text (g : Gap) : List Char :=
  match g.breaks with
  | [] => g.blanks
  | ['\n'] => [' ']
  | '\n' :: more => more
  | breaks => breaks

end Gap

/-- Reads a gap. Behind a break, a tab left of a column is refused. -/
def readGap (leftBound : Int) : Nat → Gap → Cursor → Option (Gap × Cursor)
  | 0, g, c => some (g, c)
  | fuel + 1, g, c =>
    match c.rest, c.skipBreak with
    | _, some (b, next) => readGap leftBound fuel { g with breaks := g.breaks ++ [b] } next
    | ch :: _, none =>
      if !isBlank ch then some (g, c)
      else if !g.hasBreak then
        readGap leftBound fuel { g with blanks := g.blanks ++ [ch] } (c.skip 1)
      else if ch == '\t' && (c.column : Int) < leftBound then none
      else readGap leftBound fuel g (c.skip 1)
    | [], none => some (g, c)

/-! ## Plain scalars -/

/-- A character that ends a plain text within brackets. -/
def isFlowMark (c : Char) : Bool :=
  c == ',' || c == '[' || c == ']' || c == '{' || c == '}'

/-- Reads a word of a plain scalar. In a flow collection a colon may not stand right before one
of its marks. -/
def readWord (inFlow : Bool) : List Char → Option (List Char)
  | [] => some []
  | c :: rest =>
    if endsWord (c :: rest) then some []
    else if inFlow && c == ':' && rest.head?.any (fun d => isFlowMark d || d == '?') then none
    else if (c == ':' && endsWord rest) || (inFlow && isFlowMark c) then some []
    else (readWord inFlow rest).map (c :: ·)

/-- Reads the words of a plain scalar behind a gap. The answer says whether a break was read at
the end. -/
def readPlain (inFlow : Bool) (indent : Int) :
    Nat → Gap → Cursor → Option (List Char × Bool × Cursor)
  | 0, _, _ => none
  | fuel + 1, gap, c =>
    if c.isAtDocumentMark || c.rest.head? == some '#' then some ([], gap.hasBreak, c)
    else do
      let word ← readWord inFlow c.rest
      if word.isEmpty then return ([], gap.hasBreak, c)
      let c := c.skip word.length
      let (next, c) ← readGap indent (c.rest.length + 1) .empty c
      if !inFlow && (c.column : Int) < indent then
        return (gap.text ++ word, next.hasBreak, c)
      let (text, endsInBreak, c) ← readPlain inFlow indent fuel next c
      return (gap.text ++ word ++ text, endsInBreak, c)

/-! ## Quoted scalars -/

/-- The character of a code point that is given by its digits. -/
private def readCodePoint? (width : Nat) (c : Cursor) : Option (Char × Cursor) := do
  if c.rest.length < width then none
  let n ← Digit.number? 16 (c.rest.take width)
  if n.isValidChar then some (Char.ofNat n, c.skip width) else none

/-- Reads an escape behind its backslash. -/
def readEscape? (c : Cursor) : Option (Char × Cursor) :=
  match c.rest with
  | [] => none
  | e :: _ =>
    let c := c.skip 1
    let simple (ch : Char) : Option (Char × Cursor) := some (ch, c)
    match e with
    | '0' => simple '\x00'
    | 'a' => simple '\x07'
    | 'b' => simple '\x08'
    | 't' => simple '\t'
    | '\t' => simple '\t'
    | 'n' => simple '\n'
    | 'v' => simple '\x0b'
    | 'f' => simple '\x0c'
    | 'r' => simple '\r'
    | 'e' => simple '\x1b'
    | ' ' => simple ' '
    | '"' => simple '"'
    | '/' => simple '/'
    | '\\' => simple '\\'
    | 'N' => simple '\u0085'
    | '_' => simple '\u00A0'
    | 'L' => simple '\u2028'
    | 'P' => simple '\u2029'
    | 'x' => readCodePoint? 2 c
    | 'u' => readCodePoint? 4 c
    | 'U' => readCodePoint? 8 c
    | _ => none

/-- Reads a quoted scalar up to its closing quote, which is passed. -/
def readQuoted (quote : Char) : Nat → Cursor → Option (List Char × Cursor)
  | 0, _ => none
  | fuel + 1, c =>
    if c.isAtDocumentMark then none
    else
      let go (more : List Char) (c : Cursor) : Option (List Char × Cursor) :=
        (readQuoted quote fuel c).map fun (text, c) => (more ++ text, c)
      match c.rest with
      | [] => none
      | ch :: rest =>
        if isBlank ch || isBreak ch then do
          let (gap, c) ← readGap 0 (c.rest.length + 1) .empty c
          go gap.text c
        else if ch == quote then
          if quote == '\'' && rest.head? == some '\'' then go ['\''] (c.skip 2)
          else some ([], c.skip 1)
        else if quote == '"' && ch == '\\' then
          match (c.skip 1).skipBreak with
          | some (_, c) => do
            -- The blanks of the next line and the break itself are not part of the text.
            let (gap, c) ← readGap 0 (c.rest.length + 1) .empty c
            go gap.breaks c
          | none => do
            let (ch, c) ← readEscape? (c.skip 1)
            go [ch] c
        else go [ch] (c.skip 1)

/-! ## Blocks of lines -/

/-- What happens to the breaks at the end of a block. -/
inductive Chomping where
  | strip
  | clip
  | keep
deriving DecidableEq, Repr

/-- Reads the marks behind the one that opens a block: how it ends, and how deep it is
indented. -/
def readBlockMarks (c : Cursor) : Option (Chomping × Option Nat × Cursor) :=
  let chomping (ch : Char) : Option Chomping :=
    if ch == '+' then some .keep else if ch == '-' then some .strip else none
  let depth (ch : Char) : Option Nat := if ch.isDigit then some (ch.toNat - '0'.toNat) else none
  let result := match c.rest with
    | a :: b :: _ =>
      match chomping a, depth a, chomping b, depth b with
      | some k, _, _, some d => (k, some d, c.skip 2)
      | some k, _, _, none => (k, none, c.skip 1)
      | none, some d, some k, _ => (k, some d, c.skip 2)
      | none, some d, none, _ => (.clip, some d, c.skip 1)
      | none, none, _, _ => (.clip, none, c)
    | [a] =>
      match chomping a, depth a with
      | some k, _ => (k, none, c.skip 1)
      | none, some d => (.clip, some d, c.skip 1)
      | none, none => (.clip, none, c)
    | [] => (.clip, none, c)
  if result.2.1 = some 0 then none else some result

/-- Passes blanks and a comment up to the end of the line. -/
def skipRestOfLine (c : Cursor) : Option Cursor :=
  let c := c.skipWhile isBlank
  let c := if c.rest.head? == some '#' then c.skipLine else c
  match c.rest, c.skipBreak with
  | [], _ => some c
  | _, some (_, next) => some next
  | _, none => none

/-- Passes indentation and empty lines. While the indentation is not known, all spaces belong to
it; the answer has the breaks and the deepest column that was reached. -/
def readBlockBreaks (indent : Option Nat) :
    Nat → Nat → Cursor → Option (List Char × Nat × Cursor)
  | 0, deepest, c => some ([], deepest, c)
  | fuel + 1, deepest, c =>
    let isInside (c : Cursor) : Bool := indent.all (c.column < ·)
    let spaces := (c.rest.takeWhile (· == ' ')).length
    let c := c.skip (indent.elim spaces fun i => min spaces (i - c.column))
    let deepest := max deepest c.column
    if isInside c && c.rest.head? == some '\t' then none
    else
      match c.skipBreak with
      | none => some ([], deepest, c)
      | some (b, c) => do
        let (breaks, deepest, c) ← readBlockBreaks indent fuel deepest c
        return (b :: breaks, deepest, c)

/-- Reads the lines of a block. `pending` is the break behind the last line, and `breaks` are
those of the empty lines behind it. -/
def readBlockLines (isLiteral : Bool) (indent : Nat) :
    Nat → (pending breaks : List Char) → (wasBlank : Bool) → Cursor →
      Option (List Char × List Char × List Char × Cursor)
  | 0, _, _, _, _ => none
  | fuel + 1, pending, breaks, wasBlank, c =>
    if c.column != indent || c.rest.isEmpty then some ([], pending, breaks, c)
    else do
      let isBlankLine := c.rest.head?.any isBlank
      let gap :=
        if !isLiteral && pending == ['\n'] && !wasBlank && !isBlankLine then
          if breaks.isEmpty then [' '] else breaks
        else pending ++ breaks
      let line := c.rest.takeWhile (!isBreak ·)
      let c := c.skip line.length
      let (pending, c) := match c.skipBreak with
        | some (b, c) => ([b], c)
        | none => ([], c)
      let (breaks, _, c) ← readBlockBreaks (some indent) (c.rest.length + 1) 0 c
      let (text, pending, breaks, c) ←
        readBlockLines isLiteral indent fuel pending breaks isBlankLine c
      return (gap ++ line ++ text, pending, breaks, c)

/-- Reads a block behind its mark, under an indentation. -/
def readBlock (isLiteral : Bool) (parent : Int) (c : Cursor) : Option (List Char × Cursor) := do
  let (chomping, depth, c) ← readBlockMarks c
  let c ← skipRestOfLine c
  let given := depth.map fun d => (max parent 0).toNat + d
  let (breaks, deepest, c) ← readBlockBreaks given (c.rest.length + 1) 0 c
  let indent := given.getD (max deepest (max (parent + 1) 1).toNat)
  let (text, pending, breaks, c) ←
    readBlockLines isLiteral indent (c.rest.length + 1) [] breaks false c
  let tail := match chomping with
    | .strip => []
    | .clip => pending
    | .keep => pending ++ breaks
  return (text ++ tail, c)

end CustomFields.Yaml
