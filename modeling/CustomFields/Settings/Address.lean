import CustomFields.Text.Digit

/-!
# Socket addresses

An address is four numbers below 256 with points between them, or eight groups of hexadecimal
digits in brackets, of which one run of zeros may be left out and the last two may be written as
four numbers. A port follows behind a colon. `text` writes an address in its shortest form.
-/

namespace CustomFields.Settings

/-- The address of a host, as bytes or as groups of two bytes. -/
inductive HostAddress where
  | v4 (a b c d : Nat)
  /-- With the number of the zone; zero is none. -/
  | v6 (groups : List Nat) (scope : Nat)
deriving DecidableEq, Repr

/-- Where a server listens. -/
structure SocketAddress where
  host : HostAddress
  port : Nat
deriving DecidableEq, Repr

/-! ## Reading -/

/-- What reads the front of a text and returns the rest. -/
abbrev AddressReader (α : Type) := List Char → Option (α × List Char)

/-- Reads a number below a limit, with as many digits as there are. -/
def readNumber (radix limit : Nat) (isWritten : List Nat → Bool) : AddressReader Nat := fun cs =>
  let (ds, rest) := cs.span fun c => (Digit.value? radix c).isSome
  let values := ds.filterMap (Digit.value? radix)
  let n := values.foldl (fun n d => n * radix + d) 0
  if values.isEmpty || !isWritten values || limit ≤ n then none else some (n, rest)

/-- One of four numbers: three digits at most, and no zero in front. -/
def readByte : AddressReader Nat :=
  readNumber 10 256 fun ds => ds.length ≤ 3 && (ds.head? != some 0 || ds.length = 1)

/-- A group of an address: four hexadecimal digits at most. -/
def readGroup : AddressReader Nat :=
  readNumber 16 UInt16.size fun ds => ds.length ≤ 4

/-- The number of a port. -/
def readPort : AddressReader Nat :=
  readNumber 10 UInt16.size fun _ => true

/-- What is left behind a character that has to come next. -/
private def expect (c : Char) (cs : List Char) : Option (List Char) :=
  match cs with
  | c' :: rest => if c = c' then some rest else none
  | [] => none

/-- Four bytes with points between them. -/
def readV4 : AddressReader (Nat × Nat × Nat × Nat) := fun cs => do
  let (a, rest) ← readByte cs
  let (b, rest) ← readByte (← expect '.' rest)
  let (c, rest) ← readByte (← expect '.' rest)
  let (d, rest) ← readByte (← expect '.' rest)
  return ((a, b, c, d), rest)

/-- Reads up to `limit` groups, with a colon between two of them and in front of the first one if
`isFirst` is false. The answer says whether four numbers stand at the end. -/
def readGroups : (limit : Nat) → (isFirst : Bool) → List Char → (List Nat × Bool) × List Char
  | 0, _, cs => (([], false), cs)
  | limit + 1, isFirst, cs =>
    let item? := if isFirst then some cs else expect ':' cs
    match if 1 ≤ limit then item?.bind readV4 else none, item?.bind readGroup with
    | some ((a, b, c, d), rest), _ => (([a * 256 + b, c * 256 + d], true), rest)
    | none, some (g, rest) =>
      let ((gs, isMixed), rest) := readGroups limit false rest
      ((g :: gs, isMixed), rest)
    | none, none => (([], false), cs)

/-- Reads the groups of an address, of which zeros may be left out between two colons. -/
def readV6 : AddressReader (List Nat) := fun cs => do
  let ((front, isMixed), rest) := readGroups 8 true cs
  if front.length = 8 then return (front, rest)
  if isMixed then none
  let rest ← expect ':' (← expect ':' rest)
  let ((back, _), rest) := readGroups (7 - front.length) true rest
  return (front ++ List.replicate (8 - front.length - back.length) 0 ++ back, rest)

/-- An address of one of the two kinds. One of the second kind stands in brackets, and may have a
scope. -/
def readHost : AddressReader HostAddress := fun cs =>
  match readV4 cs with
  | some ((a, b, c, d), rest) => some (.v4 a b c d, rest)
  | none => do
    let (groups, rest) ← readV6 (← expect '[' cs)
    let (scope, rest) ← match rest with
      | '%' :: rest => readNumber 10 UInt32.size (fun _ => true) rest
      | rest => some (0, rest)
    return (.v6 groups scope, ← expect ']' rest)

/-- The address that a text is. -/
def SocketAddress.parse? (s : String) : Option SocketAddress := do
  let (host, rest) ← readHost s.toList
  let (port, rest) ← readPort (← expect ':' rest)
  if rest.isEmpty then return ⟨host, port⟩ else none

/-! ## Writing -/

/-- Four bytes with points between them. -/
private def v4Text (a b c d : Nat) : String :=
  ".".intercalate ([a, b, c, d].map toString)

/-- A group of an address. -/
private def groupText (g : Nat) : String :=
  String.ofList (Nat.toDigits 16 g)

/-- How many zeros stand at the front. -/
def zerosAtFront : List Nat → Nat
  | 0 :: gs => zerosAtFront gs + 1
  | _ => 0

/-- The first of the longest runs of zeros: where it begins, and its length. -/
def longestZeros (groups : List Nat) : Nat × Nat :=
  (List.range groups.length).foldl (fun (best : Nat × Nat) i =>
    let n := zerosAtFront (groups.drop i)
    if best.2 < n then (i, n) else best) (0, 0)

/-- The groups of an address. The longest row of zeros is left out, and an address of the first kind
is shown as one. -/
def groupsText (groups : List Nat) : String :=
  match groups with
  | [0, 0, 0, 0, 0, 0xFFFF, high, low] =>
    "::ffff:" ++ v4Text (high / 256) (high % 256) (low / 256) (low % 256)
  | _ =>
    let joined (gs : List Nat) : String := ":".intercalate (gs.map groupText)
    let (start, length) := longestZeros groups
    if length ≤ 1 then joined groups
    else joined (groups.take start) ++ "::" ++ joined (groups.drop (start + length))

/-- An address as it stands in front of a port. -/
def HostAddress.text : HostAddress → String
  | .v4 a b c d => v4Text a b c d
  | .v6 groups scope =>
    "[" ++ groupsText groups ++ (if scope = 0 then "" else "%" ++ toString scope) ++ "]"

/-- An address with its port. -/
def SocketAddress.text (a : SocketAddress) : String :=
  a.host.text ++ ":" ++ toString a.port

end CustomFields.Settings
