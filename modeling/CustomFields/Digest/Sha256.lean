import CustomFields.Text.Digit

/-!
# SHA-256

The digest of a row of bytes. Of the message schedule only the sixteen words that a round can
still need are kept: a round takes the first of them and puts a new one behind the last.
-/

namespace CustomFields.Sha256

-- Powers are those of the core library, whatever else is imported.
attribute [local instance (high)] instPowNat

/-- The working variables of the compression. -/
structure Registers where
  a : UInt32
  b : UInt32
  c : UInt32
  d : UInt32
  e : UInt32
  f : UInt32
  g : UInt32
  h : UInt32
deriving DecidableEq, Repr

/-- The registers at the start: the fractions of the square roots of the first primes. -/
def initial : Registers :=
  ⟨0x6a09e667, 0xbb67ae85, 0x3c6ef372, 0xa54ff53a, 0x510e527f, 0x9b05688c, 0x1f83d9ab, 0x5be0cd19⟩

/-- The constants of the 64 rounds. -/
def roundConstants : List UInt32 :=
  [0x428a2f98, 0x71374491, 0xb5c0fbcf, 0xe9b5dba5, 0x3956c25b, 0x59f111f1, 0x923f82a4, 0xab1c5ed5,
   0xd807aa98, 0x12835b01, 0x243185be, 0x550c7dc3, 0x72be5d74, 0x80deb1fe, 0x9bdc06a7, 0xc19bf174,
   0xe49b69c1, 0xefbe4786, 0x0fc19dc6, 0x240ca1cc, 0x2de92c6f, 0x4a7484aa, 0x5cb0a9dc, 0x76f988da,
   0x983e5152, 0xa831c66d, 0xb00327c8, 0xbf597fc7, 0xc6e00bf3, 0xd5a79147, 0x06ca6351, 0x14292967,
   0x27b70a85, 0x2e1b2138, 0x4d2c6dfc, 0x53380d13, 0x650a7354, 0x766a0abb, 0x81c2c92e, 0x92722c85,
   0xa2bfe8a1, 0xa81a664b, 0xc24b8b70, 0xc76c51a3, 0xd192e819, 0xd6990624, 0xf40e3585, 0x106aa070,
   0x19a4c116, 0x1e376c08, 0x2748774c, 0x34b0bcb5, 0x391c0cb3, 0x4ed8aa4a, 0x5b9cca4f, 0x682e6ff3,
   0x748f82ee, 0x78a5636f, 0x84c87814, 0x8cc70208, 0x90befffa, 0xa4506ceb, 0xbef9a3f7, 0xc67178f2]

/-- A word with its bits turned around. -/
private def rotateRight (x : UInt32) (n : UInt32) : UInt32 :=
  (x >>> n) ||| (x <<< (32 - n))

/-- A round: it takes the first word of the window of the schedule and adds a new last one. -/
def round (state : Registers × List UInt32) (k : UInt32) : Registers × List UInt32 :=
  let (r, window) := state
  let word (i : Nat) : UInt32 := window.getD i 0
  let s1 := rotateRight r.e 6 ^^^ rotateRight r.e 11 ^^^ rotateRight r.e 25
  let choice := (r.e &&& r.f) ^^^ ((~~~r.e) &&& r.g)
  let t1 := r.h + s1 + choice + k + word 0
  let s0 := rotateRight r.a 2 ^^^ rotateRight r.a 13 ^^^ rotateRight r.a 22
  let majority := (r.a &&& r.b) ^^^ (r.a &&& r.c) ^^^ (r.b &&& r.c)
  let low := rotateRight (word 1) 7 ^^^ rotateRight (word 1) 18 ^^^ (word 1 >>> 3)
  let high := rotateRight (word 14) 17 ^^^ rotateRight (word 14) 19 ^^^ (word 14 >>> 10)
  (⟨t1 + s0 + majority, r.a, r.b, r.c, r.d + t1, r.e, r.f, r.g⟩,
    window.drop 1 ++ [word 0 + low + word 9 + high])

/-- Adds a block of sixteen words to the registers. -/
def compress (r : Registers) (block : List UInt32) : Registers :=
  let r' := (roundConstants.foldl round (r, block)).1
  ⟨r.a + r'.a, r.b + r'.b, r.c + r'.c, r.d + r'.d, r.e + r'.e, r.f + r'.f, r.g + r'.g, r.h + r'.h⟩

/-- A message with its padding: a set bit, zeros, and the length in bits. -/
def padded (message : List UInt8) : List UInt8 :=
  let length := message.length
  let zeros := (119 - length % 64) % 64
  let bits := length * 8
  message ++ 0x80 :: List.replicate zeros 0 ++
    (List.range 8).map fun i => UInt8.ofNat (bits / 256 ^ (7 - i) % 256)

/-- Four bytes a word, the highest first. -/
def words : List UInt8 → List UInt32
  | a :: b :: c :: d :: rest =>
    ((a.toUInt32 <<< 24) ||| (b.toUInt32 <<< 16) ||| (c.toUInt32 <<< 8) ||| d.toUInt32) ::
      words rest
  | _ => []

/-- Adds the blocks of a row of words; `count` bounds their number. -/
def compressAll : Nat → Registers → List UInt32 → Registers
  | 0, r, _ => r
  | count + 1, r, ws =>
    if ws.isEmpty then r else compressAll count (compress r (ws.take 16)) (ws.drop 16)

/-- The digest as 64 lower-case hexadecimal digits. -/
def hexDigest (message : List UInt8) : String :=
  let ws := words (padded message)
  let r := compressAll ws.length initial ws
  String.ofList <| [r.a, r.b, r.c, r.d, r.e, r.f, r.g, r.h].flatMap fun w =>
    Digit.hexadecimal 8 w.toNat

end CustomFields.Sha256
