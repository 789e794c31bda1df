import Gleaner.Digest.Block

/-!
The SHA-1 and SHA-256 digests.
-/

namespace Gleaner.Digest

/-- Extends the words of a block by a rule over the words so far. -/
def schedule (rule : Array UInt32 → Nat → UInt32) (size : Nat) (block : Array UInt32) :
    Array UInt32 :=
  (List.range (size - block.size)).foldl (fun ws _ => ws.push (rule ws ws.size)) block

/-- The word some places back from the next one. -/
def back (ws : Array UInt32) (i k : Nat) : UInt32 := ws.getD (i - k) 0

/-- Adds two states word by word. -/
def addStates (s t : List UInt32) : List UInt32 := List.zipWith (· + ·) s t

namespace Sha1

def start : List UInt32 := [0x67452301, 0xefcdab89, 0x98badcfe, 0x10325476, 0xc3d2e1f0]

def rule (ws : Array UInt32) (i : Nat) : UInt32 :=
  rotate (back ws i 3 ^^^ back ws i 8 ^^^ back ws i 14 ^^^ back ws i 16) 1

def step (ws : Array UInt32) : List UInt32 → Nat → List UInt32
  | [a, b, c, d, e], i =>
    let (f, k) : UInt32 × UInt32 := match i / 20 with
      | 0 => ((b &&& c) ||| (~~~b &&& d), 0x5a827999)
      | 1 => (b ^^^ c ^^^ d, 0x6ed9eba1)
      | 2 => ((b &&& c) ||| (b &&& d) ||| (c &&& d), 0x8f1bbcdc)
      | _ => (b ^^^ c ^^^ d, 0xca62c1d6)
    [rotate a 5 + f + e + k + ws.getD i 0, a, rotate b 30, c, d]
  | s, _ => s

def absorb (s : List UInt32) (block : Array UInt32) : List UInt32 :=
  addStates s ((List.range 80).foldl (step (schedule rule 80 block)) s)

def digest (message : Text.Octets) : String :=
  hex .bigFirst ((blocks .bigFirst message).foldl absorb start)

end Sha1

namespace Sha256

def start : List UInt32 := [0x6a09e667, 0xbb67ae85, 0x3c6ef372, 0xa54ff53a, 0x510e527f, 0x9b05688c,
  0x1f83d9ab, 0x5be0cd19]

/-- The fractional parts of the cube roots of the first 64 primes, to 32 bits. -/
def constants : Array UInt32 := #[
  0x428a2f98, 0x71374491, 0xb5c0fbcf, 0xe9b5dba5, 0x3956c25b, 0x59f111f1, 0x923f82a4, 0xab1c5ed5,
  0xd807aa98, 0x12835b01, 0x243185be, 0x550c7dc3, 0x72be5d74, 0x80deb1fe, 0x9bdc06a7, 0xc19bf174,
  0xe49b69c1, 0xefbe4786, 0x0fc19dc6, 0x240ca1cc, 0x2de92c6f, 0x4a7484aa, 0x5cb0a9dc, 0x76f988da,
  0x983e5152, 0xa831c66d, 0xb00327c8, 0xbf597fc7, 0xc6e00bf3, 0xd5a79147, 0x06ca6351, 0x14292967,
  0x27b70a85, 0x2e1b2138, 0x4d2c6dfc, 0x53380d13, 0x650a7354, 0x766a0abb, 0x81c2c92e, 0x92722c85,
  0xa2bfe8a1, 0xa81a664b, 0xc24b8b70, 0xc76c51a3, 0xd192e819, 0xd6990624, 0xf40e3585, 0x106aa070,
  0x19a4c116, 0x1e376c08, 0x2748774c, 0x34b0bcb5, 0x391c0cb3, 0x4ed8aa4a, 0x5b9cca4f, 0x682e6ff3,
  0x748f82ee, 0x78a5636f, 0x84c87814, 0x8cc70208, 0x90befffa, 0xa4506ceb, 0xbef9a3f7, 0xc67178f2]

def turnRight (x n : UInt32) : UInt32 := rotate x (32 - n)

def rule (ws : Array UInt32) (i : Nat) : UInt32 :=
  let x := back ws i 15
  let y := back ws i 2
  back ws i 16 + (turnRight x 7 ^^^ turnRight x 18 ^^^ (x >>> 3)) + back ws i 7 +
    (turnRight y 17 ^^^ turnRight y 19 ^^^ (y >>> 10))

def step (ws : Array UInt32) : List UInt32 → Nat → List UInt32
  | [a, b, c, d, e, f, g, h], i =>
    let t := h + (turnRight e 6 ^^^ turnRight e 11 ^^^ turnRight e 25) +
      ((e &&& f) ^^^ (~~~e &&& g)) + constants.getD i 0 + ws.getD i 0
    let u := (turnRight a 2 ^^^ turnRight a 13 ^^^ turnRight a 22) +
      ((a &&& b) ^^^ (a &&& c) ^^^ (b &&& c))
    [t + u, a, b, c, d + t, e, f, g]
  | s, _ => s

def absorb (s : List UInt32) (block : Array UInt32) : List UInt32 :=
  addStates s ((List.range 64).foldl (step (schedule rule 64 block)) s)

def digest (message : Text.Octets) : String :=
  hex .bigFirst ((blocks .bigFirst message).foldl absorb start)

end Sha256

end Gleaner.Digest
