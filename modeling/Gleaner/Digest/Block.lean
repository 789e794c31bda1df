import Gleaner.Text.Utf8

/-!
Messages for digests: octets, padded to blocks of 64 with their length in bits at the end, and
read as words of 32 bits.
-/

namespace Gleaner.Digest

open Text (Octets)

/-- The order of the octets in a word. -/
inductive Order where
  | smallFirst
  | bigFirst

/-- The octets of a number, the smallest first. -/
def octetsFrom (n : Nat) : Nat → Octets
  | 0 => []
  | k + 1 => UInt8.ofNat n :: octetsFrom (n / 256) k

def Order.octets (o : Order) (n k : Nat) : Octets :=
  match o with
  | smallFirst => octetsFrom n k
  | bigFirst => (octetsFrom n k).reverse

/-- A message with a mark behind it, zeros up to the last eight octets of a block, and its length
in bits. -/
def padded (o : Order) (message : Octets) : Octets :=
  let zeros := (119 - message.length % 64) % 64
  message ++ 0x80 :: List.replicate zeros 0 ++ o.octets (8 * message.length) 8

def word (o : Order) (bs : Octets) : UInt32 :=
  let bs := match o with
    | .smallFirst => bs.reverse
    | .bigFirst => bs
  bs.foldl (fun w b => (w <<< 8) ||| b.toUInt32) 0

/-- Splits a list into parts of a length; what is left over is dropped. -/
def chunks {β : Type} (size : Nat) (bs : List β) : List (List β) :=
  (List.range (bs.length / size)).map fun i => (bs.drop (i * size)).take size

/-- The blocks of a message, each of sixteen words. -/
def blocks (o : Order) (message : Octets) : List (Array UInt32) :=
  (chunks 64 (padded o message)).map fun block => ((chunks 4 block).map (word o)).toArray

def rotate (x : UInt32) (n : UInt32) : UInt32 := (x <<< n) ||| (x >>> (32 - n))

/-- The words of a state as hexadecimal digits. -/
def hex (o : Order) (state : List UInt32) : String :=
  String.ofList (state.flatMap fun w => (o.octets w.toNat 4).flatMap fun b =>
    Text.hexFixed 2 b.toNat)

end Gleaner.Digest
