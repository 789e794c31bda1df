import Gleaner.Text.Utf8

/-!
Encodings of text: UTF-8, UTF-16, and those in which every octet is a character.
-/

namespace Gleaner.Text

inductive Encoding where
  | utf8
  | utf16 (bigFirst : Bool)
  /-- Every octet is the code point of its character. -/
  | latin1
  /-- ASCII below 128, and a table for the octets from there. -/
  | table (high : String)
  /-- ASCII without the tilde, which announces something else there. -/
  | hz
  deriving DecidableEq, Inhabited

/-- The control characters from 128 on. -/
def controls : String := String.ofList ((List.range 32).map fun n => Char.ofNat (128 + n))

namespace Encoding

/-- Only the characters below 128. -/
def ascii : Encoding := table ""

end Encoding

/-- The units of 16 bits in a text; a last single octet is left over. -/
def unitsOf (bigFirst : Bool) : Octets → List Nat
  | a :: b :: bs =>
    (if bigFirst then 256 * a.toNat + b.toNat else 256 * b.toNat + a.toNat) :: unitsOf bigFirst bs
  | _ => []

/-- The characters of units; half a pair is none. -/
def charsOfUnits : List Nat → List (Option Char)
  | [] => []
  | u :: us =>
    if 0xD800 ≤ u && u < 0xDC00 then
      match us with
      | v :: vs =>
        if 0xDC00 ≤ v && v < 0xE000 then
          some (Char.ofNat (0x10000 + (u - 0xD800) * 1024 + (v - 0xDC00))) :: charsOfUnits vs
        else none :: charsOfUnits (v :: vs)
      | [] => [none]
    else if 0xDC00 ≤ u && u < 0xE000 then none :: charsOfUnits us
    else some (Char.ofNat u) :: charsOfUnits us

/-- The character of an octet; the replacement character in a table stands for none. -/
def charOfOctet (high : List Char) (b : UInt8) : Option Char :=
  if b.toNat < 128 then some (Char.ofNat b.toNat)
  else (high[b.toNat - 128]?).filter (· ≠ '\uFFFD')

/-- The characters of a text, with nothing where octets make none. -/
def Encoding.chars : Encoding → Octets → List (Option Char)
  | utf8, bs => (Utf8.pieces bs).map fun
    | .char c => some c
    | .gap _ => none
  | utf16 bigFirst, bs => charsOfUnits (unitsOf bigFirst bs)
  | latin1, bs => bs.map fun b => some (Char.ofNat b.toNat)
  | table high, bs => bs.map (charOfOctet high.toList)
  | hz, bs => bs.map fun b => (charOfOctet [] b).filter (· ≠ '~')

/-- Reads a text as far as it is one. -/
def Encoding.decodeLossy (e : Encoding) (bs : Octets) : String :=
  String.ofList ((e.chars bs).map (·.getD '\uFFFD'))

end Gleaner.Text
