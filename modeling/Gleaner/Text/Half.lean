import Gleaner.Text.Hex

/-!
Halves of surrogate pairs. An escape may name one alone, so that a text may hold it, but no
encoding has octets for it. Since it is no character, a code point of the plane 0xD stands for it:
no character is assigned there.
-/

namespace Gleaner.Text

def isHalf (c : Char) : Bool := 0xDD800 ≤ c.toNat && c.toNat ≤ 0xDDFFF

/-- The half of a code unit from 0xD800 to 0xDFFF. -/
def halfOf (unit : Nat) : Char := Char.ofNat (0xD0000 + unit)

/-- The code unit of a half. -/
def unitOf (half : Char) : Nat := half.toNat - 0xD0000

/-- Halves that no name of a file has. Each of the others stands for an octet there. -/
def isNameless (c : Char) : Bool := isHalf c && !(0xDDC80 ≤ c.toNat && c.toNat ≤ 0xDDCFF)

/-- Halves in a row that have no octets. -/
structure Stray where
  position : Nat
  length : Nat
  unit : Nat
  deriving DecidableEq

def Stray.message (s : Stray) : String :=
  "'utf-8' codec can't encode " ++
    (if s.length = 1 then
      "character '\\u" ++ String.ofList (hexFixed 4 s.unit) ++ "' in position " ++
        toString s.position
    else
      "characters in position " ++ toString s.position ++ "-" ++
        toString (s.position + s.length - 1)) ++
    ": surrogates not allowed"

/-- The first half that is refused, with those behind it. -/
def strayIn? (refused : Char → Bool) (cs : List Char) : Option Stray :=
  match cs.dropWhile (!refused ·) with
  | [] => none
  | c :: rest =>
    some ⟨(cs.takeWhile (!refused ·)).length, ((c :: rest).takeWhile isHalf).length, unitOf c⟩

/-- What of a text has no octets. -/
def stray? (s : String) : Option Stray := strayIn? isHalf s.toList

end Gleaner.Text
