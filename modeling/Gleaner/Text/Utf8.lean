import Gleaner.Text.Hex

/-!
Octets read as UTF-8. What is no character is told apart in maximal pieces: an octet that starts
none, the start of one that does not go on, and one that the end cuts short.
-/

namespace Gleaner.Text

abbrev Octets := List UInt8

def octetsOf (s : String) : Octets := s.toUTF8.toList

namespace Utf8

inductive Misfit where
  | badStart
  | badContinuation
  | cutShort
  deriving DecidableEq

def Misfit.reason : Misfit → String
  | badStart => "invalid start byte"
  | badContinuation => "invalid continuation byte"
  | cutShort => "unexpected end of data"

/-- Octets that are no character. -/
structure Gap where
  position : Nat
  length : Nat
  /-- The first of them. -/
  octet : UInt8
  misfit : Misfit

def Gap.message (g : Gap) : String :=
  "'utf-8' codec can't decode " ++
    (if g.length = 1 then
      "byte 0x" ++ String.ofList (hexFixed 2 g.octet.toNat) ++ " in position " ++
        toString g.position
    else
      "bytes in position " ++ toString g.position ++ "-" ++ toString (g.position + g.length - 1)) ++
    ": " ++ g.misfit.reason

/-- The start of a character: how many octets it still needs, where the next one has to lie, and
the bits so far. -/
structure Open where
  owed : Nat
  low : Nat
  high : Nat
  bits : Nat
  seen : Nat
  first : UInt8

inductive Piece where
  | char (c : Char)
  | gap (g : Gap)

inductive Begin where
  | whole (c : Char)
  | more (o : Open)
  | none

/-- What an octet begins. -/
def begin? (b : UInt8) : Begin :=
  let n := b.toNat
  if n < 0x80 then .whole (Char.ofNat n)
  else if 0xC2 ≤ n && n ≤ 0xDF then .more ⟨1, 0x80, 0xBF, n - 0xC0, 1, b⟩
  else if n = 0xE0 then .more ⟨2, 0xA0, 0xBF, 0, 1, b⟩
  else if n = 0xED then .more ⟨2, 0x80, 0x9F, 0xD, 1, b⟩
  else if 0xE1 ≤ n && n ≤ 0xEF then .more ⟨2, 0x80, 0xBF, n - 0xE0, 1, b⟩
  else if n = 0xF0 then .more ⟨3, 0x90, 0xBF, 0, 1, b⟩
  else if 0xF1 ≤ n && n ≤ 0xF3 then .more ⟨3, 0x80, 0xBF, n - 0xF0, 1, b⟩
  else if n = 0xF4 then .more ⟨3, 0x80, 0x8F, 4, 1, b⟩
  else .none

/-- The pieces of a text whose first octet has the given position. -/
def piecesFrom : Option Open → Nat → Octets → List Piece
  | none, _, [] => []
  | some o, i, [] => [.gap ⟨i - o.seen, o.seen, o.first, .cutShort⟩]
  | state, i, b :: bs =>
    let fresh (_ : Unit) : List Piece := match begin? b with
      | .whole c => .char c :: piecesFrom none (i + 1) bs
      | .more o => piecesFrom (some o) (i + 1) bs
      | .none => .gap ⟨i, 1, b, .badStart⟩ :: piecesFrom none (i + 1) bs
    match state with
    | none => fresh ()
    | some o =>
      if o.low ≤ b.toNat && b.toNat ≤ o.high then
        let bits := o.bits * 64 + b.toNat % 64
        if o.owed ≤ 1 then .char (Char.ofNat bits) :: piecesFrom none (i + 1) bs
        else piecesFrom (some ⟨o.owed - 1, 0x80, 0xBF, bits, o.seen + 1, o.first⟩) (i + 1) bs
      else .gap ⟨i - o.seen, o.seen, o.first, .badContinuation⟩ :: fresh ()

def pieces (bs : Octets) : List Piece := piecesFrom none 0 bs

def firstGap? : List Piece → Option Gap
  | [] => none
  | .char _ :: ps => firstGap? ps
  | .gap g :: _ => some g

/-- A gap reads as the replacement character. -/
def Piece.shown : Piece → Char
  | char c => c
  | gap _ => '\uFFFD'

/-- Reads a text as far as it is one. -/
def decodeLossy (bs : Octets) : String := String.ofList ((pieces bs).map Piece.shown)

/-- Reads a text without gaps. -/
def decode (bs : Octets) : Except Gap String :=
  match firstGap? (pieces bs) with
  | some g => .error g
  | none => .ok (decodeLossy bs)

end Utf8

/-- Every line ends in a line feed, whatever it ended in. -/
def unifyLines : List Char → List Char
  | [] => []
  | '\r' :: '\n' :: cs => '\n' :: unifyLines cs
  | '\r' :: cs => '\n' :: unifyLines cs
  | c :: cs => c :: unifyLines cs

end Gleaner.Text
