/-!
The shortest decimal that reads back as a given binary fraction, found in whole numbers.
-/

namespace Gleaner.Decimal

/-- The decimal digits of a number, most significant first. -/
def digits (n : Nat) : List Char := (Nat.toDigits 10 n)

/-- An interval of fractions over one denominator, and the value inside it. -/
structure Window where
  den : Nat
  low : Nat
  mid : Nat
  high : Nat
  closed : Bool

/-- Whether c · 10 ^ s lies in the interval. -/
def Window.holds (w : Window) (c : Nat) (s : Int) : Bool :=
  let x := if 0 ≤ s then c * Nat.pow 10 s.toNat * w.den else c * w.den
  let scale := if 0 ≤ s then 1 else Nat.pow 10 (-s).toNat
  let low := w.low * scale
  let high := w.high * scale
  (low < x && x < high) || (w.closed && (x = low || x = high))

/-- The position d with 10 ^ (d - 1) ≤ value < 10 ^ d. -/
def Window.point (w : Window) : Int :=
  if w.den ≤ w.mid then (digits (w.mid / w.den)).length
  else 1 - ((digits ((w.den + w.mid - 1) / w.mid - 1)).length : Int)

/-- The two neighbours of the value on the grid of spacing 10 ^ s, the nearer first; of two as
near, the even one. -/
def Window.neighbours (w : Window) (s : Int) : List Nat :=
  let num := if 0 ≤ s then w.mid else w.mid * Nat.pow 10 (-s).toNat
  let den := if 0 ≤ s then w.den * Nat.pow 10 s.toNat else w.den
  let c := num / den
  let twice := 2 * (num % den)
  if twice < den || (twice = den && c % 2 = 0) then [c, c + 1] else [c + 1, c]

/-- Tries ever finer grids. -/
def Window.search (w : Window) (d : Int) : Nat → Nat → Nat × Int
  | 0, n => ((w.neighbours (d - n)).headD 0, d - n)
  | fuel + 1, n =>
    match (w.neighbours (d - n)).find? fun c => w.holds c (d - n) with
    | some c => (c, d - n)
    | none => w.search d fuel (n + 1)

/-- The fractions that round to m · 2 ^ (e - 1075) in a format of 53 bits: a value at a power of
two has its lower neighbour at half the distance. -/
def Window.ofBinary (m e : Nat) : Window :=
  let narrow := m = Nat.pow 2 52 && 1 < e
  let scaleUp := if 1077 ≤ e then Nat.pow 2 (e - 1077) else 1
  let den := if 1077 ≤ e then 1 else Nat.pow 2 (1077 - e)
  { den, low := (4 * m - (if narrow then 1 else 2)) * scaleUp, mid := 4 * m * scaleUp,
    high := (4 * m + 2) * scaleUp, closed := m % 2 = 0 }

/-- The digits of the shortest decimal and the position of its point. -/
def shortest (m e : Nat) : List Char × Int :=
  if m = 0 then (['0'], 1)
  else
    let w := Window.ofBinary m e
    let (c, s) := w.search w.point 17 1
    let ds := digits c
    let kept := (ds.reverse.dropWhile (· = '0')).reverse
    (kept, ds.length + s)

end Gleaner.Decimal
