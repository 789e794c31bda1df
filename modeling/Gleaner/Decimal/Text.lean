import Gleaner.Decimal.Shortest
import Gleaner.Text.Digit
import Gleaner.Text.Blank
import Gleaner.Text.Lower

/-!
Floating-point numbers as text: the shortest decimal that reads back, and the reading of decimals.
-/

namespace Gleaner.Decimal

/-- How a number is laid out around its point. -/
structure Style where
  /-- Greatest number of places before the point in positional notation. -/
  places : Int
  /-- Least number of places before the point in positional notation. -/
  leading : Int
  /-- Least number of digits of an exponent. -/
  exponentDigits : Nat

/-- Positional from four zeros after the point up to sixteen places before it, and with an
exponent of at least two digits elsewhere. -/
def plain : Style := ⟨16, -3, 2⟩

def zeros (n : Nat) : List Char := List.replicate n '0'

/-- Digits with a point after the first d of them, and at least one digit on both sides. -/
def positional (ds : List Char) (d : Int) : List Char :=
  if d ≤ 0 then '0' :: '.' :: zeros (-d).toNat ++ ds
  else
    let k := d.toNat
    if ds.length ≤ k then ds ++ zeros (k - ds.length) ++ ['.', '0']
    else ds.take k ++ '.' :: ds.drop k

def scientific (style : Style) (ds : List Char) (d : Int) : List Char :=
  let e := d - 1
  let es := digits e.natAbs
  let body := match ds with
    | [] => []
    | [c] => [c]
    | c :: cs => c :: '.' :: cs
  body ++ 'e' :: (if e < 0 then '-' else '+') :: zeros (style.exponentDigits - es.length) ++ es

def Style.layout (style : Style) (ds : List Char) (d : Int) : List Char :=
  if style.leading ≤ d && d ≤ style.places then positional ds d else scientific style ds d

/-- The text of a number: signs of zeros are kept. -/
def ofFloat (x : Float) : List Char :=
  if x.isNaN then ['n', 'a', 'n']
  else
    let bits := x.toBits.toNat
    let sign := if Nat.pow 2 63 ≤ bits then ['-'] else []
    let e := bits / Nat.pow 2 52 % 2048
    let frac := bits % Nat.pow 2 52
    if e = 2047 then sign ++ ['i', 'n', 'f']
    else
      let (ds, d) := shortest (if e = 0 then frac else frac + Nat.pow 2 52) (max e 1)
      sign ++ plain.layout ds d

/-- The text of a number as a string. -/
def render (x : Float) : String := String.ofList (ofFloat x)

def infinity : Float := 1.0 / 0.0
def notANumber : Float := 0.0 / 0.0

def digitValue (c : Char) : Nat := c.toNat - 48

/-- The number that decimal digits stand for. -/
def natOf (ds : List Char) : Nat := ds.foldl (fun n c => 10 * n + digitValue c) 0

/-- Beyond these exponents every number of a given count of digits is zero or infinite. -/
def exponentLimit : Nat := 400

/-- The nearest float to n · 10 ^ e. -/
def nearest (n : Nat) (e : Int) : Float :=
  let size : Int := (digits n).length
  if n = 0 || e + size < -exponentLimit then 0.0
  else if exponentLimit < e + size then infinity
  else Float.ofScientific n (e < 0) e.natAbs

/-- A decimal: whole digits, digits after the point, exponent. -/
structure Literal where
  negative : Bool
  whole : List Char
  fraction : List Char
  exponent : Int

def Literal.toFloat (l : Literal) : Float :=
  let x := nearest (natOf (l.whole ++ l.fraction)) (l.exponent - l.fraction.length)
  if l.negative then -x else x

/-- A leading sign. -/
def signOf : List Char → Bool × List Char
  | '-' :: cs => (true, cs)
  | '+' :: cs => (false, cs)
  | cs => (false, cs)

/-- Reads a literal: at least one digit beside the point, an exponent with at least one digit. -/
def literal? (cs : List Char) : Option Literal :=
  let (negative, cs) := signOf cs
  let whole := cs.takeWhile Char.isDigit
  let rest := cs.dropWhile Char.isDigit
  let (fraction, rest) := match rest with
    | '.' :: r => (r.takeWhile Char.isDigit, r.dropWhile Char.isDigit)
    | r => ([], r)
  if whole.isEmpty && fraction.isEmpty then none
  else match rest with
    | [] => some ⟨negative, whole, fraction, 0⟩
    | c :: r =>
      if c = 'e' || c = 'E' then
        let (down, es) := signOf r
        if es.isEmpty || !es.all Char.isDigit then none
        else
          let e : Int := natOf es
          some ⟨negative, whole, fraction, if down then -e else e⟩
      else none

/-- Removes low lines that stand between two digits; any other low line makes the text no
number. -/
def ungroup? : Option Char → List Char → Option (List Char)
  | _, [] => some []
  | before, '_' :: cs =>
    match before, cs with
    | some b, c :: _ => if b.isDigit && c.isDigit then ungroup? (some '_') cs else none
    | _, _ => none
  | _, c :: cs => (ungroup? (some c) cs).map (c :: ·)

/-- Reads a number: a literal, an infinity or a NaN, white space around it and low lines between
its digits, digits of any script. -/
def read? (s : String) : Option Float :=
  let cs := (Text.trimOf Text.isSpace s.toList).map fun c =>
    match Text.decimalValue? c with
    | some n => Char.ofNat (48 + n)
    | none => c
  (ungroup? none cs).bind fun cs =>
    let (negative, body) := signOf cs
    let word := String.ofList (body.map Char.toLower)
    if word = "inf" || word = "infinity" then some (if negative then -infinity else infinity)
    else if word = "nan" then some notANumber
    else (literal? cs).map Literal.toFloat

end Gleaner.Decimal
