import Gleaner.Schema.Raw
import Gleaner.Shape.Complaint

/-!
Lenient reading of single values: numbers and truth values may be written as text, truth values
count as one and zero, and numbers without fraction are whole.
-/

namespace Gleaner.Shape

def readText (v : Raw) : Checked String :=
  match v.text? with
  | some s => .ok s
  | none => .refuse .notText

def truthWords : List String := ["1", "on", "t", "true", "y", "yes"]
def falsehoodWords : List String := ["0", "off", "f", "false", "n", "no"]

def truthOfText (s : String) : Checked Bool :=
  let word := String.ofList (s.toList.map Char.toLower)
  if truthWords.contains word then .ok true
  else if falsehoodWords.contains word then .ok false
  else .refuse .truthUnclear

def truthOfWhole (n : Int) : Checked Bool :=
  if n = 0 then .ok false else if n = 1 then .ok true else .refuse .truthUnclear

/-- Largest magnitude of a float that is read as a whole number. -/
def wholeLimit : Float := Float.ofNat (Nat.pow 2 63)

/-- The whole number that a float is. -/
def wholeOfFloat (x : Float) : Checked Int :=
  if x.isFinite then
    match Key.wholeOf? x with
    | none => .refuse .fractional
    | some n => if -wholeLimit < x && x < wholeLimit then .ok n else .refuse .wholeTooLarge
  else .refuse .notFinite

/-- Whether a whole number is within the range of floats: it is below halfway from the largest
float to the next power of two. -/
def isFloatSized (n : Int) : Bool := n.natAbs < Nat.pow 2 1024 - Nat.pow 2 970

/-- Whether a whole number is small enough to be looked at as a truth value. -/
def isWordSized (n : Int) : Bool := -(Nat.pow 2 63 : Int) ≤ n && n < (Nat.pow 2 63 : Int)

def readTruth (v : Raw) : Checked Bool :=
  match v with
  | .bool b => .ok b
  | .int n => if isWordSized n then truthOfWhole n else .refuse .notTruth
  | .float x => match wholeOfFloat x with
    | .ok n => truthOfWhole n
    | .error _ => .refuse .notTruth
  | v => match v.text? with
    | some s => truthOfText s
    | none => .refuse .notTruth

/-- Whether low lines only stand singly and inside a text. -/
def isGrouped : List Char → Bool
  | [] => true
  | ['_'] => false
  | '_' :: '_' :: _ => false
  | _ :: cs => isGrouped cs

/-- Takes the low lines out of a text in which they stand singly and inside; with others, the text
stays as it is. -/
def ungroup (cs : List Char) : List Char :=
  if cs.head? ≠ some '_' && isGrouped cs then cs.filter (· ≠ '_') else cs

/-- Takes off a point that only zeros follow. -/
def cutPoint (cs : List Char) : List Char :=
  match Text.cutAt? '.' cs with
  | some (whole, zeros) => if zeros.all (· = '0') then whole else cs
  | none => cs

/-- Whole numbers have a sign or none, digits that may be grouped, and at most zeros after a
point. -/
def wholeOfText? (s : String) : Option Int :=
  let (negative, body) := Decimal.signOf (Text.trimOf Text.isSpace s.toList)
  let ds := ungroup (cutPoint body)
  if (body.head?.map Char.isDigit).getD false && ds.all Char.isDigit then
    some (if negative then -(Decimal.natOf ds : Int) else Decimal.natOf ds)
  else none

/-- Longest text that is read as a whole number. -/
def wholeTextLimit : Nat := 4300

def readWhole (v : Raw) : Checked Int :=
  match v with
  | .bool b => .ok (if b then 1 else 0)
  | .int n => .ok n
  | .float x => wholeOfFloat x
  | v => match v.text? with
    | none => .refuse .notWhole
    | some s =>
      if wholeTextLimit < s.utf8ByteSize then .refuse .wholeTooLarge
      else match wholeOfText? s with
        | some n => .ok n
        | none => .refuse .wholeUnclear

/-- A decimal, an infinity or a NaN, without anything around it. -/
def floatOf? (cs : List Char) : Option Float :=
  let (negative, body) := Decimal.signOf cs
  let word := String.ofList (body.map Char.toLower)
  if word = "inf" || word = "infinity" then
    some (if negative then -Decimal.infinity else Decimal.infinity)
  else if word = "nan" then some Decimal.notANumber
  else (Decimal.literal? cs).map Decimal.Literal.toFloat

def floatOfText? (s : String) : Option Float :=
  (floatOf? (Text.trimOf Text.isSpace s.toList)).orElse fun _ => floatOf? (ungroup s.toList)

def readNumber (v : Raw) : Checked Float :=
  match v with
  | .bool b => .ok (if b then 1.0 else 0.0)
  | .int n =>
    if isFloatSized n then .ok (let x := Decimal.nearest n.natAbs 0; if n < 0 then -x else x)
    else .refuse .notNumber
  | .float x => .ok x
  | v => match v.text? with
    | none => .refuse .notNumber
    | some s => match floatOfText? s with
      | some x => .ok x
      | none => .refuse .numberUnclear

/-- Null where a value may be absent. -/
def readOptional {β : Type} (read : Raw → Checked β) (v : Raw) : Checked (Option β) :=
  if v.isNull then .ok none else (read v).map some

end Gleaner.Shape
