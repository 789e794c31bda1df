import Gleaner.Text.Utf8
import Gleaner.Url.Basic

/-!
Queries of addresses: named values, joined by ampersands, in which octets may be written as
escapes.
-/

namespace Gleaner.Url

open Text (Octets)

/-- The octets that ASCII characters stand for: a percent sign with two hexadecimal digits is
one. -/
def octetsOfEscaped : List Char → Octets
  | [] => []
  | '%' :: h :: l :: cs =>
    match Text.hexValue? h, Text.hexValue? l with
    | some a, some b => UInt8.ofNat (16 * a + b) :: octetsOfEscaped cs
    | _, _ => 37 :: octetsOfEscaped (h :: l :: cs)
  | c :: cs => UInt8.ofNat c.toNat :: octetsOfEscaped cs

/-- The longest runs of ASCII characters and of others, in order. -/
def runs : List Char → List (Bool × List Char)
  | [] => []
  | c :: cs =>
    let plain := c.toNat < 128
    match runs cs with
    | (kind, run) :: rest =>
      if kind = plain then (kind, c :: run) :: rest else (plain, [c]) :: (kind, run) :: rest
    | [] => [(plain, [c])]

/-- Reads escapes; those that make no character read as the replacement character. -/
def unescape (cs : List Char) : List Char :=
  if cs.contains '%' then
    (runs cs).flatMap fun (plain, run) =>
      if plain then (Text.Utf8.decodeLossy (octetsOfEscaped run)).toList else run
  else cs

/-- Reads a name or value of a query, in which a plus sign is a blank. -/
def readForm (cs : List Char) : String :=
  String.ofList (unescape (cs.map fun c => if c = '+' then ' ' else c))

/-- The named values of a query, as far as they are not empty. -/
def pairsOf (query : List Char) : List (String × String) :=
  (Text.splitAt '&' query).filterMap fun field =>
    match Text.cutAt? '=' field with
    | some (name, value) => if value.isEmpty then none else some (readForm name, readForm value)
    | none => none

/-- Adds a value under its name: names stay in the order of their first value. -/
def addValue (name value : String) : List (String × List String) → List (String × List String)
  | [] => [(name, [value])]
  | (n, vs) :: rest =>
    if n = name then (n, vs ++ [value]) :: rest else (n, vs) :: addValue name value rest

/-- The values of a query by name. -/
def valuesOf (query : List Char) : List (String × List String) :=
  (pairsOf query).foldl (fun acc p => addValue p.1 p.2 acc) []

/-- Octets that are never escaped. -/
def isUnreserved (c : Char) : Bool := c.isAlphanum || c = '_' || c = '.' || c = '-' || c = '~'

def upperHexDigit (n : Nat) : Char := if n < 10 then Char.ofNat (48 + n) else Char.ofNat (55 + n)

def escapeOctet (b : UInt8) : List Char :=
  let c := Char.ofNat b.toNat
  if isUnreserved c then [c]
  else if c = ' ' then ['+']
  else ['%', upperHexDigit (b.toNat / 16), upperHexDigit (b.toNat % 16)]

/-- Writes a name or value of a query. -/
def writeForm (s : String) : List Char := (Text.octetsOf s).flatMap escapeOctet

def writePair (name value : String) : List Char := writeForm name ++ '=' :: writeForm value

/-- The first name or value that cannot be written. -/
def strayOf? (values : List (String × List String)) : Option Text.Stray :=
  values.findSome? fun (name, vs) => (name :: vs).findSome? Text.stray?

/-- The query of named values. -/
def queryOf (values : List (String × List String)) : List Char :=
  ['&'].intercalate (values.flatMap fun (name, vs) => vs.map (writePair name))

end Gleaner.Url
