import Gleaner.Markup.Entity

/-!
Character references in markup. Between tags and inside attribute values they follow different
rules: a value takes the longest known name, and drops what no text may hold.
-/

namespace Gleaner.Markup

def replacement : Char := Char.ofNat 0xFFFD

/-- What the code points from 0x80 to 0x9F stand for in old pages. -/
def oldPagePoints : List Nat :=
  [0x20AC, 0x81, 0x201A, 0x192, 0x201E, 0x2026, 0x2020, 0x2021, 0x2C6, 0x2030, 0x160, 0x2039,
    0x152, 0x8D, 0x17D, 0x8F, 0x90, 0x2018, 0x2019, 0x201C, 0x201D, 0x2022, 0x2013, 0x2014, 0x2DC,
    0x2122, 0x161, 0x203A, 0x153, 0x9D, 0x17E, 0x178]

/-- The character of a number: zero and numbers of no character are replaced. -/
def numbered (n : Nat) : Char :=
  if n = 0 || (0xD800 ≤ n && n ≤ 0xDFFF) || 0x10FFFF < n then replacement
  else Char.ofNat (if 0x80 ≤ n then oldPagePoints.getD (n - 0x80) n else n)

/-- Control characters and code points that never are characters. -/
def isForbidden (n : Nat) : Bool :=
  (1 ≤ n && n ≤ 8) || (0xB = n) || (0xE ≤ n && n ≤ 0x1F) || n = 0x7F ||
    (0xFDD0 ≤ n && n ≤ 0xFDEF) || n % 0x10000 = 0xFFFE || n % 0x10000 = 0xFFFF

/-- As above inside an attribute value, where forbidden characters are dropped. -/
def numberedValue (n : Nat) : List Char :=
  if n ≤ 0x10FFFF && isForbidden n then [] else [numbered n]

def decimalNumber (cs : List Char) : Nat := cs.foldl (fun n c => 10 * n + (c.toNat - 48)) 0

/-- The number in a reference and what follows its digits; given is what follows the number
sign. -/
def number? (cs : List Char) : Option (Nat × List Char) :=
  match cs with
  | [] => none
  | c :: r =>
    if c = 'x' || c = 'X' then
      match r.takeWhile Text.isHexDigit with
      | [] => none
      | ds => some (Text.numberIn 16 ds, r.dropWhile Text.isHexDigit)
    else
      match cs.takeWhile Char.isDigit with
      | [] => none
      | ds => some (decimalNumber ds, cs.dropWhile Char.isDigit)

def skipSemicolon : List Char → List Char
  | ';' :: r => r
  | r => r

/-- Characters that a name in an attribute value may consist of. -/
def isNamePart (c : Char) : Bool :=
  !(c = '\t' || c = '\n' || c = '\x0c' || c = ' ' || c = '<' || c = '&' || c = '#' || c = ';')

/-- Names have at most so many characters. -/
def nameLimit : Nat := 32

/-- The longest known name, of at least two characters, that a text starts with, and the rest. -/
def longestName? (cs : List Char) : Nat → Option (List Char × List Char)
  | 0 => none
  | n + 1 =>
    if n = 0 then none
    else match openEntity? (String.ofList (cs.take (n + 1))) with
      | some e => some (e, cs.drop (n + 1))
      | none => longestName? cs n

/-- What a name in an attribute value stands for; an unknown one stands for itself. -/
def namedValue (name : List Char) (closed : Bool) : List Char :=
  let whole := if closed then entity? (String.ofList name) else openEntity? (String.ofList name)
  match whole with
  | some e => e
  | none =>
    let ending := if closed then [';'] else []
    match longestName? name (if closed then name.length else name.length - 1) with
    | some (e, rest) => e ++ rest ++ ending
    | none => '&' :: name ++ ending

/-- The first reference of an attribute value, given what follows its ampersand. -/
def valueReference (cs : List Char) : List Char × List Char :=
  match cs with
  | '#' :: r =>
    match number? r with
    | some (n, rest) => (numberedValue n, skipSemicolon rest)
    | none => (['&'], cs)
  | _ =>
    match (cs.take nameLimit).takeWhile isNamePart with
    | [] => (['&'], cs)
    | name =>
      let rest := cs.drop name.length
      (namedValue name (rest.head? = some ';'), skipSemicolon rest)

/-- Resolves the references of an attribute value. -/
def resolveValue : Nat → List Char → List Char
  | 0, cs => cs
  | _, [] => []
  | fuel + 1, c :: cs =>
    if c = '&' then
      let (meant, rest) := valueReference cs
      meant ++ resolveValue fuel rest
    else c :: resolveValue fuel cs

/-- The text that an attribute value stands for. -/
def valueText (raw : List Char) : List Char := resolveValue raw.length raw

end Gleaner.Markup
