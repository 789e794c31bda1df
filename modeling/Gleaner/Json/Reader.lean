import Gleaner.Value
import Gleaner.Decimal.Text
import Gleaner.Text.Half

/-!
Reading JSON text. Beside the numbers of JSON the words NaN, Infinity and -Infinity are read; of
two entries with one key the later value stays, at the place of the first.
-/

namespace Gleaner.Json

variable {α : Type}

/-- What is wrong with a text. -/
inductive Fault where
  | byteOrderMark
  | expectedValue
  | expectedName
  | expectedColon
  | expectedComma
  | extraData
  | controlCharacter
  | unterminatedString
  | unknownEscape
  | hexEscape
  deriving DecidableEq

def Fault.message : Fault → String
  | byteOrderMark => "Unexpected UTF-8 BOM (decode using utf-8-sig)"
  | expectedValue => "Expecting value"
  | expectedName => "Expecting property name enclosed in double quotes"
  | expectedColon => "Expecting ':' delimiter"
  | expectedComma => "Expecting ',' delimiter"
  | extraData => "Extra data"
  | controlCharacter => "Invalid control character at"
  | unterminatedString => "Unterminated string starting at"
  | unknownEscape => "Invalid \\escape"
  | hexEscape => "Invalid \\uXXXX escape"

/-- A fault at a place in the text, both counted from zero. -/
structure Misread where
  fault : Fault
  offset : Nat

/-- Lines and columns are counted from one. -/
def Misread.message (e : Misread) (source : String) : String :=
  let before := source.toList.take e.offset
  let line := before.count '\n' + 1
  let column := (before.reverse.takeWhile (· ≠ '\n')).length + 1
  s!"{e.fault.message}: line {line} column {column} (char {e.offset})"

/-- The reader looks at what is left of the text; the place is what has been read. -/
abbrev Rest := List Char

def isGap (c : Char) : Bool := c = ' ' || c = '\t' || c = '\n' || c = '\r'

def skipGap (r : Rest) : Rest := r.dropWhile isGap

/-- A fault at the start of what is left. -/
structure Stop where
  fault : Fault
  left : Nat

abbrev Read := Except Stop

def stop {β : Type} (fault : Fault) (r : Rest) : Read β := .error ⟨fault, r.length⟩

/-- Takes a word if the text goes on with it. -/
def word? (w : List Char) (r : Rest) : Option Rest :=
  if w.isPrefixOf r then some (r.drop w.length) else none

/-- The code unit that four digits name. -/
def unit? : List Char → Option Nat
  | [a, b, c, d] => do
    let a ← Text.hexValue? a
    let b ← Text.hexValue? b
    let c ← Text.hexValue? c
    let d ← Text.hexValue? d
    some (((a * 16 + b) * 16 + c) * 16 + d)
  | _ => none

def isHigh (u : Nat) : Bool := 0xD800 ≤ u && u < 0xDC00
def isLow (u : Nat) : Bool := 0xDC00 ≤ u && u < 0xE000

/-- The character of a code unit, which may be half of a pair alone. -/
def charOfUnit (u : Nat) : Char := if isHigh u || isLow u then Text.halfOf u else Char.ofNat u

def simpleEscape? (c : Char) : Option Char :=
  match c with
  | '"' => some '"'
  | '\\' => some '\\'
  | '/' => some '/'
  | 'b' => some '\x08'
  | 'f' => some '\x0c'
  | 'n' => some '\n'
  | 'r' => some '\r'
  | 't' => some '\t'
  | _ => none

/-- Four digits, with at least one more character after them. The argument is what follows the
letter u. -/
def readUnit (afterU : Rest) : Read (Nat × Rest) :=
  match unit? (afterU.take 4), afterU.drop 4 with
  | some u, c :: r => .ok (u, c :: r)
  | _, _ => .error ⟨.hexEscape, afterU.length + 1⟩

/-- The second half of a pair, if it stands right behind. -/
def readLow (r : Rest) : Read (Option (Nat × Rest)) :=
  match r with
  | '\\' :: 'u' :: r' =>
    if r'.length ≤ 4 then .ok none
    else match unit? (r'.take 4) with
      | some u => .ok (if isLow u then some (u, r'.drop 4) else none)
      | none => .error ⟨.hexEscape, r'.length + 1⟩
  | _ => .ok none

/-- A character written with the letter u and four digits, or with two such groups. -/
def readUnicode (afterU : Rest) : Read (Char × Rest) := do
  let (u, r) ← readUnit afterU
  if isHigh u then
    match ← readLow r with
    | some (v, r) => .ok (Char.ofNat (0x10000 + (u - 0xD800) * 1024 + (v - 0xDC00)), r)
    | none => .ok (charOfUnit u, r)
  else .ok (charOfUnit u, r)

/-- The characters of a string up to its closing quote; opened is what was left at its opening
one. -/
def readString (opened : Nat) : Nat → Rest → Read (List Char × Rest)
  | 0, _ => .error ⟨.unterminatedString, opened⟩
  | _, [] => .error ⟨.unterminatedString, opened⟩
  | fuel + 1, c :: r =>
    if c = '"' then .ok ([], r)
    else if c = '\\' then
      match r with
      | [] => .error ⟨.unterminatedString, opened⟩
      | 'u' :: r => do
        let (c, r) ← readUnicode r
        let (cs, r) ← readString opened fuel r
        .ok (c :: cs, r)
      | e :: r' =>
        match simpleEscape? e with
        | none => .error ⟨.unknownEscape, r.length + 1⟩
        | some c => do
          let (cs, r) ← readString opened fuel r'
          .ok (c :: cs, r)
    else if c.toNat < 32 then stop .controlCharacter (c :: r)
    else do
      let (cs, r) ← readString opened fuel r
      .ok (c :: cs, r)

/-- The whole part of a number: no digit may follow a leading zero. -/
def wholeDigits? : Rest → Option (List Char × Rest)
  | '0' :: r => some (['0'], r)
  | r => match r.takeWhile Char.isDigit with
    | [] => none
    | ds => some (ds, r.dropWhile Char.isDigit)

/-- The digits after a point, if at least one follows it. -/
def fractionDigits (r : Rest) : List Char × Rest :=
  match r with
  | '.' :: c :: r' => if c.isDigit then (c :: r'.takeWhile Char.isDigit, r'.dropWhile Char.isDigit)
    else ([], r)
  | _ => ([], r)

/-- The exponent, if the letter e is followed by a digit, perhaps after a sign. -/
def exponentDigits (r : Rest) : Option (Bool × List Char) × Rest :=
  match r with
  | c :: r' =>
    if c = 'e' || c = 'E' then
      let (down, ds) := Decimal.signOf r'
      match ds.takeWhile Char.isDigit with
      | [] => (none, r)
      | es => (some (down, es), ds.dropWhile Char.isDigit)
    else (none, r)
  | [] => (none, r)

def readNumber? (r : Rest) : Option (Value α × Rest) := do
  let (negative, r) := match r with
    | '-' :: r => (true, r)
    | r => (false, r)
  let (whole, r) ← wholeDigits? r
  let (fraction, r) := fractionDigits r
  let (exponent, r) := exponentDigits r
  match fraction, exponent with
  | [], none =>
    let n : Int := Decimal.natOf whole
    some (.int (if negative then -n else n), r)
  | _, _ =>
    let e : Int := match exponent with
      | none => 0
      | some (down, es) => let n : Int := Decimal.natOf es; if down then -n else n
    some (.float (Decimal.Literal.toFloat ⟨negative, whole, fraction, e⟩), r)

/-- Values that are written as a word. -/
def constants : List (List Char × Value α) :=
  [("null".toList, .null), ("true".toList, .bool true), ("false".toList, .bool false),
    ("NaN".toList, .float Decimal.notANumber), ("Infinity".toList, .float Decimal.infinity),
    ("-Infinity".toList, .float (-Decimal.infinity))]

def readConstant? (r : Rest) : Option (Value α × Rest) :=
  constants.findSome? fun (w, v) => (word? w r).map fun r => (v, r)

mutual

def readValue : Nat → Rest → Read (Value α × Rest)
  | 0, r => stop .expectedValue r
  | fuel + 1, r =>
    match r with
    | '"' :: r' => do
      let (cs, r) ← readString r.length r.length r'
      .ok (.str (String.ofList cs), r)
    | '[' :: r' => do
      match skipGap r' with
      | ']' :: r => .ok (.list [], r)
      | r => do
        let (vs, r) ← readItems fuel r
        .ok (.list vs, r)
    | '{' :: r' => do
      match skipGap r' with
      | '}' :: r => .ok (.map [], r)
      | r => do
        let (es, r) ← readEntries fuel r
        .ok (.map (entriesOf es), r)
    | _ => match readConstant? r with
      | some found => .ok found
      | none => match readNumber? r with
        | some found => .ok found
        | none => stop .expectedValue r

/-- The items of a list up to its closing bracket. -/
def readItems : Nat → Rest → Read (List (Value α) × Rest)
  | 0, r => stop .expectedValue r
  | fuel + 1, r => do
    let (v, r) ← readValue fuel r
    match skipGap r with
    | ']' :: r => .ok ([v], r)
    | ',' :: r => do
      let (vs, r) ← readItems fuel (skipGap r)
      .ok (v :: vs, r)
    | r => stop .expectedComma r

/-- The entries of a mapping up to its closing brace. -/
def readEntries : Nat → Rest → Read (List (Key × Value α) × Rest)
  | 0, r => stop .expectedName r
  | fuel + 1, r =>
    match r with
    | '"' :: r' => do
      let (k, r) ← readString r.length r.length r'
      match skipGap r with
      | ':' :: r => do
        let (v, r) ← readValue fuel (skipGap r)
        let e := (Key.str (String.ofList k), v)
        match skipGap r with
        | '}' :: r => .ok ([e], r)
        | ',' :: r => do
          let (es, r) ← readEntries fuel (skipGap r)
          .ok (e :: es, r)
        | r => stop .expectedComma r
      | r => stop .expectedColon r
    | r => stop .expectedName r

end

/-- Reads one value with nothing but gaps around it. -/
def decode (source : String) : Except Misread (Value α) :=
  let cs := source.toList
  let size := cs.length
  let result : Read (Value α) :=
    if cs.head? = some '\uFEFF' then stop .byteOrderMark cs
    else do
      let (v, r) ← readValue (size + 1) (skipGap cs)
      match skipGap r with
      | [] => .ok v
      | r => stop .extraData r
  match result with
  | .ok v => .ok v
  | .error s => .error ⟨s.fault, size - s.left⟩

end Gleaner.Json
