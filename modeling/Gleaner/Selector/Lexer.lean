import Gleaner.Selector.Basic
import Gleaner.Text.Blank
import Gleaner.Text.Half

/-!
The words of selectors: blanks and comments, names with escapes, strings, and the formulas of
places. Each reader takes the text and gives what it has read with the rest.
-/

namespace Gleaner.Selector

abbrev Rest := List Char

/-- One blank; a carriage return with its line feed counts as one. -/
def blank? : Rest → Option Rest
  | '\r' :: '\n' :: r => some r
  | c :: r => if c = ' ' || c = '\t' || c = '\n' || c = '\x0c' || c = '\r' then some r else none
  | [] => none

/-- The end of a comment, given what follows its opening. -/
def commentEnd? : Rest → Option Rest
  | '*' :: '/' :: r => some r
  | _ :: r => commentEnd? r
  | [] => none

def comment? : Rest → Option Rest
  | '/' :: '*' :: r => commentEnd? r
  | _ => none

def skipWhile (step : Rest → Option Rest) : Nat → Rest → Rest
  | 0, r => r
  | fuel + 1, r => match step r with
    | some r' => skipWhile step fuel r'
    | none => r

def skipComments (r : Rest) : Rest := skipWhile comment? r.length r

/-- Skips blanks and comments. -/
def skipGap (r : Rest) : Rest := skipWhile (fun r => (blank? r).or (comment? r)) r.length r

def skipBlank (r : Rest) : Rest := (blank? r).getD r

/-- The digits of an escape, at most six, and what follows them and one blank. -/
def hexEscape? (r : Rest) : Option (List Char × Rest) :=
  match (r.take 6).takeWhile Text.isHexDigit with
  | [] => none
  | ds => some (ds, skipBlank (r.drop ds.length))

/-- An escape after its backslash. At the end of the text a backslash alone is one. -/
def escape? (r : Rest) : Option Rest :=
  match hexEscape? r with
  | some (_, r') => some r'
  | none => match r with
    | [] => some []
    | ['\n'] => some ['\n']
    | c :: r' => if c = '\r' || c = '\n' || c = '\x0c' then none else some r'

def startsName (c : Char) : Bool := c.isAlpha || c = '_' || 0xA0 ≤ c.toNat

def continuesName (c : Char) : Bool := startsName c || c.isDigit || c = '-'

/-- One character of a name, or an escape. -/
def nameStep? (p : Char → Bool) : Rest → Option Rest
  | '\\' :: r => escape? r
  | c :: r => if p c then some r else none
  | [] => none

/-- What a reader has passed over. -/
def passed (r rest : Rest) : List Char := r.take (r.length - rest.length)

def continueName (r : Rest) : Rest := skipWhile (nameStep? continuesName) r.length r

/-- A name as it is written. It may start with one hyphen before a letter, or with two. -/
def name? (r : Rest) : Option (List Char × Rest) :=
  let plain := match r with
    | '-' :: r' => nameStep? startsName r'
    | _ => nameStep? startsName r
  let rest := match plain, r with
    | some r', _ => some (continueName r')
    | none, '-' :: '-' :: r' => some (continueName r')
    | none, _ => none
  rest.map fun r' => (passed r r', r')

/-- The rest after the closing quote of a string. Line ends must be escaped. -/
def stringEnd? (quote : Char) : Nat → Rest → Option Rest
  | 0, _ => none
  | _, [] => none
  | fuel + 1, c :: r =>
    if c = quote then some r
    else if c = '\\' then
      match r with
      | '\r' :: '\n' :: r' => stringEnd? quote fuel r'
      | _ :: r' => stringEnd? quote fuel r'
      | [] => none
    else if c = '\n' || c = '\r' || c = '\x0c' then none
    else stringEnd? quote fuel r

/-- A string as it is written, or one or more names. -/
def value? (r : Rest) : Option (List Char × Rest) :=
  match r with
  | c :: r' =>
    if c = '"' || c = '\x27' then
      (stringEnd? c r.length r').map fun rest => (passed r rest, rest)
    else match name? r with
      | none => none
      | some _ =>
        let rest := skipWhile (fun r => (name? r).map (·.2)) r.length r
        some (passed r rest, rest)
  | [] => none

/-- A comma with blanks and comments around it. -/
def comma? (r : Rest) : Option Rest :=
  match skipGap r with
  | ',' :: r' => some (skipGap r')
  | _ => none

/-- Further values, each after a comma. -/
def moreValues : Nat → Rest → Rest
  | 0, r => r
  | fuel + 1, r => match comma? r with
    | none => r
    | some r' => match value? r' with
      | some (_, rest) => moreValues fuel rest
      | none => r

/-- Values between commas, as they are written. -/
def values? (r : Rest) : Option (List Char × Rest) :=
  (value? r).map fun (_, rest) =>
    let rest := moreValues rest.length rest
    (passed r rest, rest)

/-- An opening bracket with what is skipped behind it. -/
def open? : Rest → Option Rest
  | '(' :: r => some (skipGap r)
  | _ => none

def close? (r : Rest) : Option Rest :=
  match skipGap r with
  | ')' :: r' => some r'
  | _ => none

/-- What the escapes in a text stand for; none if one has a number that no character has. Inside a
string an escaped line end stands for nothing. -/
def unescape? (inString : Bool) : Nat → Rest → Option (List Char)
  | 0, r => some r
  | _, [] => some []
  | fuel + 1, '\\' :: r =>
    match hexEscape? r with
    | some (ds, rest) =>
      let n := Text.numberIn 16 ds
      if 0x110000 ≤ n then none
      else
        let c := if n = 0 then Char.ofNat 0xFFFD
          else if 0xD800 ≤ n && n < 0xE000 then Text.halfOf n
          else Char.ofNat n
        (unescape? inString fuel rest).map (c :: ·)
    | none => match r with
      | [] => some [Char.ofNat 0xFFFD]
      | c :: rest =>
        if c = '\r' || c = '\n' || c = '\x0c' then
          if inString then unescape? inString fuel (skipBlank r)
          else if rest.isEmpty && c = '\n' then some [Char.ofNat 0xFFFD, '\n']
          else (unescape? inString fuel r).map ('\\' :: ·)
        else (unescape? inString fuel rest).map (c :: ·)
  | fuel + 1, c :: r => (unescape? inString fuel r).map (c :: ·)

def plain? (cs : List Char) : Option (List Char) := unescape? false cs.length cs

/-- The text of a value: of a string without its quotes, or of names. -/
def valueText? (cs : List Char) : Option (List Char) :=
  match cs with
  | c :: r =>
    if c = '"' || c = '\x27' then unescape? true r.length r.dropLast else plain? cs
  | [] => some []

/-- The values in a text, whatever stands between them. -/
def splitValues : Nat → Rest → List (List Char)
  | 0, _ => []
  | _, [] => []
  | fuel + 1, c :: r => match value? (c :: r) with
    | some (v, rest) => v :: splitValues fuel rest
    | none => match comma? (c :: r) with
      | some rest => splitValues fuel rest
      | none => splitValues fuel r

def letter? (l : Char) : Rest → Option Rest
  | c :: r => if c.toLower = l then some r else none
  | [] => none

def word? : List Char → Rest → Option Rest
  | [], r => some r
  | l :: ls, r => (letter? l r).bind (word? ls)

def number (ds : List Char) : Int := ds.foldl (fun n c => 10 * n + (c.toNat - 48 : Nat)) 0

def signed (negative : Bool) (n : Int) : Int := if negative then -n else n

def sign? : Rest → Option (Bool × Rest)
  | '-' :: r => some (true, r)
  | '+' :: r => some (false, r)
  | _ => none

/-- The second summand of a formula. -/
def summand (r : Rest) : Int × Rest :=
  match sign? (skipGap r) with
  | none => (0, r)
  | some (negative, r') =>
    let r' := skipGap r'
    match r'.takeWhile Char.isDigit with
    | [] => (0, r)
    | ds => (signed negative (number ds), r'.dropWhile Char.isDigit)

/-- A formula such as 2n+1, a number, or the words even and odd. -/
def formula? (r : Rest) : Option (Formula × Rest) :=
  match word? ['e', 'v', 'e', 'n'] r, word? ['o', 'd', 'd'] r with
  | some rest, _ => some (⟨2, 0, true⟩, rest)
  | _, some rest => some (⟨2, 1, true⟩, rest)
  | none, none =>
    let (negative, r') := (sign? r).getD (false, r)
    let ds := r'.takeWhile Char.isDigit
    match letter? 'n' (r'.dropWhile Char.isDigit) with
    | some rest =>
      let a := if ds.isEmpty then 1 else number ds
      let (b, rest) := summand rest
      some (⟨signed negative a, b, true⟩, rest)
    | none =>
      if ds.isEmpty then none
      else some (⟨signed negative (number ds), 0, false⟩, r'.dropWhile Char.isDigit)

/-- The word of, with at least one blank on both sides. -/
def of? (r : Rest) : Option Rest := do
  let r ← blank? (skipComments r)
  let r ← word? ['o', 'f'] (skipGap r)
  let r ← blank? (skipComments r)
  return skipGap r

end Gleaner.Selector
