import Gleaner.Text.Blank
import Gleaner.Text.Hex
import Gleaner.Xml.Char
import Gleaner.Xml.Fault

/-!
The small parts of documents: names, references, attributes, comments and instructions. Every
scan yields what it has read and the characters that follow.
-/

namespace Gleaner.Xml

variable [Alphabet]

abbrev Scan (β : Type) := Except Fault (β × List Char)

/-- A fault before the given characters. -/
def stop {β : Type} (r : Reason) (rest : List Char) : Except Fault β := .error ⟨r, rest.length⟩

/-- Stands for the start of a character that the end of the text cuts short. -/
def cutShort : Char := '\uFFFF'

/-- What went wrong at the next character: the text ends inside the token that starts at `start`,
or the character does not belong there. -/
def misfit {β : Type} (start rest : List Char) : Except Fault β :=
  match rest with
  | [] => stop .unclosedToken start
  | c :: _ => if c = cutShort then stop .partialCharacter start else stop .badToken rest

/-- Whether a class of characters has the first one. -/
def starts (p : Char → Bool) (cs : List Char) : Bool := (cs.head?.map p).getD false

def scanName (start cs : List Char) : Scan (List Char) :=
  if starts isNameStart cs then .ok (cs.takeWhile isNameChar, cs.dropWhile isNameChar)
  else misfit start cs

/-- A name with a prefix or none, as it is written. -/
def scanQName (start cs : List Char) : Scan (List Char) :=
  match scanName start cs with
  | .error f => .error f
  | .ok (a, ':' :: rest) => match scanName start rest with
    | .error f => .error f
    | .ok (b, more) => .ok (a ++ ':' :: b, more)
  | .ok (a, rest) => .ok (a, rest)

def skipSpace (cs : List Char) : List Char := cs.dropWhile isSpace

inductive Reference where
  /-- A character by its number, unless there is none of that number. -/
  | number (c : Option Char)
  | entity (name : List Char)

/-- The entities that need no declaration. -/
def predefined? (name : List Char) : Option Char :=
  ([("lt", '<'), ("gt", '>'), ("amp", '&'), ("quot", '"'), ("apos", '\x27')].find? fun e =>
    e.1.toList = name).map (·.2)

/-- The character of a number, if it may occur. -/
def charOf? (n : Nat) : Option Char :=
  if n < 0x110000 && !(0xD800 ≤ n && n < 0xE000) then
    let c := Char.ofNat n
    if isAllowed c then some c else none
  else none

/-- The digits of a reference by number, up to a semicolon. -/
def scanNumber (start : List Char) (radix : Nat) (isDigit : Char → Bool) (cs : List Char) :
    Scan Reference :=
  match cs.takeWhile isDigit, cs.dropWhile isDigit with
  | [], rest => misfit start rest
  | ds, ';' :: rest => .ok (.number (charOf? (Text.numberIn radix ds)), rest)
  | _, rest => misfit start rest

/-- A reference after its ampersand. -/
def scanReference (start cs : List Char) : Scan Reference :=
  match cs with
  | '#' :: 'x' :: rest => scanNumber start 16 Text.isHexDigit rest
  | '#' :: rest => scanNumber start 10 Char.isDigit rest
  | cs => match scanName start cs with
    | .error f => .error f
    | .ok (name, ';' :: rest) => .ok (.entity name, rest)
    | .ok (_, rest) => misfit start rest

/-- The value of an attribute up to its quote, as it is written; fuel bounds its length. -/
def scanValue (start : List Char) (quote : Char) : Nat → List Char → Scan (List Char)
  | 0, cs => misfit start cs
  | _ + 1, [] => misfit start []
  | fuel + 1, c :: cs =>
    if c = quote then .ok ([], c :: cs)
    else if c = '&' then match scanReference start cs with
      | .error f => .error f
      | .ok (_, rest) => (scanValue start quote fuel rest).map fun (value, more) =>
        (c :: cs.take (cs.length - rest.length) ++ value, more)
    else if c = '<' || !isAllowed c then misfit start (c :: cs)
    else (scanValue start quote fuel cs).map fun (value, more) => (c :: value, more)

structure Attribute where
  name : List Char
  value : List Char
  /-- How many characters follow the start of the attribute. -/
  left : Nat
  /-- How many characters follow its value. -/
  leftAfter : Nat

structure Tag where
  name : List Char
  attributes : List Attribute
  isEmpty : Bool

/-- An attribute: its name, an equals sign, and a quoted value. -/
def scanAttribute (start cs : List Char) : Scan Attribute :=
  match scanQName start cs with
  | .error f => .error f
  | .ok (name, rest) => match skipSpace rest with
    | '=' :: rest => match skipSpace rest with
      | quote :: rest =>
        if isQuote quote then match scanValue start quote (rest.length + 1) rest with
          | .error f => .error f
          | .ok (value, rest) => .ok (⟨name, value, cs.length, rest.length⟩, rest.drop 1)
        else misfit start (quote :: rest)
      | [] => misfit start []
    | rest => misfit start rest

/-- The attributes of a tag, and whether it is empty; fuel bounds their number. -/
def scanAttributes (start : List Char) : Nat → List Char → Scan (List Attribute × Bool)
  | 0, cs => misfit start cs
  | fuel + 1, cs =>
    match skipSpace cs with
    | '>' :: rest => .ok (([], false), rest)
    | '/' :: '>' :: rest => .ok (([], true), rest)
    | '/' :: rest => misfit start rest
    | rest =>
      if rest.length = cs.length then misfit start rest
      else match scanAttribute start rest with
        | .error f => .error f
        | .ok (a, rest) => match scanAttributes start fuel rest with
          | .error f => .error f
          | .ok ((as, isEmpty), rest) => .ok ((a :: as, isEmpty), rest)

/-- A start tag after its bracket. -/
def scanTag (start cs : List Char) : Scan Tag :=
  match scanQName start cs with
  | .error f => .error f
  | .ok (name, rest) => match scanAttributes start (rest.length + 1) rest with
    | .error f => .error f
    | .ok ((attributes, isEmpty), rest) => .ok (⟨name, attributes, isEmpty⟩, rest)

/-- The characters up to a mark, which is skipped. -/
def scanPast (start mark : List Char) : List Char → Scan (List Char)
  | [] => misfit start []
  | c :: cs => match Text.after? mark (c :: cs) with
    | some rest => .ok ([], rest)
    | none =>
      if isAllowed c then (scanPast start mark cs).map fun (text, rest) => (c :: text, rest)
      else misfit start (c :: cs)

/-- Skips a comment after its opening mark. -/
def skipComment (start cs : List Char) : Except Fault (List Char) :=
  match scanPast start ['-', '-'] cs with
  | .error f => .error f
  | .ok (_, '>' :: rest) => .ok rest
  | .ok (_, rest) => misfit start rest

/-- The target and the text of an instruction, after its opening mark. -/
def scanInstruction (start cs : List Char) : Scan (List Char × List Char) :=
  match scanName start cs with
  | .error f => .error f
  | .ok (target, rest) =>
    if target ≠ "xml".toList && target.map Char.toLower = "xml".toList then misfit start rest
    else match rest with
      | '?' :: '>' :: more => .ok ((target, []), more)
      | '?' :: more => misfit start more
      | rest =>
        if rest.isEmpty || starts isSpace rest then
          (scanPast start ['?', '>'] rest).map fun (text, more) => ((target, text), more)
        else misfit start rest

/-- Skips an instruction after its opening mark. Only a document starts with a declaration. -/
def skipInstruction (start cs : List Char) : Except Fault (List Char) :=
  match scanInstruction start cs with
  | .error f => .error f
  | .ok ((target, _), rest) =>
    if target = "xml".toList then stop .misplacedDeclaration start else .ok rest

/-- Reads a section of plain text after its opening mark. -/
def scanSection : List Char → Scan (List Char)
  | [] => stop .unclosedSection []
  | [']'] => stop .unclosedSection [']']
  | [']', ']'] => stop .unclosedSection [']', ']']
  | ']' :: ']' :: '>' :: rest => .ok ([], rest)
  | c :: cs =>
    if isAllowed c then (scanSection cs).map fun (text, rest) => (c :: text, rest)
    else stop .badToken (c :: cs)

end Gleaner.Xml
