import Gleaner.Text.Charset
import Gleaner.Xml.Reader

/-!
Documents read from octets: the encoding shows in the first octets or is declared.
-/

namespace Gleaner.Xml

open Text (Octets Encoding)

inductive Failure where
  /-- The text is no document. -/
  | malformed (f : Fault) (text : List Char)
  /-- An encoding is declared that text cannot be read by. -/
  | unknownEncoding (name : String)
  /-- An encoding is declared that refuses octets, or takes several for a character. -/
  | unreadable (kind message : String)

def Failure.message : Failure → String
  | malformed f text => f.message text
  | unknownEncoding name =>
    if (Text.codec? name).isSome then
      s!"'{name}' is not a text encoding; use codecs.decode() to handle arbitrary codecs"
    else s!"unknown encoding: {name}"
  | unreadable _ message => message

/-- The encoding that the first octets show, and how many of them are a mark of it. -/
def detect : Octets → Encoding × Nat
  | 0xEF :: 0xBB :: 0xBF :: _ => (.utf8, 3)
  | 0xFE :: 0xFF :: _ => (.utf16 true, 2)
  | 0xFF :: 0xFE :: _ => (.utf16 false, 2)
  | 0x00 :: _ => (.utf16 true, 0)
  | _ :: 0x00 :: _ => (.utf16 false, 0)
  | _ => (.utf8, 0)

/-- Stands for octets that make no character: it is never allowed. -/
def noCharacter : Char := '\x00'

/-- Whether the end cuts the character short that starts with the first octet. -/
def isCutShort : Octets → Bool
  | [a] => 0xC0 ≤ a && a < 0xF5
  | [a, _] => 0xE0 ≤ a && a < 0xF5
  | [a, _, _] => 0xF0 ≤ a && a < 0xF5
  | _ => false

/-- The octets before a character that the end cuts short, if there is one. -/
def beforeCut? : Octets → Option Octets
  | [] => none
  | b :: bs => if isCutShort (b :: bs) then some [] else (beforeCut? bs).map (b :: ·)

/-- The characters of units; the first half of a pair takes any unit for the second. -/
def charsOfPairs : List Nat → List Char
  | [] => []
  | u :: us =>
    if 0xD800 ≤ u && u < 0xDC00 then
      match us with
      | [] => [cutShort]
      | v :: vs => Char.ofNat (0x10000 + (u - 0xD800) * 1024 + v % 1024) :: charsOfPairs vs
    else (if u = 0xFFFF then noCharacter else Char.ofNat u) :: charsOfPairs us

/-- The characters of a text, with stand-ins for what is none. -/
def decode (e : Encoding) (bs : Octets) : List Char :=
  let chars (bs : Octets) : List Char := (e.chars bs).map fun c =>
    (c.filter (· ≠ cutShort)).getD noCharacter
  match e with
  | .utf8 => match beforeCut? bs with
    | some whole => chars whole ++ [cutShort]
    | none => chars bs
  | .utf16 bigFirst => charsOfPairs (Text.unitsOf bigFirst bs)
  | _ => chars bs

/-- The letters of a text. -/
abbrev lettersOf (e : Encoding) : Alphabet :=
  ⟨match e with
    | .utf16 _ | .latin1 => true
    | _ => false⟩

section

variable [Alphabet]

/-- What the declaration at the start of a document says. -/
structure Declaration where
  /-- The name of an encoding, and how many characters follow its start. -/
  encoding : Option (String × Nat) := none
  standsAlone : Bool := false

/-- A pair of a declaration: its name, its value, and how many characters of the declaration follow
the start of either. -/
structure Pair where
  name : String
  value : String
  nameLeft : Nat
  valueLeft : Nat

def isValueChar (c : Char) : Bool := c.isAlphanum || c = '.' || c = '-' || c = '_'

/-- The next pair, if there is one. -/
def scanPair (cs : List Char) : Scan (Option Pair) :=
  match skipSpace cs with
  | [] => .ok (none, cs)
  | name =>
    if name.length = cs.length then stop .badDeclaration cs
    else
      let isNamed := fun c => !isSpace c && c ≠ '=' && c.toNat < 128
      match skipSpace (name.dropWhile isNamed) with
      | '=' :: value =>
        if (name.takeWhile isNamed).isEmpty then stop .badDeclaration name
        else match skipSpace value with
          | quote :: value =>
            let rest := value.dropWhile isValueChar
            if !isQuote quote then stop .badDeclaration (quote :: value)
            else if rest.head? ≠ some quote then stop .badDeclaration rest
            else .ok (some ⟨String.ofList (name.takeWhile isNamed),
              String.ofList (value.takeWhile isValueChar), name.length, value.length⟩, rest.drop 1)
          | [] => stop .badDeclaration []
      | rest => stop .badDeclaration rest

/-- Whether the document stands alone, which is the last that a declaration says. -/
def scanAlone (cs : List Char) (p : Pair) : Except Fault Bool :=
  if p.name ≠ "standalone" then .error ⟨.badDeclaration, p.nameLeft⟩
  else if p.value ≠ "yes" && p.value ≠ "no" then .error ⟨.badDeclaration, p.valueLeft⟩
  else match skipSpace cs with
    | [] => .ok (p.value = "yes")
    | rest => stop .badDeclaration rest

/-- What the inside of a declaration says: a version, then an encoding or none, then whether the
document stands alone or nothing. -/
def scanPairs (cs : List Char) : Except Fault Declaration := do
  let (version, rest) ← scanPair cs
  match version with
  | none => stop .badDeclaration cs
  | some version =>
    if version.name ≠ "version" then .error ⟨.badDeclaration, version.nameLeft⟩
    else
      let (second, rest) ← scanPair rest
      match second with
      | none => .ok {}
      | some p =>
        if p.name ≠ "encoding" then .ok { standsAlone := ← scanAlone rest p }
        else if !(p.value.toList.head?.map Char.isAlpha).getD false then
          .error ⟨.badDeclaration, p.valueLeft⟩
        else
          let (third, rest) ← scanPair rest
          let standsAlone ← match third with
            | none => .ok false
            | some q => scanAlone rest q
          .ok { encoding := some (p.value, p.valueLeft), standsAlone }

/-- The declaration at the very start of a document, if there is one. -/
def scanDeclaration (cs : List Char) : Scan Declaration :=
  match cs with
  | '<' :: '?' :: rest => match scanInstruction cs rest with
    | .ok ((target, text), rest) =>
      if target = "xml".toList then
        -- the places in the text of the declaration, as places in the document
        let shift (left : Nat) : Nat := left + 2 + rest.length
        match scanPairs text with
        | .error f => .error ⟨f.reason, shift f.left⟩
        | .ok d => .ok ({ d with encoding := d.encoding.map fun (name, left) =>
            (name, shift left) }, rest)
      else .ok ({}, cs)
    | .error f => .error f
  | _ => .ok ({}, cs)

end

/-- What a declared name means beside the encoding that shows. -/
inductive Switch where
  | keep
  | to (e : Encoding)
  | refuse (r : Reason)
  | fail (f : Failure)

/-- The encoding of a name that has to be looked up. -/
def lookUp (name : String) : Switch :=
  match Text.codec? name with
  | some (.encoding e) => .to e
  | some .foreign => .refuse .unknownEncoding
  | some .several => .fail (.unreadable "ValueError" "multi-byte encodings are not supported")
  | some (.refusing reason) => .fail (.unreadable "UnicodeError"
    s!"decoding with '{name}' codec failed (UnicodeError: {reason})")
  | some (.failing message) => .fail (.unreadable "UnicodeDecodeError" message)
  | some .noText | none => .fail (.unknownEncoding name)

/-- What a declared name means: some names need no looking up, and contradict an encoding that
takes more or fewer octets for a letter. -/
def switchBy (shown : Encoding) (name : String) : Switch :=
  let isWide := match shown with
    | .utf16 _ => true
    | _ => false
  let narrow (e : Encoding) : Switch := if isWide then .refuse .wrongEncoding else .to e
  let wide (isShown : Bool) : Switch := if isWide && isShown then .keep else .refuse .wrongEncoding
  match name.map Char.toUpper with
  | "UTF-8" => narrow .utf8
  | "ISO-8859-1" => narrow .latin1
  | "US-ASCII" => narrow .ascii
  | "UTF-16" => wide true
  | "UTF-16LE" => wide (shown = .utf16 false)
  | "UTF-16BE" => wide (shown = .utf16 true)
  | _ => lookUp name

/-- A last octet that is half a unit of the encoding belongs to no character. -/
def hasHalf (e : Encoding) (bs : Octets) : Bool :=
  match e with
  | .utf16 _ => bs.length % 2 = 1
  | _ => false

/-- Reads a document after its declaration, which the rest of the text follows. -/
def readRest (e : Encoding) (bs : Octets) (standsAlone : Bool) (text rest : List Char) :
    Except Failure Node :=
  let _ : Alphabet := lettersOf e
  let result := match readDocument standsAlone rest with
    | .ok n => if hasHalf e bs then stop .unclosedToken [] else .ok n
    | .error ⟨.noElement, 0⟩ =>
      if hasHalf e bs then stop .unclosedToken [] else stop .noElement []
    | .error f => .error f
  result.mapError fun f => .malformed f text

/-- Reads a document. -/
def parse (bs : Octets) : Except Failure Node :=
  let (shown, mark) := detect bs
  let text := decode shown bs
  let start := text.drop (if mark = 0 then 0 else 1)
  let _ : Alphabet := lettersOf shown
  match scanDeclaration start with
  | .error f => .error (.malformed f text)
  | .ok (d, rest) => match d.encoding with
    | none => readRest shown bs d.standsAlone text rest
    | some (name, left) => match switchBy shown name with
      | .keep => readRest shown bs d.standsAlone text rest
      | .refuse r => .error (.malformed ⟨r, left⟩ text)
      | .fail f => .error f
      | .to e =>
        -- from here on the octets are read anew
        let width := match shown with
          | .utf16 _ => 2
          | _ => 1
        let text := decode e bs
        let behind := if e = shown then text.length - rest.length
          else mark + width * (start.length - rest.length)
        readRest e bs d.standsAlone text (text.drop behind)

end Gleaner.Xml
