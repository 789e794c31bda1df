import Gleaner.Xml.Entity
import Gleaner.Xml.Token

/-!
What stands before the outermost element: comments, instructions, and a document type with its
declarations.
-/

namespace Gleaner.Xml

open Token

variable [Alphabet]

/-- Reads on if the next token is the one that belongs there. -/
def expect (t : Token) (cs : List Char) : Except Fault (List Char) := do
  let l ← next cs
  if l.token = t then .ok l.rest else l.refuse

def expectName (cs : List Char) : Except Fault (List Char) := do
  let l ← next cs
  match l.token with
  | word .name _ => .ok l.rest
  | _ => l.refuse

/-- A name with a prefix or none. -/
def expectWord (cs : List Char) : Except Fault ((List Char) × List Char) := do
  let l ← next cs
  match l.token with
  | word .name w | word .prefixed w => .ok (w, l.rest)
  | _ => l.refuse

def expectLiteral (cs : List Char) : Except Fault (List Char) := do
  let l ← next cs
  match l.token with
  | literal _ => .ok l.rest
  | _ => l.refuse

/-- The identifier of something public. -/
def expectIdentifier (cs : List Char) : Except Fault (List Char) := do
  let l ← next cs
  match l.token with
  | literal text => match text.dropWhile isPublic with
    | [] => .ok l.rest
    | bad => .error ⟨.badIdentifier, bad.length + 1 + l.rest.length⟩
  | _ => l.refuse

/-- Whether a token is the keyword. -/
def Token.isWord (t : Token) (keyword : String) : Bool := t = word .name keyword.toList

/-- What follows the keyword of something that is elsewhere, if the token is such a keyword. -/
def Lexeme.external? (l : Lexeme) : Option (Except Fault (List Char)) :=
  if l.token.isWord "SYSTEM" then some (expectLiteral l.rest)
  else if l.token.isWord "PUBLIC" then some (expectIdentifier l.rest >>= expectLiteral)
  else none

/-- The text that is stored for an entity: numbers and ends of lines are read at once, names only
where the entity is used. Fuel bounds its length. -/
def entityText : Nat → List Char → Except Fault (List Char)
  | 0, _ => .ok []
  | _ + 1, [] => .ok []
  | fuel + 1, '&' :: cs => match scanReference ('&' :: cs) cs with
    | .error f => .error ⟨.badToken, f.left⟩
    | .ok (.number none, _) => stop .badReference ('&' :: cs)
    | .ok (.number (some c), rest) => (entityText fuel rest).map (c :: ·)
    | .ok (.entity name, rest) =>
      (entityText fuel rest).map fun text => '&' :: name ++ ';' :: text
  | _ + 1, '%' :: cs => match scanPercent ('%' :: cs) cs with
    | .error f => .error ⟨.badToken, f.left⟩
    | .ok (.parameter, _) => stop .parameterInside ('%' :: cs)
    | .ok _ => stop .badToken cs
  | fuel + 1, '\r' :: '\n' :: cs => (entityText fuel cs).map ('\n' :: ·)
  | fuel + 1, c :: cs => (entityText fuel cs).map ((if c = '\r' then '\n' else c) :: ·)

/-- What an entity or a parameter is declared to be, up to the end of its declaration. -/
def scanBody (d : Doctype) (isParameter : Bool) (cs : List Char) :
    Except Fault (EntityBody × List Char) := do
  let l ← next cs
  match l.token, l.external? with
  | literal text, _ =>
    let text ← if d.counts then
      (entityText (text.length + 1) text).mapError fun f => ⟨f.reason, f.left + 1 + l.rest.length⟩
    else .ok []
    .ok (.text text, ← expect close l.rest)
  | _, some rest =>
    let l ← next (← rest)
    if l.token = close then .ok (.external, l.rest)
    else if !isParameter && l.token.isWord "NDATA" then
      .ok (.binary, ← expect close (← expectName l.rest))
    else l.refuse
  | _, none => l.refuse

def scanEntity (d : Doctype) (cs : List Char) : Except Fault (Doctype × List Char) := do
  let l ← next cs
  match l.token with
  | percent =>
    let (_, rest) ← scanBody d true (← expectName l.rest)
    .ok (d, rest)
  | word .name name =>
    let (b, rest) ← scanBody d false l.rest
    .ok (d.addEntity name b, rest)
  | _ => l.refuse

def scanNotation (d : Doctype) (cs : List Char) : Except Fault (Doctype × List Char) := do
  let l ← next (← expectName cs)
  if l.token.isWord "SYSTEM" then .ok (d, ← expect close (← expectLiteral l.rest))
  else if l.token.isWord "PUBLIC" then
    let l ← next (← expectIdentifier l.rest)
    match l.token with
    | literal _ => .ok (d, ← expect close l.rest)
    | close => .ok (d, l.rest)
    | _ => l.refuse
  else l.refuse

/-- The values that an attribute may have, up to the end of the group; fuel bounds their number. -/
def scanChoice (isChoice : Token → Bool) : Nat → List Char → Except Fault (List Char)
  | 0, cs => stop .syntaxError cs
  | fuel + 1, cs => do
    let value ← next cs
    if !isChoice value.token then value.refuse
    else
      let l ← next value.rest
      if l.token = bar then scanChoice isChoice fuel l.rest
      else if l.token = closeGroup none then .ok l.rest
      else l.refuse

def isAnyWord : Token → Bool
  | word _ _ => true
  | _ => false

def isPlainName : Token → Bool
  | word .name _ => true
  | _ => false

def attributeTypes : List String :=
  ["ID", "IDREF", "IDREFS", "ENTITY", "ENTITIES", "NMTOKEN", "NMTOKENS"]

/-- The type of an attribute: whether it is text. -/
def scanAttributeType (cs : List Char) : Except Fault (Bool × List Char) := do
  let l ← next cs
  if l.token.isWord "CDATA" then .ok (true, l.rest)
  else if attributeTypes.any l.token.isWord then .ok (false, l.rest)
  else if l.token.isWord "NOTATION" then
    let rest ← expect openGroup l.rest
    .ok (false, ← scanChoice isPlainName (rest.length + 1) rest)
  else if l.token = openGroup then
    .ok (false, ← scanChoice isAnyWord (l.rest.length + 1) l.rest)
  else l.refuse

/-- The default of an attribute, which is a value or none. -/
def scanDefault (d : Doctype) (element name : List Char) (isText : Bool) (cs : List Char) :
    Except Fault (Doctype × List Char) := do
  let l ← next cs
  let given (l : Lexeme) : Except Fault (Doctype × List Char) := match l.token with
    | literal text =>
      if d.counts then do
        let typed := { d with rules := [⟨element, name, isText, none⟩] }
        let value ← typed.value element name text (l.rest.length + 1) l.start.length
        .ok (d.addRule ⟨element, name, isText, some value⟩, l.rest)
      else .ok (d, l.rest)
    | _ => l.refuse
  match l.token with
  | .hash keyword =>
    if keyword = "IMPLIED".toList || keyword = "REQUIRED".toList then
      .ok (d.addRule ⟨element, name, isText, none⟩, l.rest)
    else if keyword = "FIXED".toList then given (← next l.rest)
    else l.refuse
  | _ => given l

/-- The attributes of an element; fuel bounds their number. -/
def scanRules (element : List Char) : Nat → Doctype → List Char → Except Fault (Doctype × List Char)
  | 0, _, cs => stop .syntaxError cs
  | fuel + 1, d, cs => do
    let l ← next cs
    match l.token with
    | close => .ok (d, l.rest)
    | word .name name | word .prefixed name =>
      let (isText, rest) ← scanAttributeType l.rest
      let (d, rest) ← scanDefault d element name isText rest
      scanRules element fuel d rest
    | _ => l.refuse

/-- What may stand beside text in an element, up to the end of the group; fuel bounds it. -/
def scanMixed : Nat → Bool → List Char → Except Fault (List Char)
  | 0, _, cs => stop .syntaxError cs
  | fuel + 1, isFirst, cs => do
    let l ← next cs
    match l.token with
    | closeGroup (some '*') => .ok l.rest
    | closeGroup none => if isFirst then .ok l.rest else l.refuse
    | bar =>
      let (_, rest) ← expectWord l.rest
      scanMixed fuel false rest
    | _ => l.refuse

/-- What may stand in an element: groups in groups, which are held together by commas or by bars,
not by both. Every open group has its mark as soon as there is one. Fuel bounds the tokens. -/
def scanGroups : Nat → Bool → List (Option Token) → List Char → Except Fault (List Char)
  | 0, _, _, cs => stop .syntaxError cs
  | fuel + 1, wantsItem, groups, cs => do
    let l ← next cs
    match wantsItem, l.token, groups with
    | true, openGroup, _ => scanGroups fuel true (none :: groups) l.rest
    | true, word .name _, _ | true, word .prefixed _, _ | true, counted, _ =>
      scanGroups fuel false groups l.rest
    | false, closeGroup _, [_] => .ok l.rest
    | false, closeGroup _, _ :: outer => scanGroups fuel false outer l.rest
    | false, comma, mark :: outer | false, bar, mark :: outer =>
      if mark.all (· = l.token) then scanGroups fuel true (some l.token :: outer) l.rest
      else stop .syntaxError l.start
    | _, _, _ => l.refuse

def scanElement (d : Doctype) (cs : List Char) : Except Fault (Doctype × List Char) := do
  let (_, rest) ← expectWord cs
  let l ← next rest
  if l.token.isWord "EMPTY" || l.token.isWord "ANY" then .ok (d, ← expect close l.rest)
  else if l.token = openGroup then
    let first ← next l.rest
    let rest ← if first.token = .hash "PCDATA".toList then
        scanMixed (first.rest.length + 1) true first.rest
      else scanGroups (l.rest.length + 1) true [none] l.rest
    .ok (d, ← expect close rest)
  else l.refuse

/-- The declarations of a document type, up to their bracket; fuel bounds their number. -/
def scanSubset : Nat → Doctype → List Char → Except Fault (Doctype × List Char)
  | 0, _, cs => stop .syntaxError cs
  | fuel + 1, d, cs => do
    let l ← next cs
    match l.token with
    | closeBracket => .ok (d, l.rest)
    | comment | instruction => scanSubset fuel d l.rest
    | parameter =>
      scanSubset fuel { d.withOthers with counts := d.standsAlone } l.rest
    | opening keyword =>
      let (d, rest) ← match String.ofList keyword with
        | "ENTITY" => scanEntity d l.rest
        | "NOTATION" => scanNotation d l.rest
        | "ELEMENT" => scanElement d l.rest
        | "ATTLIST" =>
          let (element, rest) ← expectWord l.rest
          scanRules element (rest.length + 1) d rest
        | _ => l.refuse
      scanSubset fuel d rest
    | _ => l.refuse

/-- A document type after its keyword. -/
def scanDoctype (d : Doctype) (cs : List Char) : Except Fault (Doctype × List Char) := do
  let (_, rest) ← expectWord cs
  let l ← next rest
  let (d, l) ← match l.external? with
    | some rest => do .ok (d.withOthers, ← next (← rest))
    | none => .ok (d, l)
  match l.token with
  | close => .ok (d, l.rest)
  | openBracket =>
    let (d, rest) ← scanSubset (l.rest.length + 1) d l.rest
    .ok (d, ← expect close rest)
  | _ => l.refuse

/-- Reads what stands before the outermost element; fuel bounds the number of its parts. -/
def scanProlog (seen : Bool) : Nat → Doctype → List Char → Except Fault (Doctype × List Char)
  | 0, _, cs => stop .syntaxError cs
  | fuel + 1, d, cs => do
    let l ← next cs
    match l.token with
    | tag => .ok (d, l.start)
    | comment | instruction => scanProlog seen fuel d l.rest
    | opening keyword =>
      if seen || keyword ≠ "DOCTYPE".toList then l.refuse
      else
        let (d, rest) ← scanDoctype d l.rest
        scanProlog true fuel d rest
    | _ => l.refuse

end Gleaner.Xml
