import Gleaner.Markup.Reference
import Gleaner.Text.Blank
import Gleaner.Text.Lower
import Gleaner.Text.Quoted

/-!
Markup as a row of tokens. What looks like a tag and is none is text. Scanning has two passes: the
first stops where something is unfinished, the second takes the rest as it is.
-/

namespace Gleaner.Markup

/-- An attribute with its name in small letters; one without a value has the empty one. -/
abbrev Attribute := String × String

inductive Token where
  | text (s : String)
  | opening (tag : String) (attributes : List Attribute)
  /-- A tag that ends with a slash. -/
  | single (tag : String) (attributes : List Attribute)
  | closing (tag : String)
  | comment (s : String)
  | doctype (s : String)
  | instruction (s : String)
  | section (s : String)

/-- Why markup is refused: a marked section without a name, or with an unknown one. -/
inductive Rejection where
  | unnamedSection (text : String)
  | unknownSection (name : String)

def Rejection.cause : Rejection → String
  | unnamedSection text => s!"expected name token at {Text.quoted text}"
  | unknownSection name => s!"unknown status keyword {Text.quoted name} in marked section"

def Rejection.message (r : Rejection) : String :=
  "The markup you provided was rejected by the parser. Trying a different parser or a different " ++
      "encoding may help.\n\nOriginal error(s) from parser:\n AssertionError: " ++ r.cause

/-- Characters that end the name of a tag. -/
def endsName (c : Char) : Bool :=
  c = '\t' || c = '\n' || c = '\r' || c = '\x0c' || c = ' ' || c = '/' || c = '>' || c = '\x00'

def smallName (cs : List Char) : String := Text.lower (String.ofList cs)

/-- The name of a tag and what follows it. -/
def tagName? (cs : List Char) : Option (List Char × List Char) :=
  match cs with
  | c :: _ =>
    if c.isAlpha then some (cs.takeWhile (!endsName ·), cs.dropWhile (!endsName ·)) else none
  | [] => none

/-- Skips blanks, and slashes that do not end the tag. -/
def skipFiller : List Char → List Char
  | [] => []
  | c :: cs =>
    if Text.isBlank c then skipFiller cs
    else if c = '/' && cs.head? ≠ some '>' then skipFiller cs
    else c :: cs

def skipBlank (cs : List Char) : List Char := cs.dropWhile Text.isBlank

/-- A value up to a closing quote, if there is one. -/
def closedBy? (quote : Char) (cs : List Char) : Option (List Char × List Char) :=
  Text.cutAt? quote cs

def isBare (c : Char) : Bool := !(c = '>' || Text.isBlank c)

def isQuote (c : Char) : Bool := c = '"' || c = '\x27'

/-- A value that no quotes enclose. -/
def bareValue (cs : List Char) : List Char × List Char :=
  (cs.takeWhile isBare, cs.dropWhile isBare)

/-- The value of an attribute, given what follows its name. An unclosed quote makes the value
empty if a blank stands before it, or part of the value if a second equals sign does. -/
def attributeValue? (cs : List Char) : Option (List Char × List Char) :=
  let afterBlank := skipBlank cs
  let signs := afterBlank.takeWhile (· = '=')
  let afterSigns := afterBlank.dropWhile (· = '=')
  if signs.isEmpty then none
  else
    let start := skipBlank afterSigns
    match start with
    | q :: r =>
      if isQuote q then
        match closedBy? q r with
        | some found => some found
        | none =>
          if start.length < afterSigns.length then some ([], afterSigns)
          else if 1 < signs.length then some (bareValue ('=' :: afterSigns))
          else none
      else some (bareValue start)
    | [] => some ([], [])

def isNameStart (c : Char) : Bool := !(Text.isBlank c || c = '/' || c = '>')

def isNameRest (c : Char) : Bool := isNameStart c && c ≠ '='

/-- An attribute may follow a quote, a blank or a slash. -/
def mayPrecede (c : Char) : Bool := isQuote c || Text.isBlank c || c = '/'

/-- The last of the characters in front of a suffix. -/
def lastBefore (cs suffix : List Char) (previous : Char) : Char :=
  ((cs.take (cs.length - suffix.length)).getLast?).getD previous

/-- The attributes of a tag and what follows them. -/
def attributes : Nat → Char → List Char → List Attribute × List Char
  | 0, _, cs => ([], cs)
  | fuel + 1, previous, cs =>
    match cs with
    | [] => ([], [])
    | c :: r =>
      if mayPrecede previous && isNameStart c then
        let name := c :: r.takeWhile isNameRest
        let afterName := r.dropWhile isNameRest
        let (value, afterValue) := match attributeValue? afterName with
          | some (v, rest) => (String.ofList (valueText v), rest)
          | none => ("", afterName)
        let rest := skipFiller afterValue
        let (more, ending) := attributes fuel (lastBefore cs rest previous) rest
        ((smallName name, value) :: more, ending)
      else ([], cs)

/-- Where scanning of a construct leads: to tokens and what is left, or to the end before the
construct is finished. -/
abbrev Scanned := Option (List Token × List Char)

/-- What an opening tag is: given is what follows its angle bracket. -/
def openingTag (cs : List Char) : Scanned :=
  match tagName? cs with
  | none => none
  | some (name, afterName) =>
    let rest := skipFiller afterName
    let (found, ending) := attributes cs.length (lastBefore cs rest '<') rest
    let tag := smallName name
    match ending with
    | '>' :: r => some ([.opening tag found], r)
    | '/' :: '>' :: r => some ([.single tag found], r)
    | [] => none
    | c :: _ =>
      if c = '=' then none
      else some ([.text (String.ofList ('<' :: cs.take (cs.length - ending.length)))], ending)

/-- Elements whose content is neither markup nor holds references. -/
def isRawTag (tag : String) : Bool := tag = "script" || tag = "style"

def isEndName (c : Char) : Bool := c.isAlphanum || c = '-' || c = '.' || c = ':' || c = '_'

/-- A plain closing tag: its name and what follows it. Given is what follows the slash. -/
def plainClosing? (cs : List Char) : Option (String × List Char) :=
  match skipBlank cs with
  | [] => none
  | c :: r =>
    if c.isAlpha then
      match skipBlank (r.dropWhile isEndName) with
      | '>' :: rest => some (smallName (c :: r.takeWhile isEndName), rest)
      | _ => none
    else none

/-- A comment that is not written as one, up to the next angle bracket. -/
def bogusComment (cs : List Char) : Scanned :=
  (Text.cutAt? '>' cs).map fun (body, rest) => ([.comment (String.ofList body)], rest)

/-- What a closing tag is: given is what follows the slash. -/
def closingTag (cs : List Char) : Scanned :=
  if !cs.contains '>' then none
  else match plainClosing? cs with
    | some (tag, rest) => some ([.closing tag], rest)
    | none =>
      match tagName? cs with
      | some (name, afterName) =>
        (Text.cutAt? '>' (skipFiller afterName)).map fun (_, rest) =>
          ([.closing (smallName name)], rest)
      | none =>
        match cs with
        | '>' :: rest => some ([], rest)
        | _ => bogusComment cs

/-- What follows some characters that stand behind one another with nothing but blanks between
them. -/
def spaced? (marks : List Char) (cs : List Char) : Option (List Char) :=
  match marks with
  | [] => some cs
  | m :: ms =>
    match cs with
    | [] => none
    | c :: r => if c = m then (match ms with
        | [] => some r
        | _ => spaced? ms (skipBlank r))
      else none

/-- The first place where a test succeeds: what stands before it and what the test leaves. -/
def cutWhere? (test : List Char → Option (List Char)) : List Char → Option (List Char × List Char)
  | [] => (test []).map fun rest => ([], rest)
  | c :: cs => match test (c :: cs) with
    | some rest => some ([], rest)
    | none => (cutWhere? test cs).map fun (a, b) => (c :: a, b)

/-- Two hyphens, blanks or none, and an angle bracket. -/
def endsComment? : List Char → Option (List Char)
  | '-' :: '-' :: r => spaced? ['>'] (skipBlank r)
  | _ => none

def commentToken (cs : List Char) : Scanned :=
  (cutWhere? endsComment? cs).map fun (body, rest) => ([.comment (String.ofList body)], rest)

def isSectionName (c : Char) : Bool := c.isAlphanum || c = '-' || c = '_' || c = '.'

def closedByTwo : List String := ["temp", "cdata", "ignore", "include", "rcdata"]
def closedByOne : List String := ["if", "else", "endif"]

/-- A marked section: given is the text from its start, and what follows its bracket. -/
def markedSection (start cs : List Char) : Except Rejection Scanned :=
  match cs with
  | [] => .ok none
  | c :: r =>
    if !c.isAlpha then .error (.unnamedSection (String.ofList (start.take 20)))
    else
      let name := c :: r.takeWhile isSectionName
      let afterName := r.dropWhile isSectionName
      let afterBlank := skipBlank afterName
      if afterBlank.isEmpty then .ok none
      else
        let tag := smallName name
        let marks := if closedByTwo.contains tag then some [']', ']', '>']
          else if closedByOne.contains tag then some [']', '>']
          else none
        match marks with
        | none =>
          .error (.unknownSection (String.ofList (cs.take (cs.length - afterBlank.length))))
        | some marks => .ok <| (cutWhere? (spaced? marks) cs).map fun (body, rest) =>
            ([.section (String.ofList body)], rest)

/-- A declaration: given is what follows the exclamation mark. -/
def declaration (cs : List Char) : Except Rejection Scanned :=
  match cs with
  | '-' :: '-' :: r => .ok (commentToken r)
  | '[' :: r => markedSection ('<' :: '!' :: cs) r
  | _ =>
    if smallName (cs.take 7) = "doctype" then
      .ok <| (Text.cutAt? '>' (cs.drop 7)).map fun (body, rest) =>
        ([.doctype (String.ofList ((cs.take 7 ++ body).drop 8))], rest)
    else .ok (bogusComment cs)

def instructionToken (cs : List Char) : Scanned :=
  (Text.cutAt? '>' cs).map fun (body, rest) => ([.instruction (String.ofList body)], rest)

/-- A construct that starts with an angle bracket; given is what follows it, which is not
empty or starts a tag. -/
def construct (cs : List Char) : Except Rejection Scanned :=
  match cs with
  | '/' :: r => .ok (closingTag r)
  | '!' :: r => declaration r
  | '?' :: r => .ok (instructionToken r)
  | c :: _ => if c.isAlpha then .ok (openingTag cs) else .ok (some ([.text "<"], cs))
  | [] => .ok none

/-- An unfinished construct as text: up to the end of the next angle bracket to the right, or up
to the next one to the left, or a single character. -/
def unfinished (cs : List Char) : Token × List Char :=
  match cs with
  | [] => (.text "", [])
  | c :: r =>
    match Text.cutAt? '>' r with
    | some (a, rest) => (.text (String.ofList (c :: a ++ ['>'])), rest)
    | none => match Text.cutAt? '<' r with
      | some (a, rest) => (.text (String.ofList (c :: a)), '<' :: rest)
      | none => (.text (String.ofList [c]), r)

/-- Characters that a name between tags may consist of. -/
def isEntityPart (c : Char) : Bool := c.isAlphanum || c = '-' || c = '.'

/-- A name between tags and what follows it, given what follows the ampersand. At the end of the
text a name may only end before a hyphen or a point. -/
def entityName? (cs : List Char) : Option (List Char × List Char) :=
  match cs with
  | [] => none
  | c :: r =>
    if !c.isAlpha then none
    else
      let name := c :: r.takeWhile isEntityPart
      match r.dropWhile isEntityPart with
      | [] =>
        let kept := ((name.reverse.dropWhile Char.isAlphanum).drop 1).reverse
        if kept.isEmpty then none else some (kept, cs.drop kept.length)
      | rest => some (name, rest)

/-- A numeric reference between tags: no digit of base sixteen may follow its number. -/
def textNumber? (cs : List Char) : Option (Nat × List Char) :=
  match number? cs with
  | some (n, c :: rest) => if Text.isHexDigit c then none else some (n, c :: rest)
  | _ => none

/-- Whether a pass goes on after a reference or stops there. -/
inductive Snag where
  | goOn (found : List Token) (rest : List Char)
  | halt (found : List Token) (rest : List Char)

/-- A reference between tags, given what follows its ampersand. -/
def textReference (final : Bool) (cs : List Char) : Snag :=
  match cs with
  | '#' :: r =>
    match textNumber? r with
    | some (n, rest) => .goOn [.text (String.ofList [numbered n])] (skipSemicolon rest)
    | none => if r.contains ';' then .halt [.text "&#"] r else .halt [] ('&' :: cs)
  | [] => .halt [] ['&']
  | c :: r =>
    match entityName? cs with
    | some (name, rest) =>
      let meant := (entity? (String.ofList name)).getD ('&' :: name)
      .goOn [.text (String.ofList meant)] (skipSemicolon rest)
    | none =>
      if c.isAlpha then .halt [] (if final && r.isEmpty then cs else '&' :: cs)
      else .goOn [.text "&"] cs

/-- The closing tag of a raw element: given is what follows the angle bracket. -/
def closesRaw? (tag : String) (cs : List Char) : Option (List Char) :=
  match cs with
  | '/' :: r => match plainClosing? r with
    | some (name, rest) => if name = tag then some rest else none
    | none => none
  | _ => none

/-- What a pass has found: the tokens, the raw element it is in, and what it has not read. -/
structure Pass where
  tokens : List Token
  raw : Option String
  rest : List Char

def Pass.cons (found : List Token) (p : Pass) : Pass := { p with tokens := found ++ p.tokens }

def isMark (c : Char) : Bool := c = '<' || c = '&'

def textToken (cs : List Char) : List Token :=
  if cs.isEmpty then [] else [.text (String.ofList cs)]

/-- The element whose raw content follows a row of tokens. -/
def rawAfter : List Token → Option String
  | [.opening tag _] => if isRawTag tag then some tag else none
  | _ => none

/-- The end of a raw element: what stands before its closing tag and what follows it. -/
def cutRaw? (tag : String) (cs : List Char) : Option (List Char × List Char) :=
  cutWhere? (fun
    | '<' :: r => closesRaw? tag r
    | _ => none) cs

/-- One pass over the text. -/
def pass (final : Bool) : Nat → Option String → List Char → Except Rejection Pass
  | 0, raw, cs => .ok ⟨[], raw, cs⟩
  | _, raw, [] => .ok ⟨[], raw, []⟩
  | fuel + 1, some tag, cs =>
    match cutRaw? tag cs with
    | none => .ok ⟨[], some tag, cs⟩
    | some (body, rest) =>
      (pass final fuel none rest).map (·.cons (textToken body ++ [.closing tag]))
  | fuel + 1, none, cs =>
    let found := textToken (cs.takeWhile (!isMark ·))
    match cs.dropWhile (!isMark ·) with
    | [] => .ok ⟨found, none, []⟩
    | '<' :: r =>
      match construct r with
      | .error e => .error e
      | .ok (some (tokens, rest)) =>
        (pass final fuel (rawAfter tokens) rest).map (·.cons (found ++ tokens))
      | .ok none =>
        if final && !r.isEmpty then
          let (token, rest) := unfinished ('<' :: r)
          (pass final fuel none rest).map (·.cons (found ++ [token]))
        else .ok ⟨found, none, '<' :: r⟩
    | _ :: r =>
      match textReference final r with
      | .goOn tokens rest => (pass final fuel none rest).map (·.cons (found ++ tokens))
      | .halt tokens rest => .ok ⟨found ++ tokens, none, rest⟩

/-- The tokens of a text. What a raw element holds is lost when it is not closed. -/
def tokens (markup : String) : Except Rejection (List Token) :=
  let cs := markup.toList
  match pass false (cs.length + 1) none cs with
  | .error e => .error e
  | .ok first =>
    match pass true (first.rest.length + 1) first.raw first.rest with
    | .error e => .error e
    | .ok second =>
      let left := if second.raw.isSome then [] else textToken second.rest
      .ok (first.tokens ++ second.tokens ++ left)

end Gleaner.Markup
