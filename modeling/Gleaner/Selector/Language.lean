import Gleaner.Markup.Place
import Gleaner.Selector.Basic
import Gleaner.Selector.Lexer
import Gleaner.Text.Direction

/-!
The language that an element is in, and the direction that its text is written in.
-/

namespace Gleaner.Selector

open Markup

/-- A value whose attribute name is compared without case. -/
def attributeNamed? (p : Place) (name : String) : Option String :=
  (p.element.attributes.find? fun a => Text.lowerAscii a.1 = name).map (·.2)

def isFrame (p : Place) : Bool := Text.lowerAscii p.tag = "iframe"

/-- The place around this one, if it is not that of a frame. -/
def unframedParent? (p : Place) : Option Place :=
  p.parent?.bind fun q => if isFrame q then none else some q

/-- The places around this one up to the nearest frame. -/
def unframedAncestors (p : Place) : List Place := p.ancestors.takeWhile (!isFrame ·)

/-- The language of the nearest element that states one; an empty statement counts only where no
other one is found. -/
def statedLanguage? (p : Place) : Option String :=
  let stated := (p :: unframedAncestors p).filterMap fun q => attributeNamed? q "lang"
  (stated.find? (· ≠ "")).or stated.getLast?

/-- The outermost place that no frame keeps apart. -/
def outermost (p : Place) : Place := ((unframedAncestors p).getLast?).getD p

def childTagged? (p : Place) (tag : String) : Option Place :=
  (if isFrame p then [] else p.children).find? fun q => Text.lowerAscii q.tag = tag

/-- The language in the attributes of a meta element: the first content that is known once the
element has said what it is about. -/
def metaLanguage? (attributes : List Attribute) : Bool → Option String → Option String
  | about, content => match attributes with
    | [] => none
    | (n, v) :: rest =>
      let about := about ||
        (Text.lowerAscii n = "http-equiv" && Text.lowerAscii v = "content-language")
      let content := if Text.lowerAscii n = "content" then some v else content
      match about, content with
      | true, some c => if c = "" then metaLanguage? rest about content else some c
      | _, _ => metaLanguage? rest about content

/-- The language that the head of the page states. -/
def pageLanguage? (p : Place) : Option String := do
  let html ← childTagged? (outermost p) "html"
  let head ← childTagged? html "head"
  (head.children.filter fun q => Text.lowerAscii q.tag = "meta").findSome? fun q =>
    metaLanguage? q.element.attributes false none

def language? (p : Place) : Option String := (statedLanguage? p).or (pageLanguage? p)

/-- A star between subtags says nothing, and a star at the end counts as an empty subtag. -/
def dropStars : List String → List String
  | [] => []
  | first :: rest =>
    first :: rest.filter (· ≠ "*") ++ (if rest.getLast? = some "*" then [""] else [])

/-- Whether the subtags of a language fit the remaining subtags of a range: others may stand
between them, but for single letters. -/
def fits : List String → List String → Bool
  | [], _ => true
  | _ :: _, [] => false
  | r :: rs, s :: ss =>
    if r = "" then false
    else if s = r then fits rs ss
    else if s.length = 1 then false
    else fits (r :: rs) ss

/-- Whether a language lies in a range. -/
def inRange (range language : String) : Bool :=
  let rs := dropStars ((Text.lower range).splitOn "-")
  let ss := (Text.lower language).splitOn "-"
  match rs, ss with
  | [""], [""] => true
  | r :: rs, s :: ss =>
    !((r ≠ "*" && r ≠ s) || (r = "*" && ss.isEmpty && s = "")) && fits rs ss
  | _, _ => false

def speaks (p : Place) (ranges : List String) : Bool :=
  match language? p with
  | none => false
  | some language => ranges.any (inRange · language)

/-- What an attribute says about the direction: nothing, that the text decides, or a direction. -/
inductive Stated where
  | nothing
  | byText
  | given (rightToLeft : Bool)
  deriving DecidableEq

def statedDirection (p : Place) : Stated :=
  match (attributeNamed? p "dir").map Text.lowerAscii with
  | some "ltr" => .given false
  | some "rtl" => .given true
  | some "auto" => .byText
  | _ => .nothing

def firstDirection? (s : String) : Option Bool := s.toList.findSome? Text.direction?

/-- Elements whose text says nothing about the direction around them. -/
def isSetApart (tag : String) : Bool :=
  ["bdi", "script", "style", "textarea", "iframe"].contains tag

def statesDirection (attributes : List Attribute) : Bool :=
  match (attributes.find? fun a => Text.lowerAscii a.1 = "dir").map (Text.lowerAscii ·.2) with
  | some v => v = "ltr" || v = "rtl" || v = "auto"
  | none => false

mutual

def nodeDirection? : Node → Option Bool
  | .text _ s => firstDirection? s
  | .element tag attributes children =>
    if isSetApart (Text.lowerAscii tag) || statesDirection attributes then none
    else nodesDirection? children
  | _ => none

/-- The direction of the first character among some nodes that has one. -/
def nodesDirection? : List Node → Option Bool
  | [] => none
  | n :: ns => (nodeDirection? n).or (nodesDirection? ns)

end

/-- The strings right in an element; a frame shows none. -/
def ownText (p : Place) : List String :=
  (if isFrame p then [] else p.element.children).filterMap fun
    | .text _ s => some s
    | _ => none

/-- Inputs whose value is text. -/
def isTextInput (kind : String) : Bool := ["text", "search", "tel", "url", "email"].contains kind

/-- The direction of an element on its own: none means that of the element around it. -/
def ownDirection? (p : Place) (isRoot : Bool) : Option Bool :=
  let tag := Text.lowerAscii p.tag
  let kind := if tag = "input" then Text.lowerAscii ((attributeNamed? p "type").getD "") else ""
  let fallback : Option Bool := if isRoot then some false else none
  match statedDirection p with
  | .given d => some d
  | .nothing =>
    if isRoot || (tag = "input" && kind = "tel") then some false
    else if tag = "bdi" then nodesDirection? p.element.children
    else none
  | .byText =>
    if tag = "textarea" || (tag = "input" && isTextInput kind) then
      let value := if tag = "textarea" then String.join (ownText p)
        else (attributeNamed? p "value").getD ""
      if value = "" then fallback else some ((firstDirection? value).getD false)
    else (nodesDirection? p.element.children).or fallback

end Gleaner.Selector
