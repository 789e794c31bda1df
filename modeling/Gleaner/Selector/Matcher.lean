import Gleaner.Selector.State

/-!
Which elements a selector selects.
-/

namespace Gleaner.Selector

open Markup

/-- Whether two letters are equal, where case may not count. -/
def sameLetter (ignoreCase : Bool) (a b : Char) : Bool :=
  a = b || (ignoreCase && (Text.lowerChar a = Text.lowerChar b || (Text.caseVariants a).contains b))

def sameLetters (ignoreCase : Bool) (a b : List Char) : Bool :=
  a.length = b.length && (a.zip b).all fun (x, y) => sameLetter ignoreCase x y

def startsWith (ignoreCase : Bool) (v cs : List Char) : Bool :=
  sameLetters ignoreCase v (cs.take v.length)

def isEnd (cs : List Char) : Bool := cs.isEmpty || cs = ['\n']

/-- Whether a text is a value, perhaps with a line end behind it. -/
def isWhole (ignoreCase : Bool) (v cs : List Char) : Bool :=
  startsWith ignoreCase v cs && isEnd (cs.drop v.length)

/-- Whether a test holds of the text or of one of its ends. -/
def somewhere (test : Option Char → List Char → Bool) : Option Char → List Char → Bool
  | before, [] => test before []
  | before, c :: cs => test before (c :: cs) || somewhere test (some c) cs

def hasWord (ignoreCase : Bool) (v cs : List Char) : Bool :=
  somewhere (fun before rest =>
    before.all isSpace && startsWith ignoreCase v rest && ((rest.drop v.length).head?).all isSpace)
    none cs

/-- Comparisons of parts of a text hold of no empty value, and words have no blanks. -/
def AttributeTest.holdsOf (t : AttributeTest) (cs : List Char) : Bool :=
  let v := t.value
  match t.comparison with
  | .present => true
  | .equal => isWhole t.ignoreCase v cs
  | .startsWith => !v.isEmpty && startsWith t.ignoreCase v cs
  | .endsWith => !v.isEmpty && somewhere (fun _ rest => isWhole t.ignoreCase v rest) none cs
  | .contains => !v.isEmpty && somewhere (fun _ rest => startsWith t.ignoreCase v rest) none cs
  | .word => !v.isEmpty && !v.any isSpace && hasWord t.ignoreCase v cs
  | .dashed => isWhole t.ignoreCase v cs || startsWith t.ignoreCase (v ++ ['-']) cs

def AttributeTest.holds (t : AttributeTest) (p : Place) : Bool :=
  (attributeNamed? p (Text.lowerAscii t.name)).any fun v => t.holdsOf v.toList

/-- Without declared namespaces only a star may be written for one. -/
def holdsTag (space : Option String) (name : String) (p : Place) : Bool :=
  (match space with
    | none => true
    | some s => s = "*") &&
  (name = "*" || Text.lowerAscii name = tagOf p)

/-- The words of the class of an element. -/
def classes (p : Place) : List String :=
  (Text.wordsOf isSpace (value p "class").toList).map String.ofList

/-- Whether a formula reaches a place, counted from one. -/
def Formula.reaches (f : Formula) (place : Nat) : Bool :=
  if !f.repeated then f.a = place
  else if f.a = 0 then f.b = place
  else
    let d := (place : Int) - f.b
    d % f.a = 0 && 0 ≤ d / f.a

/-- Text as it is searched: one text, or the strings right in an element one by one. -/
inductive Content where
  | joined (s : List Char)
  | separate (ss : List (List Char))

def hasText (needle cs : List Char) : Bool :=
  somewhere (fun _ rest => needle.isPrefixOf rest) none cs

/-- Text in an element but for what frames hold. -/
def unframedText : List Node → List Char
  | [] => []
  | .text _ s :: rest => s.toList ++ unframedText rest
  | .element tag _ children :: rest =>
    (if Text.lowerAscii tag = "iframe" then [] else unframedText children) ++ unframedText rest
  | _ :: rest => unframedText rest

def contentOf (own : Bool) (p : Place) : Content :=
  if own then .separate ((ownText p).map String.toList)
  else .joined (if isFrame p then [] else unframedText p.element.children)

/-- Whether one of some texts is found. -/
def Content.holds (own : Bool) (texts : List String) : Content → Bool
  | .separate ss => texts.any fun t =>
      if own then ss.any (hasText t.toList) else ss.contains t.toList
  | .joined cs => texts.any fun t =>
      if own then cs.any fun c => hasText t.toList [c] else hasText t.toList cs

/-- Each group of texts has one that is found. The first group decides how the text is taken. -/
def holdsTexts (groups : List (Bool × List String)) (p : Place) : Bool :=
  match groups with
  | [] => true
  | (own, _) :: _ =>
    let content := contentOf own p
    groups.all fun (own, texts) => content.holds own texts

/-- The places that a relation leads to. -/
def Reach.from (p : Place) : Reach → List Place
  | ancestor => p.ancestors
  | parent => p.parent?.toList
  | earlier => p.earlier
  | previous => p.earlier.head?.toList
  | descendant => p.descendants
  | child => p.children
  | later => p.later
  | next => p.later.head?.toList

/-- Whether the text of an element runs in a direction: its own, or that around it. -/
def runs (rightToLeft : Bool) (p : Place) : Bool :=
  let decided := (p :: unframedAncestors p).findSome? fun q => ownDirection? q (isRootElement q)
  decided = some rightToLeft

mutual

def Part.holds (p : Place) : Part → Bool
  | .tag space name => holdsTag space name p
  | .id name => value p "id" = name
  | .className name => (classes p).contains name
  | .attribute test => test.holds p
  | .nth formula sameTag fromEnd among =>
    let counts (q : Place) : Bool := (!sameTag || tagOf q = tagOf p) &&
      (among.isEmpty || anyHolds among q)
    let rivals := if fromEnd then p.later else p.earlier
    (among.isEmpty || anyHolds among p) && formula.reaches ((rivals.filter counts).length + 1)
  | .anyOf negated alternatives => anyHolds alternatives p != negated
  | .state s => s.holds p
  | .language ranges => speaks p ranges
  | .direction rightToLeft => runs rightToLeft p

def allHold (p : Place) : List Part → Bool
  | [] => true
  | t :: ts => t.holds p && allHold p ts

def Compound.holds (c : Compound) (p : Place) : Bool :=
  match c with
  | .never => false
  | .all parts texts none => allHold p parts && holdsTexts texts p
  | .all parts texts (some (reach, other)) =>
    allHold p parts && holdsTexts texts p && (reach.from p).any fun q => other.holds q

def anyHolds (alternatives : List Compound) (p : Place) : Bool :=
  match alternatives with
  | [] => false
  | c :: cs => c.holds p || anyHolds cs p

end

/-- The elements of a tree that a selector selects, in the order of the text. -/
def select (selector : Selector) (nodes : List Node) : List Place :=
  (Place.whole nodes).descendants.filter (anyHolds selector ·)

end Gleaner.Selector
