import Gleaner.Markup.Printer

/-!
Elements at their places in a tree. A place knows the element, its siblings on both sides, and the
place of the element around it; the whole tree is the element around its outermost ones.
-/

namespace Gleaner.Markup

/-- An element of a tree. -/
structure Element where
  tag : String
  attributes : List Attribute
  children : List Node

/-- An element where it stands: siblings before it, nearest first, and after it. -/
inductive Place where
  | mk (element : Element) (before after : List Node) (around : Option Place)

namespace Place

def element : Place → Element
  | mk e _ _ _ => e

def before : Place → List Node
  | mk _ b _ _ => b

def after : Place → List Node
  | mk _ _ a _ => a

def parent? : Place → Option Place
  | mk _ _ _ p => p

def tag (p : Place) : String := p.element.tag

/-- The name of the element around the outermost ones. -/
def wholeTag : String := "[document]"

/-- The place of a whole tree. -/
def whole (nodes : List Node) : Place := mk ⟨wholeTag, [], nodes⟩ [] [] none

def isWhole (p : Place) : Bool := p.parent?.isNone

/-- The places around this one, innermost first. -/
def ancestors : Place → List Place
  | mk _ _ _ none => []
  | mk _ _ _ (some p) => p :: p.ancestors

/-- The siblings that lead from the whole to this place, outermost last: no two places of a tree
have the same address. -/
def address : Place → List Nat
  | mk _ _ _ none => []
  | mk _ before _ (some p) => before.length :: p.address

/-- Elements among nodes that stand in a row, given the nodes before them in reverse. -/
def elementsIn (around : Option Place) : List Node → List Node → List Place
  | _, [] => []
  | before, n :: after =>
    let rest := elementsIn around (n :: before) after
    match n with
    | .element tag attributes children => mk ⟨tag, attributes, children⟩ before after around :: rest
    | _ => rest

/-- The elements right in this one. -/
def children (p : Place) : List Place := elementsIn (some p) [] p.element.children

/-- Elements in front of nodes that stand in a row, nearest first. -/
def earlierIn (around : Option Place) : List Node → List Node → List Place
  | [], _ => []
  | n :: before, after =>
    let rest := earlierIn around before (n :: after)
    match n with
    | .element tag attributes children => mk ⟨tag, attributes, children⟩ before after around :: rest
    | _ => rest

def nodeOf (p : Place) : Node := .element p.element.tag p.element.attributes p.element.children

/-- Elements before this one among its siblings, nearest first. -/
def earlier (p : Place) : List Place := earlierIn p.parent? p.before (p.nodeOf :: p.after)

/-- Elements after this one among its siblings, nearest first. -/
def later (p : Place) : List Place := elementsIn p.parent? (p.nodeOf :: p.before) p.after

mutual

/-- A node at a place with all elements in it, in the order of the text. -/
def reach (around : Option Place) (before after : List Node) : Node → List Place
  | .element tag attributes children =>
    let p := mk ⟨tag, attributes, children⟩ before after around
    p :: reachAll (some p) [] children
  | _ => []

/-- All elements among nodes in a row and in them. -/
def reachAll (around : Option Place) (before : List Node) : List Node → List Place
  | [] => []
  | n :: after => reach around before after n ++ reachAll around (n :: before) after

end

/-- All elements in this one, in the order of the text. -/
def descendants (p : Place) : List Place := reachAll (some p) [] p.element.children

/-- The text that the element shows. -/
def text (p : Place) : String := shownText p.element.tag p.element.children

def attribute? (p : Place) (name : String) : Option String :=
  Markup.attribute? p.element.attributes name

def render (p : Place) : String := p.nodeOf.render

end Place

end Gleaner.Markup
