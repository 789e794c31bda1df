import Gleaner.Selector.Reader
import Gleaner.Selector.Matcher

/-!
Pages that can be queried. An element can be taken out of a page as a page of its own: it is
written and read again, so that nothing around it is seen from within.
-/

namespace Gleaner

/-- A page, the location it was loaded from, and the name of its parser. -/
structure Document where
  nodes : List Markup.Node
  location : Option String
  parser : String

namespace Document

/-- The only parser there is. -/
def defaultParser : String := "html.parser"

inductive Failure where
  | unknownParser (name : String)
  | rejected (reason : Markup.Rejection)

def Failure.message : Failure → String
  | unknownParser name =>
    s!"Couldn't find a tree builder with the features you requested: {name}. Do you need to " ++
      "install a parser library?"
  | rejected reason => reason.message

/-- Reads a page. -/
def ofMarkup (markup : String) (location : Option String) (parser : String)
    (rule : Markup.WordRule) : Except Failure Document :=
  if parser ≠ defaultParser then .error (.unknownParser parser)
  else match Markup.parse markup rule with
    | .error reason => .error (.rejected reason)
    | .ok nodes => .ok { nodes, location, parser }

/-- The elements that a selector selects, in the order of the page. -/
def query (d : Document) (selector : String) : Except Selector.Refusal (List Markup.Place) :=
  (Selector.parse selector).map fun s => Selector.select s d.nodes

def render (d : Document) : String := Markup.render d.nodes

/-- An element as a page of its own. -/
def rescope (d : Document) (p : Markup.Place) (location : Option String) :
    Except Failure Document :=
  ofMarkup p.render location d.parser .asWritten

end Document

end Gleaner
