/-!
Documents of elements: an element has a name in a namespace, and text and further elements in it.
-/

namespace Gleaner.Xml

inductive Node where
  | text (s : String)
  /-- An element: its namespace, its name there, and what it holds. -/
  | element (space name : String) (content : List Node)
  deriving Inhabited

namespace Node

/-- The text at the start of a content, up to the first element. -/
def leadingText : List Node → String
  | .text s :: rest => s ++ leadingText rest
  | _ => ""

end Node

end Gleaner.Xml
