import Gleaner.Text.Blank
import Gleaner.Xml.Node

/-!
Sitemaps: documents that list the addresses of pages.
-/

namespace Gleaner.Sitemap

/-- The namespace of sitemaps. -/
def space : String := "http://www.sitemaps.org/schemas/sitemap/0.9"

/-- The name of the elements that hold an address. -/
def entryName : String := "loc"

mutual

/-- The texts of the entries in a content, in the order of the document. -/
def textsIn : List Xml.Node → List String
  | [] => []
  | n :: rest => textsOf n ++ textsIn rest

def textsOf : Xml.Node → List String
  | .text _ => []
  | .element s name content =>
    if s = space && name = entryName then Xml.Node.leadingText content :: textsIn content
    else textsIn content

end

/-- The addresses that a sitemap lists. Its outermost element is no entry. -/
def addresses : Xml.Node → List String
  | .text _ => []
  | .element _ _ content => ((textsIn content).filter (· ≠ "")).map Text.trim

end Gleaner.Sitemap
