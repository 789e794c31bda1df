import Gleaner.Markup.Place

/-!
The text that a field takes from the elements found for it: only the first one counts.
-/

namespace Gleaner.Field

/-- The first attribute in the list with a value that is not blank, trimmed; without one, the
trimmed text of the element. -/
def valueOf (p : Markup.Place) (attributes : List String) : String :=
  let values := attributes.map fun a => Text.trim ((p.attribute? a).getD "")
  (values.find? (· ≠ "")).getD (Text.trim p.text)

/-- The value of the first element found, or nothing. -/
def extract (found : List Markup.Place) (attributes : List String) : String :=
  match found with
  | [] => ""
  | p :: _ => valueOf p attributes

end Gleaner.Field
