/-!
Routes to fields: the names on the way from the root, joined by points, with the places of items
in brackets. The root itself has the empty route.
-/

namespace Gleaner.Route

/-- The route to a field of the record at a route. -/
def field (route name : String) : String := if route = "" then name else route ++ "." ++ name

/-- The route to the items of a list, all of them. -/
def items (route : String) : String := route ++ "[]"

/-- The route to one item of a list. -/
def item (route : String) (i : Nat) : String := route ++ "[" ++ toString i ++ "]"

end Gleaner.Route
