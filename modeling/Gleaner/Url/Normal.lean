import Gleaner.Url.Query

/-!
The normal form of an address, by which two items are told to be the same: no fragment, no slash at
the end, and no parameters that only track campaigns.
-/

namespace Gleaner.Url

/-- Drops a slash at the end, or before a line feed at the end. -/
def dropEndSlash (cs : List Char) : List Char :=
  match cs.reverse with
  | '/' :: r => r.reverse
  | '\n' :: '/' :: r => (('\n' :: r)).reverse
  | _ => cs

def isTracking (name : String) : Bool := name.startsWith "utm_"

/-- An address put together again without its tracking parameters. -/
def withoutTracking (u : Url) : Except Fault String :=
  let kept := (valuesOf u.query).filter fun v => !isTracking v.1
  match strayOf? kept with
  | some s => .error (.stray s)
  | none => .ok (render { u with query := queryOf kept })

/-- The normal form of an address; tracking parameters are only dropped on demand. -/
def normalize (s : String) (dropsTracking : Bool) : Except Fault String :=
  let cs := dropEndSlash (cutOff '#' s.toList).1
  if dropsTracking then (parse (String.ofList cs)).bind withoutTracking
  else .ok (String.ofList cs)

end Gleaner.Url
