import Gleaner.Json.Printer
import Gleaner.Schema.Raw

/-!
Records as text. A record is refused as a whole if any part of it has no text.
-/

namespace Gleaner.Store

mutual

/-- A value in which the sources stand by their names. -/
def named : Raw → Raw
  | .leaf .address => .str addressName
  | .list vs => .list (namedItems vs)
  | .map es => .map (namedEntries es)
  | v => v

def namedItems : List Raw → List Raw
  | [] => []
  | v :: vs => named v :: namedItems vs

def namedEntries : List (Key × Raw) → List (Key × Raw)
  | [] => []
  | (k, v) :: es => (k, named v) :: namedEntries es

end

inductive Unwritable where
  /-- A number without text; only the indented layout tells which. -/
  | notFinite (shown : Option Float)
  | notValue (kind : String)

def Unwritable.message : Unwritable → String
  | notFinite none => "Out of range float values are not JSON compliant"
  | notFinite (some x) => "Out of range float values are not JSON compliant: " ++ Decimal.render x
  | notValue kind => s!"Object of type {kind} is not JSON serializable"

def recordText (l : Json.Layout) (record : Raw) : Except Unwritable String :=
  match Json.encode l (named record) with
  | .ok s => .ok s
  | .error (.leaf p) => .error (.notValue p.kind)
  | .error (.notFinite x) => .error (.notFinite (match l with
      | .line => none
      | .indented _ => some x))

end Gleaner.Store
