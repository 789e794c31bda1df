import Gleaner.Shape.Member
import Gleaner.Shape.Scalar

/-!
Target shapes for results: nested records of single values and lists, each member required.
-/

namespace Gleaner.Shape

inductive Target where
  | text
  | whole
  | number
  | truth
  | list (item : Target)
  | record (isClosed : Bool) (members : List (String × Target))
  deriving Inhabited

/-- A value in its target shape. -/
inductive Shaped where
  | text (s : String)
  | whole (n : Int)
  | number (x : Float)
  | truth (b : Bool)
  | list (items : List Shaped)
  | record (members : List (String × Shaped))
  deriving Inhabited

mutual

def Target.read : Target → Raw → Checked Shaped
  | .text, v => (readText v).map .text
  | .whole, v => (readWhole v).map .whole
  | .number, v => (readNumber v).map .number
  | .truth, v => (readTruth v).map .truth
  | .list item, v => (readList (fun w => item.read w) v).map .list
  | .record isClosed members, .map entries =>
    let value := (Target.readMembers members entries).map .record
    if isClosed then exactly entries (members.map fun m => [m.1]) value else value
  | .record _ _, _ => .refuse (.notShape "Target")

def Target.readMembers : List (String × Target) → Entries → Checked (List (String × Shaped))
  | [], _ => .ok []
  | (name, t) :: rest, entries =>
    .both (fun v vs => (name, v) :: vs) (required entries [name] fun w => t.read w)
      (Target.readMembers rest entries)

end

end Gleaner.Shape
