import Gleaner.Schema.Node
import Gleaner.Text.Quoted
import Gleaner.Value

/-!
Settings and schemas before they are checked: plain values, in which a caller may also place
compiled patterns, the address of the page as a source, and nodes built before.
-/

namespace Gleaner

inductive Placed where
  | pattern (p : Pattern)
  | address
  | node (n : Schema.Node)

abbrev Raw := Value Placed

/-- The address of the page, as a source. -/
def addressName : String := "url"

namespace Placed

/-- The word for what was placed, in messages. -/
def kind : Placed → String
  | pattern _ => "Pattern"
  | address => "MetaKind"
  | node n => n.kind.title

end Placed

namespace Raw

/-- The word for the kind of a value, in messages. -/
def kind : Raw → String
  | .null => "NoneType"
  | .bool _ => "bool"
  | .int _ => "int"
  | .float _ => "float"
  | .str _ => "str"
  | .list _ => "list"
  | .map _ => "dict"
  | .leaf p => p.kind

/-- The text that a value is: a string, or the name of a source. -/
def text? : Raw → Option String
  | .str s => some s
  | .leaf .address => some addressName
  | _ => none

def isMap : Raw → Bool
  | .map _ => true
  | _ => false

def isNull : Raw → Bool
  | .null => true
  | _ => false

end Raw

/-- A key as it is shown in messages. -/
def Key.shown : Key → String
  | .null => "None"
  | .bool b => if b then "True" else "False"
  | .int n => toString n
  | .float x => Decimal.render x
  | .str s => Text.quoted s

end Gleaner
