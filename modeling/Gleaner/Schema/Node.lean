import Gleaner.Field.Type
import Gleaner.Field.Refinement

/-!
Schemas: what to take from a page, field by field. Every node has one of four kinds.
-/

namespace Gleaner

namespace Schema

inductive Kind where
  | source
  | array
  | primitive
  | nested
  deriving DecidableEq, Inhabited

def Kind.name : Kind → String
  | source => "meta"
  | array => "array"
  | primitive => "primitive"
  | nested => "nested"

/-- The name of a finished node in messages. -/
def Kind.title : Kind → String
  | source => "MetaNode"
  | array => "ArrayNode"
  | primitive => "PrimitiveNode"
  | nested => "NestedNode"

/-- The attributes that hold a value, in the order in which they are tried. -/
inductive Attributes where
  | absent
  | one (name : String)
  | several (names : List String)
  deriving DecidableEq, Inhabited

def Attributes.toList : Attributes → List String
  | absent => []
  | one name => [name]
  | several names => names

/-- A single value, taken from the first element that a selector finds. -/
structure Primitive where
  selector : String
  attributes : Attributes
  pattern : Option Field.Refinement
  type : Field.FieldType

inductive Node where
  /-- A value of the call rather than of the page, by name. -/
  | source (name : String)
  | primitive (p : Primitive)
  /-- One record for each element that the selector finds. -/
  | array (selector : String) (item : List (String × Node))
  | nested (fields : List (String × Node))

instance : Inhabited Node := ⟨.source ""⟩

def Node.kind : Node → Kind
  | source _ => .source
  | primitive _ => .primitive
  | array _ _ => .array
  | nested _ => .nested

end Schema

/-- A schema: its fields in the order of declaration. -/
abbrev Schema := List (String × Schema.Node)

end Gleaner
