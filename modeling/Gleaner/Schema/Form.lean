import Gleaner.Shape.Member
import Gleaner.Shape.Scalar

/-!
The members of the single kinds of node, and how each is read. A form is closed: an entry that it
does not declare is refused.
-/

namespace Gleaner.Schema

open Shape

def readType (v : Raw) : Checked Field.FieldType :=
  match v.text?.bind Field.FieldType.ofName? with
  | some t => .ok t
  | none => .refuse (.notAmong "'number', 'boolean' or 'string'")

def readNames : Raw → Checked (List String)
  | .list vs => readItems readText vs
  | _ => .refuse .notTuple

/-- One name or several. -/
def readAttributes (v : Raw) : Checked Attributes :=
  if v.isNull then .ok .absent
  else match v.text? with
    | some name => .ok (.one name)
    | none => match (readNames v).within "tuple[str, ...]" with
      | .ok names => .ok (.several names)
      | .error cs => .error (⟨["str"], .notText⟩ :: cs)

/-- A pattern is only compiled when the field is read. -/
def readPattern (v : Raw) : Checked (Option Field.Refinement) :=
  match v with
  | .null => .ok none
  | .leaf (.pattern p) => .ok (some (.compiled p))
  | v => match v.text? with
    | some s => .ok (some (.source s))
    | none => .refuse (.notPattern v.kind)

namespace Form

def source : List String := ["meta"]
def selector : List String := ["selector"]
def attributes : List String := ["attribute"]
def pattern : List String := ["pattern", "regex"]
def type : List String := ["type"]
def item : List String := ["itemSchema", "item_schema"]
def fields : List String := ["fields"]

end Form

def sourceOf (entries : Entries) : Checked Node :=
  exactly entries [Form.source] (.both (fun name () => .source name)
    (required entries Form.source readText) (.ok ()))

def primitiveOf (entries : Entries) : Checked Node :=
  exactly entries [Form.selector, Form.attributes, Form.pattern, Form.type]
    (.both (fun (selector, attributes) (pattern, type) =>
        .primitive { selector, attributes, pattern, type })
      (.both Prod.mk (required entries Form.selector readText)
        (defaulted entries Form.attributes .absent readAttributes))
      (.both Prod.mk (defaulted entries Form.pattern none readPattern)
        (defaulted entries Form.type .string readType)))

end Gleaner.Schema
