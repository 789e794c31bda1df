import Gleaner.Route
import Gleaner.Schema.Form

/-!
Schemas read from mappings. The kind of a node shows in its keys: a source has `meta`, an array an
item schema, a primitive a selector, and what has none of these is a record of further nodes. A
key whose value is itself a mapping is the name of a field.
-/

namespace Gleaner.Schema

open Shape

/-- The keys that carry instructions, in alphabetical order. -/
def instructions : List String :=
  ["attribute", "itemSchema", "item_schema", "meta", "pattern", "regex", "selector", "type"]

inductive Fault where
  | notNode (kind : String)
  | notFields (kind : String)
  | unclear (keys : List String)
  | itemTwice
  | nameNotText (key : Key)
  | invalid (kind : Kind) (complaints : List Complaint)

def Fault.message : Fault → String
  | notNode kind => s!"expected a mapping, got {kind}"
  | notFields kind => s!"schema must be a mapping, got {kind}"
  | unclear keys => "node has " ++ ", ".intercalate keys ++ " but no selector, meta or itemSchema"
  | itemTwice => "both itemSchema and item_schema given"
  | nameNotText key => s!"field names must be strings, got {key.shown}"
  | invalid kind cs => "invalid " ++ kind.name ++ " node (" ++ describe cs ++ ")"

/-- What is wrong with a schema, and the route to the node at fault. -/
structure Refusal where
  route : String
  fault : Fault

def Refusal.message (r : Refusal) : String :=
  if r.route = "" then r.fault.message else r.route ++ ": " ++ r.fault.message

/-- Whether there is a value under one of the names: null counts as none. -/
def gives (entries : Entries) (names : List String) : Bool :=
  names.any fun name => (Value.given? entries name).isSome

def isField (entries : Entries) (name : String) : Bool :=
  match Value.lookup? entries name with
  | some v => Raw.isMap v
  | none => true

/-- The kind of a node, or the instructions that do not make one. -/
def kindOf (entries : Entries) : Except (List String) Kind :=
  if gives entries Form.source then .ok .source
  else if gives entries Form.item then .ok .array
  else if gives entries Form.selector then .ok .primitive
  else match instructions.filter fun name => !isField entries name with
    | [] => .ok .nested
    | keys => .error keys

def classify (route : String) : Raw → Except Refusal Kind
  | .leaf (.node n) => .ok n.kind
  | .map entries => match kindOf entries with
    | .ok kind => .ok kind
    | .error keys => .error ⟨route, .unclear keys⟩
  | v => .error ⟨route, .notNode v.kind⟩

def invalid {β : Type} (route : String) (kind : Kind) : Checked β → Except Refusal β
  | .ok b => .ok b
  | .error cs => .error ⟨route, .invalid kind cs⟩

/-- An array around its item schema. -/
def arrayOf (entries : Entries) (item : Schema) : Checked Node :=
  exactly (Form.item.foldl Value.erase entries) [Form.selector]
    (.both (fun selector () => .array selector item) (required entries Form.selector readText)
      (.ok ()))

def bothItems (entries : Entries) : Bool :=
  Form.item.all fun name => (Value.lookup? entries name).isSome

mutual

/-- Reads a node. -/
def readNode (route : String) : Raw → Except Refusal Node
  | .leaf (.node n) => .ok n
  | .map entries => match kindOf entries with
    | .error keys => .error ⟨route, .unclear keys⟩
    | .ok .source => invalid route .source (sourceOf entries)
    | .ok .primitive => invalid route .primitive (primitiveOf entries)
    | .ok .nested => (readFields route entries).map .nested
    | .ok .array =>
      if bothItems entries then .error ⟨route, .itemTwice⟩
      else match readItem (Route.items route) entries with
        | .error r => .error r
        | .ok item => invalid route .array (arrayOf entries item)
  | v => .error ⟨route, .notNode v.kind⟩

/-- Reads a schema: every key is the name of a field. -/
def readSchema (route : String) : Raw → Except Refusal Schema
  | .leaf (.node (.nested fields)) => .ok fields
  | .map entries => readFields route entries
  | v => .error ⟨route, .notFields v.kind⟩

def readFields (route : String) : List (Key × Raw) → Except Refusal Schema
  | [] => .ok []
  | (.str name, v) :: rest => match readNode (Route.field route name) v with
    | .error r => .error r
    | .ok n => match readFields route rest with
      | .error r => .error r
      | .ok fields => .ok ((name, n) :: fields)
  | (key, _) :: _ => .error ⟨route, .nameNotText key⟩

/-- Reads the first item schema among the entries. -/
def readItem (route : String) : List (Key × Raw) → Except Refusal Schema
  | [] => .ok []
  | (key, v) :: rest =>
    if Form.item.any fun name => key.same (.str name) then readSchema route v
    else readItem route rest

end

end Gleaner.Schema
