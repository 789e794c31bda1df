import Gleaner.Schema.Form

/-!
Nodes that are written out: a record has its fields under `fields`, and nothing is inferred from
keys. Where any node may stand, the four kinds are tried in turn.
-/

namespace Gleaner.Schema.Typed

open Shape

/-- The first check that succeeds, or the complaints of all. -/
def firstOf {β : Type} : List (Checked β) → Checked β
  | [] => .error []
  | .ok b :: _ => .ok b
  | .error cs :: rest => match firstOf rest with
    | .ok b => .ok b
    | .error ds => .error (cs ++ ds)

/-- A node of a kind that holds no other nodes. -/
def flat (kind : Kind) (read : Entries → Checked Node) : Raw → Checked Node
  | .leaf (.node n) => if n.kind = kind then .ok n else .refuse (.notShape kind.title)
  | .map entries => read entries
  | _ => .refuse (.notShape kind.title)

def source : Raw → Checked Node := flat .source sourceOf
def primitive : Raw → Checked Node := flat .primitive primitiveOf

/-- Whether a key is the spelling in use of a member. -/
def isMember (entries : Entries) (names : List String) (key : Key) : Bool :=
  match member? entries names with
  | some (name, _) => key.same (.str name)
  | none => false

mutual

def nested : Raw → Checked Schema
  | .leaf (.node (.nested fields)) => .ok fields
  | .map entries => exactly entries [Form.fields] (fieldsIn entries entries)
  | _ => .refuse (.notShape (Kind.title .nested))

def array : Raw → Checked Node
  | .leaf (.node (.array selector item)) => .ok (.array selector item)
  | .map entries => exactly entries [Form.selector, Form.item]
      (.both Node.array (required entries Form.selector readText) (itemIn entries entries))
  | _ => .refuse (.notShape (Kind.title .array))

/-- The fields among the entries; without them there are none. -/
def fieldsIn (whole : Entries) : List (Key × Raw) → Checked Schema
  | [] => .ok []
  | (key, v) :: rest =>
    if isMember whole Form.fields key then (fieldsOf v).within "fields" else fieldsIn whole rest

/-- The item schema among the entries. -/
def itemIn (whole : Entries) : List (Key × Raw) → Checked Schema
  | [] => (Checked.refuse .missing).within (Form.item.headD "")
  | (key, v) :: rest =>
    if isMember whole Form.item key then (nested v).within (placeOf key) else itemIn whole rest

def fieldsOf : Raw → Checked Schema
  | .map entries => .all (nodesOf entries)
  | _ => .refuse .notMap

def nodesOf : List (Key × Raw) → List (Checked (String × Node))
  | [] => []
  | (key, v) :: rest => readEntry key (firstOf [
      (source v).within (Kind.title .source),
      (array v).within (Kind.title .array),
      (primitive v).within (Kind.title .primitive),
      Checked.within (Kind.title .nested) ((nested v).map Node.nested)]) :: nodesOf rest

end

end Gleaner.Schema.Typed
