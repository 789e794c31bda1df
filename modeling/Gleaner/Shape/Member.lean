import Gleaner.Schema.Raw
import Gleaner.Shape.Complaint

/-!
The members of a mapping that a shape declares: each may have several spellings, of which the
first one in use counts.
-/

namespace Gleaner.Shape

variable {β : Type}

abbrev Entries := List (Key × Raw)

/-- The spelling of a member that is in use, and its value. -/
def member? (entries : Entries) (names : List String) : Option (String × Raw) :=
  names.findSome? fun name => (Value.lookup? entries name).map fun v => (name, v)

def required (entries : Entries) (names : List String) (read : Raw → Checked β) : Checked β :=
  match member? entries names with
  | some (name, v) => (read v).within name
  | none => (Checked.refuse .missing).within (names.headD "")

def defaulted (entries : Entries) (names : List String) (default : β) (read : Raw → Checked β) :
    Checked β :=
  match member? entries names with
  | some (name, v) => (read v).within name
  | none => .ok default

/-- The place of an entry, by its key. -/
def placeOf : Key → String
  | .str s => s
  | .bool b => if b then "1" else "0"
  | k => k.shown

/-- What a shape that is closed has to say to an entry: nothing, if its key is the spelling in use
of a declared member. -/
def complaint? (entries : Entries) (members : List (List String)) : Key → Option Complaint
  | .str s =>
    if members.any fun names => (member? entries names).any (·.1 = s) then none
    else some ⟨[s], .unknown⟩
  | k => some ⟨[placeOf k], .keyNotText⟩

/-- Refuses what is not declared. -/
def closed (entries : Entries) (members : List (List String)) : Checked Unit :=
  match entries.filterMap fun e => complaint? entries members e.1 with
  | [] => .ok ()
  | cs => .error cs

/-- The value, if nothing is there that is not declared. -/
def exactly (entries : Entries) (members : List (List String)) (value : Checked β) : Checked β :=
  .both (fun b () => b) value (closed entries members)

/-- Reads the items of a list. -/
def readItems (read : Raw → Checked β) (vs : List Raw) : Checked (List β) :=
  .all (vs.mapIdx fun i v => (read v).within (toString i))

def readList (read : Raw → Checked β) : Raw → Checked (List β)
  | .list vs => readItems read vs
  | _ => .refuse .notList

/-- Reads an entry whose key has to be text. -/
def readEntry (k : Key) (value : Checked β) : Checked (String × β) :=
  let name : Checked String := match k with
    | .str s => .ok s
    | k => ((Checked.refuse .notText).within "[key]").within (placeOf k)
  .both Prod.mk name (value.within (placeOf k))

end Gleaner.Shape
