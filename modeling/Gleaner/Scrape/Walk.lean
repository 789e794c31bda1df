import Gleaner.Config.Basic
import Gleaner.Field.Extraction
import Gleaner.Route
import Gleaner.Scrape.Result

/-!
The walk of a schema over a page. A record has the values of its fields in the order of
declaration; a field that has none is left out with a warning, and the walk goes on. The items of
an array are walked in pages of their own.
-/

namespace Gleaner

/-- What the walk of a field yields: a value or none, and the warnings on the way. -/
structure Yield (β : Type) where
  value : β
  warnings : List Warning

namespace Schema

/-- The value of a primitive: found, narrowed by its pattern, and read as its type. -/
def Primitive.resolve (p : Primitive) (d : Document) : Except Mishap Datum :=
  match d.query p.selector with
  | .error e => .error (.selector e)
  | .ok found =>
    let value := Field.extract found p.attributes.toList
    match p.pattern with
    | none => .ok (p.type.read value)
    | some r => match r.apply value with
      | .error e => .error (.pattern e)
      | .ok kept => .ok (p.type.read kept)

/-- The value of a source. The only source there is is the address of the page. -/
def resolveSource (name : String) (d : Document) : Datum :=
  .text (if Text.lower name = addressName then d.location.getD "" else "")

/-- The items of an array, as far as each of them has a page. -/
def gather : List (Except Mishap (Yield (List (String × Datum)))) →
    Yield (Except Mishap (List Datum))
  | [] => ⟨.ok [], []⟩
  | .error e :: _ => ⟨.error e, []⟩
  | .ok item :: rest =>
    let others := gather rest
    ⟨others.value.map (.record item.value :: ·), item.warnings ++ others.warnings⟩

/-- A field whose value may be missing: the warning of its own comes last. -/
def orWarn (route : String) : Yield (Except Mishap Datum) → Yield (Option Datum)
  | ⟨.ok d, ws⟩ => ⟨some d, ws⟩
  | ⟨.error e, ws⟩ => ⟨none, ws ++ [⟨route, e⟩]⟩

mutual

/-- Walks the node of a field. -/
def walkNode (s : Settings) (d : Document) (route : String) : Node → Yield (Option Datum)
  | .source name => ⟨some (resolveSource name d), []⟩
  | .primitive p => orWarn route ⟨p.resolve d, []⟩
  | .nested fields =>
    let y := walkFields s d route fields
    ⟨some (.record y.value), y.warnings⟩
  | .array selector item =>
    match d.query selector with
    | .error e => orWarn route ⟨.error (.selector e), []⟩
    | .ok found =>
      let location := if s.propagates then d.location else none
      let items := gather (found.mapIdx fun i p =>
        match d.rescope p location with
        | .error f => .error (.page f)
        | .ok page => .ok (walkFields s page (Route.item route i) item))
      orWarn route ⟨items.value.map .items, items.warnings⟩

/-- Walks the fields of a record. -/
def walkFields (s : Settings) (d : Document) (route : String) :
    List (String × Node) → Yield (List (String × Datum))
  | [] => ⟨[], []⟩
  | (name, node) :: rest =>
    let y := walkNode s d (Route.field route name) node
    let others := walkFields s d route rest
    ⟨(y.value.map fun v => (name, v)).toList ++ others.value, y.warnings ++ others.warnings⟩

end

end Schema

/-- Scrapes markup that is at hand. -/
def Schema.scrape (schema : Schema) (s : Settings) (markup : String) (url : Option String) :
    Except Mishap Result :=
  match Document.ofMarkup markup url s.parser .asWritten with
  | .error f => .error (.page f)
  | .ok d =>
    let y := Schema.walkFields s d "" schema
    .ok { data := y.value, warnings := y.warnings, url }

end Gleaner
