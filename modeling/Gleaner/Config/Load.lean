import Gleaner.Config.Items
import Gleaner.Disk.Basic
import Gleaner.Json.Printer
import Gleaner.Json.Reader
import Gleaner.Schema.Reader

/-!
Configurations and schemas loaded from files.
-/

namespace Gleaner

namespace Load

inductive Failure where
  | noConfig (p : Path)
  | noSchema (p : Path)
  | disk (f : Disk.Failure)
  | octets (g : Text.Utf8.Gap)
  | json (m : Json.Misread) (text : String)
  | schema (r : Schema.Refusal)
  /-- The configuration is no mapping. -/
  | notConfig (kind : String)
  /-- The schemas of the configuration are no mapping. -/
  | notSchemas (kind : String)
  | shape (cs : List Shape.Complaint)
  | unknownSchema (i : Item)
  | sitemap (f : Sitemap.Failure)
  | address (f : Url.Fault)

def Failure.message : Failure → String
  | noConfig p => s!"Configuration file not found: {p.toString}"
  | noSchema p => s!"Schema file not found: {p.toString}"
  | disk f => f.message
  | octets g => g.message
  | json m text => m.message text
  | schema r => r.message
  | notConfig kind => s!"'{kind}' object has no attribute 'get'"
  | notSchemas kind => s!"'{kind}' object has no attribute 'items'"
  | shape cs => Shape.describe cs
  | unknownSchema i => s!"Item {i.url} references unknown schema '{i.schema}'"
  | sitemap f => f.message
  | address f => f.message

/-- Whether a failure is of the system or of a bad value. The others are not reckoned with: a value
of a wrong kind, or what the web is not expected to do. -/
def Failure.isReckoned : Failure → Bool
  | notConfig _ | notSchemas _ => false
  | sitemap (.encoding (.unknownEncoding _)) => false
  | sitemap (.fault f) => match f.cause with
    | .missing | .runtime | .page _ => false
    | _ => true
  | _ => true

/-- The text of a file, with every line ended by a line feed. -/
def readText (d : Disk) (p : Path) : Except Failure String :=
  match d.read p with
  | .error f => .error (.disk f)
  | .ok content => match Text.Utf8.decode content with
    | .error g => .error (.octets g)
    | .ok s => .ok (String.ofList (Text.unifyLines s.toList))

/-- The value in a file. -/
def readValue (d : Disk) (p : Path) : Except Failure Raw :=
  match readText d p with
  | .error f => .error f
  | .ok text => match Json.decode text with
    | .error m => .error (.json m text)
    | .ok v => .ok v

/-- The value in a file that has to be there. -/
def readIfThere (d : Disk) (p : Path) (missing : Path → Failure) : Except Failure Raw :=
  match d.isThere p with
  | .error f => .error (.disk f)
  | .ok false => .error (missing p)
  | .ok true => readValue d p

/-- The schema in a file. -/
def readSchema (d : Disk) (p : Path) : Except Failure Schema :=
  match readIfThere d p .noSchema with
  | .error f => .error f
  | .ok v => match Schema.readSchema "" v with
    | .error r => .error (.schema r)
    | .ok s => .ok s

/-- The schema under a name: given there, or as the path of a file. -/
def resolve (d : Disk) (folder : Path) (name : String) (v : Raw) : Except Failure Schema :=
  match v with
  | .str file => readSchema d (folder.join file)
  | v => match Schema.readSchema name v with
    | .error r => .error (.schema r)
    | .ok s => .ok s

/-- The schemas of a configuration, up to the first failure. -/
def resolveAll (d : Disk) (folder : Path) : List (Key × Raw) → Except Failure (List (Key × Raw))
  | [] => .ok []
  | (key, v) :: rest => match resolve d folder (Json.keyName key) v with
    | .error f => .error f
    | .ok s => (resolveAll d folder rest).map ((key, .leaf (.node (.nested s))) :: ·)

/-- The entries of a configuration with all schemas resolved. -/
def resolveIn (d : Disk) (folder : Path) (entries : List (Key × Raw)) :
    Except Failure (List (Key × Raw)) :=
  match (Value.lookup? entries "schemas").getD (.map []) with
  | .map schemas => (resolveAll d folder schemas).map fun resolved =>
    putEntry entries (.str "schemas") (.map resolved)
  | v => .error (.notSchemas (Raw.kind v))

/-- The configuration in a file, as it is written there. -/
def readConfig (d : Disk) (p : Path) : Except Failure Config :=
  match readValue d p with
  | .error f => .error f
  | .ok (.map entries) => match resolveIn d p.parent entries with
    | .error f => .error f
    | .ok resolved => match Config.read (.map resolved) with
      | .error cs => .error (.shape cs)
      | .ok c => match c.items.find? fun i => !c.schemas.any (·.1 = i.schema) with
        | some i => .error (.unknownSchema i)
        | none => .ok c
  | .ok v => .error (.notConfig v.kind)

/-- What loading yields, with the requests and the notes on the way. -/
structure Loading where
  result : Except Failure Config
  requests : List Web.Request
  log : Log

/-- Expands the sitemaps of a configuration, and drops the items that are there already. -/
def settle (w : Web) (c : Config) : Loading :=
  let visit := Item.expand w (.decimal c.defaults.timeout) c.items
  let start : Note := .info "config" "Expanding sitemaps and normalizing URLs"
  match visit.result with
  | .error f => ⟨.error (.sitemap f), visit.requests, start :: visit.log⟩
  | .ok items => match Item.firsts items with
    | .error f => ⟨.error (.address f), visit.requests, start :: visit.log⟩
    | .ok items =>
      ⟨.ok { c with items }, visit.requests, start :: visit.log ++
        [.info "config" s!"Loaded {items.length} items and {c.schemas.length} schemas"]⟩

/-- Loads a configuration. -/
def config (d : Disk) (w : Web) (p : Path) : Loading :=
  match d.isThere p with
  | .error f => ⟨.error (.disk f), [], []⟩
  | .ok false => ⟨.error (.noConfig p), [], []⟩
  | .ok true =>
    let start : Note := .info "config" s!"Loading configuration from: {p.toString}"
    match readConfig d p with
    | .error f => ⟨.error f, [], [start]⟩
    | .ok c =>
      let loading := settle w c
      { loading with log := start :: loading.log }

end Load

end Gleaner
