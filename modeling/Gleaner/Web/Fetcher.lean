import Gleaner.Decimal.Text
import Gleaner.Config.Basic
import Gleaner.Log
import Gleaner.Web.Basic

/-!
Fetchers by name, and the plain one, which asks for each page once.
-/

namespace Gleaner.Web

inductive FetcherKind where
  | plain
  | browser
  deriving DecidableEq

def FetcherKind.ofName? : String → Option FetcherKind
  | "http" => some .plain
  | "browser" => some .browser
  | _ => none

/-- The name of a fetcher in messages. -/
def FetcherKind.title : FetcherKind → String
  | plain => "HttpFetcher"
  | browser => "BrowserFetcher"

/-- What a fetcher may be told. -/
structure FetcherOptions where
  timeout : Seconds := .decimal 30.0
  agent : String := defaultAgent

inductive FetcherRefusal where
  | unknown (name : String)
  | unknownOption (kind : FetcherKind) (name : String)

def FetcherRefusal.message : FetcherRefusal → String
  | unknown name => s!"Unsupported fetcher: {name}"
  | unknownOption kind name =>
    s!"{kind.title}.__init__() got an unexpected keyword argument '{name}'"

/-- The fetcher of a name, which takes the given options. -/
def fetcherKind (name : String) (options : List String) : Except FetcherRefusal FetcherKind :=
  match FetcherKind.ofName? name with
  | none => .error (.unknown name)
  | some kind => match options.find? fun o => o ≠ "timeout" && o ≠ "user_agent" with
    | some o => .error (.unknownOption kind o)
    | none => .ok kind

/-- A page as the plain fetcher gets it, with its request and its note. -/
structure Fetch where
  result : Except Fault String
  request : Request
  note : Note

/-- Asks for a page. -/
def fetch (w : Web) (o : FetcherOptions) (url : String) : Fetch :=
  { result := (w.ask url).map fun a => a.encoding.decodeLossy a.content
    request := ⟨url, some o.agent, o.timeout⟩
    note := .info "fetch" s!"Fetching {url}" }

end Gleaner.Web
