import Gleaner.Web.Arrival
import Gleaner.Web.Browser

/-!
Fetchers at work: how pages arrive by them, what they ask the web for, and what they note when they
are opened and closed.
-/

namespace Gleaner.Web

/-- A fetcher at work. -/
structure Service where
  arrival : String → Arrival
  /-- The request that the fetch of a page makes, if it is one that the web sees. -/
  request? : String → Option Request
  opening : Log := []
  closing : Log := []

namespace Service

/-- A request is made on another thread, from where its answer takes so many turns. -/
def threadTurns : Nat := 2

/-- The plain fetcher. -/
def plain (w : Web) (o : FetcherOptions) : Service where
  arrival := fun url =>
    let f := fetch w o url
    { turns := threadTurns, answer := some f.result, log := [f.note] }
  request? := fun url => some (fetch w o url).request

/-- What is said of a page that has no markup. -/
def noMarkup : String :=
  "Incoming markup is of an invalid type: None. Markup must be a string, a bytestring, or an " ++
    "open filehandle."

/-- What a browser brings, as what the web brings. -/
def ofRendered : Except BrowserFault (Option String) → Except Fault String
  | .ok (some markup) => .ok markup
  | .ok none => .error ⟨.runtime, noMarkup⟩
  | .error f => .error ⟨match f with
      | .notEntered => .runtime
      | .notRendered url _ => .page url
      | .unknown _ => .missing, f.message⟩

/-- The fetcher with a browser, which is open as long as it is at work. -/
def browser (pages : List (String × Rendering)) (o : FetcherOptions) : Service where
  arrival := fun url =>
    let b := (Browser.ofOptions o).enter.browser
    { answer := some (ofRendered (b.fetch pages url).result)
      log := [.info "fetch" s!"Rendering {url}"] }
  request? := fun _ => none
  opening := [.info "fetch" "Starting AsyncWebCrawler"]
  closing := [.info "fetch" "Closing AsyncWebCrawler"]

end Service

/-- All that can be fetched: answers of the web, and pages as a browser renders them. -/
structure Surroundings where
  web : Web
  pages : List (String × Rendering) := []

/-- The fetcher of a kind at work. -/
def Surroundings.service (s : Surroundings) (o : FetcherOptions) : FetcherKind → Service
  | .plain => .plain s.web o
  | .browser => .browser s.pages o

end Gleaner.Web
