import Gleaner.Scrape.Walk
import Gleaner.Web.Arrival

/-!
Scrapes of a page that is given by its address or by its markup, never by both.
-/

namespace Gleaner

/-- The notes of a scrape: the fields that were left out, and how many there are. -/
def Result.notes (r : Result) : Log :=
  let place := match r.url with
    | none | some "" => "<html>"
    | some url => url
  r.warnings.map (fun w =>
    .error "scraper" s!"Failed to resolve field {w.route}: {w.mishap.message}") ++
  (if r.isWhole then []
  else [.warning "scraper" s!"Scrape of {place} dropped {r.warnings.length} field(s)"])

namespace Attempt

/-- Why an attempt to scrape comes to nothing. -/
inductive Failure where
  /-- Both an address and markup are given, or neither. -/
  | source
  | overdue
  | fetch (f : Web.Fault)
  | page (m : Mishap)

def Failure.message : Failure → String
  | source => "Provide either a URL or an HTML string, but not both."
  | overdue => ""
  | fetch f => f.message
  | page m => m.message

/-- Whether the time was too short, by the limit or by what the web says. -/
def Failure.isTimeout : Failure → Bool
  | overdue => true
  | fetch f => f.cause = .timeout
  | _ => false

end Attempt

/-- A scrape in time: the way to its page, the notes at its start, and what it comes to, if it ever
ends. -/
structure Attempt where
  course : Web.Course
  log : Log
  result : Option (Except Attempt.Failure Result)

namespace Attempt

/-- Whether the page is asked for. -/
def fetches (a : Attempt) : Bool := a.course.starts

/-- An attempt that ends at once. -/
def atOnce (r : Except Failure Result) : Attempt := ⟨[], [], some r⟩

end Attempt

namespace Schema

/-- Scrapes markup that is at hand, as an attempt. -/
def scrapeOrFail (schema : Schema) (s : Settings) (markup : String) (url : Option String) :
    Except Attempt.Failure Result :=
  match schema.scrape s markup url with
  | .ok r => .ok r
  | .error m => .error (.page m)

/-- Scrapes the page of an address. -/
def attemptUrl (schema : Schema) (s : Settings) (fetch : String → Web.Arrival) (url : String) :
    Attempt :=
  let arrival := fetch url
  let limit := Web.Limit.ofSeconds s.fetchTimeout
  { course := arrival.course limit
    log := arrival.log
    result := match arrival.within limit with
      | .never => none
      | .overdue => some (.error .overdue)
      | .back (.error f) => some (.error (.fetch f))
      | .back (.ok markup) => some (schema.scrapeOrFail s markup (some url)) }

/-- Scrapes what is given: a page by its address, or markup. An empty text is as good as none. -/
def attempt (schema : Schema) (s : Settings) (fetch : String → Web.Arrival)
    (url markup : Option String) : Attempt :=
  match url.getD "", markup.getD "" with
  | "", "" => .atOnce (.error .source)
  | "", text => .atOnce (schema.scrapeOrFail s text url)
  | address, "" => schema.attemptUrl s fetch address
  | _, _ => .atOnce (.error .source)

end Schema

end Gleaner
