import Gleaner.Command.Arguments
import Gleaner.Command.Outcome

/-!
The command that scrapes one page and prints its record.
-/

namespace Gleaner

open Command (Outcome origin)

namespace ScrapeOrder

def settings (o : ScrapeOrder) : Settings :=
  { propagates := o.propagates, fetchTimeout := some o.timeout }

/-- The markup of a file, if one is named. -/
def readMarkup (o : ScrapeOrder) (d : Disk) : Except Load.Failure (Option String) :=
  match o.file with
  | none | some "" => .ok none
  | some name => (Load.readText d (Path.ofString name)).map some

/-- Ends with a record that is printed, or with a note of why there is none. -/
def conclude (o : ScrapeOrder) (d : Disk) : Except Attempt.Failure Result → Outcome
  | .ok r =>
    { code := .ok 0, disk := d
      printed := .text (String.ofList (Json.text (.indented 2) 0 r.record ++ ['\n'])) }
  | .error f =>
    .refuse d (if f.isTimeout then "Timed out fetching " ++ o.url.getD ""
      else s!"Scrape failed: {f.message}")

/-- The notes of a result on the way to it. -/
def notesOf : Except Attempt.Failure Result → Log
  | .ok r => r.notes
  | .error _ => []

/-- Scrapes the page of an address. -/
def scrapeUrl (o : ScrapeOrder) (s : Web.Surroundings) (d : Disk) (schema : Schema) (url : String) :
    Outcome :=
  let service := s.service { timeout := .decimal o.timeout } o.fetcher
  let attempt := schema.attemptUrl o.settings service.arrival url
  let (log, requests) :=
    if attempt.fetches then (attempt.log, (service.request? url).toList) else ([], [])
  match attempt.result with
  | none => (Outcome.escape d .endless).after (service.opening ++ log) requests
  | some r =>
    (o.conclude d r).after (service.opening ++ log ++ notesOf r ++ service.closing) requests

/-- Scrapes what the order names: the page of an address, or else the markup of a file. -/
def scrape (o : ScrapeOrder) (s : Web.Surroundings) (d : Disk) (schema : Schema)
    (markup : Option String) : Outcome :=
  match o.url, markup with
  | none, none | some "", none => .refuse d s!"Scrape failed: {Web.Service.noMarkup}"
  | none, some text | some "", some text =>
    let r := schema.scrapeOrFail o.settings text none
    (o.conclude d r).after (notesOf r) []
  | some url, _ => o.scrapeUrl s d schema url

def run (o : ScrapeOrder) (s : Web.Surroundings) (d : Disk) : Outcome :=
  match o.schema with
  | none => .escape d .noPath
  | some name => match Load.readSchema d (Path.ofString name) with
    | .error f => .ofFailure d "Cannot load input" f
    | .ok schema => match o.readMarkup d with
      | .error f => .ofFailure d "Cannot load input" f
      | .ok markup => o.scrape s d schema markup

end ScrapeOrder

end Gleaner
