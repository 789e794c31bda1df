import Gleaner.Command.Reading
import Gleaner.Decimal.Text
import Gleaner.Web.Fetcher

/-!
The commands there are, and the command lines that mean them.
-/

namespace Gleaner

/-- What to scrape with one schema. A path that is asked for may be given by dashes alone, and is
then none. -/
structure ScrapeOrder where
  schema : Option String
  url : Option String
  file : Option String
  fetcher : Web.FetcherKind
  timeout : Float
  propagates : Bool

/-- What to scrape by a configuration. -/
structure BatchOrder where
  config : Option String
  output : Option String
  /-- Only the items are told. -/
  isDry : Bool

inductive Command where
  | scrape (order : ScrapeOrder)
  | batch (order : BatchOrder)

namespace Command

def helpSwitch : Switch := ⟨["-h", "--help"], .help⟩

def verboseSwitch : Switch := ⟨["-v", "--verbose"], .flag⟩

def isNumber (s : String) : Bool := (Decimal.read? s).isSome

def isFetcher (s : String) : Bool := (Web.FetcherKind.ofName? s).isSome

def outerGrammar : Grammar := { switches := [helpSwitch], places := [] }

def batchGrammar : Grammar where
  switches := [helpSwitch, ⟨["--dry-run"], .flag⟩, verboseSwitch]
  places := ["config_file", "output_dir"]

def scrapeGrammar : Grammar where
  switches := [helpSwitch, ⟨["--url"], .value fun _ => true⟩,
    ⟨["--html-file"], .value fun _ => true⟩, ⟨["--fetcher"], .value isFetcher⟩,
    ⟨["--timeout"], .value isNumber⟩, ⟨["--propagate-location"], .flag⟩, verboseSwitch]
  places := ["schema_file"]
  choice := ["--url", "--html-file"]

def grammars : List (String × Grammar) := [("run", batchGrammar), ("scrape", scrapeGrammar)]

/-- Seconds that a fetch may take unless a line says otherwise. -/
def defaultTimeout : Float := 30.0

def ofBatch (r : Reading) : BatchOrder where
  config := r.place? "config_file"
  output := r.place? "output_dir"
  isDry := r.has "--dry-run"

def ofScrape (r : Reading) : ScrapeOrder where
  schema := r.place? "schema_file"
  url := r.value? "--url"
  file := r.value? "--html-file"
  fetcher := ((r.value? "--fetcher").bind Web.FetcherKind.ofName?).getD .plain
  timeout := ((r.value? "--timeout").bind Decimal.read?).getD defaultTimeout
  propagates := r.has "--propagate-location"

/-- The command that a line means; none, if it is empty. -/
def ofLine (line : List String) : Except Halt (Option Command) :=
  match choose outerGrammar grammars line with
  | .error h => .error h
  | .ok .nothing => .ok none
  | .ok (.command name r) =>
    .ok (some (if name = "run" then .batch (ofBatch r) else .scrape (ofScrape r)))

end Command

end Gleaner
