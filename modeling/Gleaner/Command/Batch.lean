import Gleaner.Command.Arguments
import Gleaner.Command.Outcome

/-!
The command that scrapes the items of a configuration into an output folder.
-/

namespace Gleaner

open Command (Outcome Escape origin)

namespace BatchOrder

/-- How many records of a domain wait in a store of the command. -/
def waitingLimit : Int := 100

/-- Tells the items of a configuration. -/
def tell (c : Config) (d : Disk) : Outcome :=
  { code := .ok 0, disk := d
    log := c.items.map fun i => .info origin s!"Would scrape {i.url} with schema '{i.schema}'" }

/-- Opens the store of a configuration below a folder. -/
def openStore (c : Config) (output : Path) (d : Disk) : Except Escape (Store × Disk) :=
  match d.makeAll output with
  | .error f => .error (.disk f)
  | .ok d => match Store.create c.strategy output waitingLimit d with
    | .error r => .error (.store r)
    | .ok place => .ok place

/-- Writes what waits in a store, and ends by the counts of a batch. -/
def conclude (place : Store × Disk) (s : Batch.Stats) : Outcome :=
  let last := place.1.finalize place.2
  match last.result with
  | .error f => { code := .error (.record f), disk := last.disk, log := last.log }
  | .ok () =>
    { code := .ok (if s.failed = 0 then 0 else 1), disk := last.disk
      log := last.log ++ [.info origin (s!"Batch stats: {s.success} success, " ++
        s!"{s.degraded} degraded, {s.failed} failed")] }

/-- Scrapes the items of a configuration into a store. -/
def fill (c : Config) (service : Web.Service) (place : Store × Disk) : Outcome :=
  let (b, ending) := ({ place } : Batch (Store × Disk)).run .ofStore c service.arrival c.items
  let log := service.opening ++ b.log ++ service.closing
  let requests := b.fetched.filterMap service.request?
  match ending with
  | .returned _ => (conclude b.place b.stats).after log requests
  | .escaped e => (Outcome.escape b.place.2 (.item e)).after log requests
  | .endless => (Outcome.escape b.place.2 .endless).after log requests

/-- Scrapes the items of a configuration. -/
def scrape (c : Config) (s : Web.Surroundings) (output : Path) (d : Disk) : Outcome :=
  match openStore c output d with
  | .error e => .escape d e
  | .ok place => match Web.FetcherKind.ofName? c.defaults.fetcher with
    | none => .escape place.2 (.fetcher c.defaults.fetcher)
    | some kind =>
      let options : Web.FetcherOptions :=
        { timeout := .decimal c.defaults.timeout, agent := c.defaults.agent }
      fill c (s.service options kind) place

def runWith (o : BatchOrder) (s : Web.Surroundings) (c : Config) (d : Disk) : Outcome :=
  if o.isDry then tell c d
  else match o.output with
    | none => .escape d .noPath
    | some output => scrape c s (Path.ofString output) d

def run (o : BatchOrder) (s : Web.Surroundings) (d : Disk) : Outcome :=
  match o.config with
  | none => .escape d .noPath
  | some name =>
    let loading := Load.config d s.web (Path.ofString name)
    let outcome : Outcome := match loading.result with
      | .error f => .ofFailure d "Invalid configuration" f
      | .ok c => o.runWith s c d
    outcome.after loading.log loading.requests

end BatchOrder

end Gleaner
