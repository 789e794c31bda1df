import Gleaner.Batch.Keeper
import Gleaner.Batch.Schedule
import Gleaner.Config.Basic
import Gleaner.Scrape.Attempt

/-!
Batches: items are scraped, so many at a time, and their records are handed to a keeper as they
land. An item that comes to nothing is counted and noted, and the others go on.
-/

namespace Gleaner

namespace Batch

/-- Counts of a batch. The total is of the last run; the others add up over all runs. -/
structure Stats where
  total : Nat := 0
  success : Nat := 0
  degraded : Nat := 0
  failed : Nat := 0
  deriving DecidableEq

/-- A fault that ends a run. -/
inductive Escape (ε : Type) where
  | noSchema (name : String)
  | keeper (fault : ε)

end Batch

/-- A batch between its runs. -/
structure Batch (σ : Type) where
  /-- What the keeper remembers. -/
  place : σ
  stats : Batch.Stats := {}
  log : Log := []
  /-- The addresses whose fetches have started, in order. -/
  fetched : List String := []
  /-- The most fetches under way at a time. -/
  peak : Nat := 0

/-- The scrape of an item on its own, if there is a schema for it. -/
def Config.attempt (c : Config) (fetch : String → Web.Arrival) (i : Item) : Option Attempt :=
  (c.schemas.find? (·.1 = i.schema)).map fun entry =>
    entry.2.attempt c.defaults.settings fetch (some i.url) none

/-- How many items of a batch are under way at a time. -/
def Config.places (c : Config) : Nat := (max 1 c.defaults.threads).toNat

namespace Batch

variable {σ ε : Type}

/-- An item on its way. -/
structure Visit where
  item : Item
  attempt : Option Attempt

def Visit.course (v : Visit) : Web.Course := (v.attempt.map (·.course)).getD []

/-- A run that is under way: the results so far by the numbers of their items, and the first fault
that ends the run. -/
structure Run (σ ε : Type) where
  batch : Batch σ
  results : List (Nat × Result) := []
  escape : Option (Escape ε) := none

/-- The part of the program that batches are noted under. -/
def origin : String := "batch_runner"

namespace Run

def note (r : Run σ ε) (notes : Log) : Run σ ε :=
  { r with batch := { r.batch with log := r.batch.log ++ notes } }

def count (r : Run σ ε) (change : Stats → Stats) : Run σ ε :=
  { r with batch := { r.batch with stats := change r.batch.stats } }

/-- Counts an item that came to nothing. -/
def fail (r : Run σ ε) (why : String) : Run σ ε :=
  (r.note [.error origin why]).count fun s => { s with failed := s.failed + 1 }

/-- Counts an item that has a result. -/
def gain (r : Run σ ε) (number : Nat) (result : Result) : Run σ ε :=
  { r with results := r.results ++ [(number, result)] }.count fun s =>
    if result.isWhole then { s with success := s.success + 1 }
    else { s with degraded := s.degraded + 1 }

def stop (r : Run σ ε) (e : Escape ε) : Run σ ε :=
  { r with escape := r.escape <|> some e }

/-- Hands the record of a result to the keeper. -/
def keep (k : Keeper σ ε) (r : Run σ ε) (number : Nat) (item : Item) (result : Result) : Run σ ε :=
  let (place, notes, keeping) := k.save r.batch.place item.url (result.recordWith item.schema)
  let r := { r with batch := { r.batch with place } }.note (result.notes ++ notes)
  match keeping with
  | .kept _ => r.gain number result
  | .refused message => r.fail s!"Failed to save result for {item.url}: {message}"
  | .raised fault => r.stop (.keeper fault)

/-- Takes in an item that has landed. -/
def land (k : Keeper σ ε) (r : Run σ ε) (number : Nat) (v : Visit) : Run σ ε :=
  match v.attempt with
  | none => r.stop (.noSchema v.item.schema)
  | some a => match a.result with
    | none => r
    | some (.error f) =>
      r.fail (if f.isTimeout then s!"Timed out fetching {v.item.url}"
        else s!"Failed to scrape {v.item.url}: {f.message}")
    | some (.ok result) => r.keep k number v.item result

/-- Takes note of a fetch that has started. -/
def begin (r : Run σ ε) (v : Visit) : Run σ ε :=
  let r := r.note ((v.attempt.map (·.log)).getD [])
  { r with batch := { r.batch with fetched := r.batch.fetched ++ [v.item.url] } }

/-- Follows an event. -/
def follow (k : Keeper σ ε) (visits : List Visit) (r : Run σ ε) : Event → Run σ ε
  | .started i => (visits[i]?.map (r.begin ·)).getD r
  | .finished _ => r
  | .landed i => (visits[i]?.map (r.land k i ·)).getD r

/-- The results in the order of their items. -/
def inOrder (r : Run σ ε) (items : Nat) : List Result :=
  (List.range items).filterMap fun i => (r.results.find? (·.1 = i)).map (·.2)

end Run

/-- How a run ends. -/
inductive Ending (ε : Type) where
  | returned (results : List Result)
  | escaped (e : Escape ε)
  /-- A fetch hangs that nothing cuts. -/
  | endless

/-- Whether every item lands. -/
def allLand (visits : List Visit) : Bool :=
  visits.all fun v => (v.attempt.map (·.result.isSome)).getD true

/-- Ends a run whose events are over. -/
def Run.close (r : Run σ ε) (visits : List Visit) : Batch σ × Ending ε :=
  match r.escape with
  | some e => (r.batch, .escaped e)
  | none =>
    if !allLand visits then (r.batch, .endless)
    else
      let s := r.batch.stats
      let r := r.note [.info origin (s!"Batch processing completed: {s.success} success, " ++
        s!"{s.degraded} degraded, {s.failed} failed")]
      (r.batch, .returned (r.inOrder visits.length))

/-- Runs a batch over items. -/
def run (k : Keeper σ ε) (c : Config) (fetch : String → Web.Arrival) (b : Batch σ)
    (items : List Item) : Batch σ × Ending ε :=
  if items.isEmpty then
    ({ b with log := b.log ++ [.info origin "No items to process"] }, .returned [])
  else
    let visits := items.map fun i => ⟨i, c.attempt fetch i⟩
    let events := schedule c.places (visits.map (·.course))
    let start : Run σ ε := { batch := { b with
      stats := { b.stats with total := items.length }
      log := b.log ++ [.info origin s!"Starting batch processing of {items.length} items"]
      peak := max b.peak (busiest events) } }
    (events.foldl (Run.follow k visits) start).close visits

/-- Runs a batch over lists of items, one after the other, with the counts after each run. -/
def runAll (k : Keeper σ ε) (c : Config) (fetch : String → Web.Arrival) (b : Batch σ) :
    List (List Item) → Batch σ × List (Ending ε × Stats)
  | [] => (b, [])
  | items :: rest =>
    let (b, ending) := b.run k c fetch items
    let (last, endings) := runAll k c fetch b rest
    (last, (ending, b.stats) :: endings)

end Batch

end Gleaner
