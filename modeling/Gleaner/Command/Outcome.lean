import Gleaner.Batch.Basic
import Gleaner.Config.Load
import Gleaner.Web.Service

/-!
What commands come to: an exit code or a fault that ends the program, with what was printed, noted
and asked for on the way, and the disk as it is left.
-/

namespace Gleaner.Command

/-- A fault that ends the program. -/
inductive Escape where
  | noPath
  | load (f : Load.Failure)
  | disk (f : Disk.Failure)
  | store (r : Store.Refusal)
  | fetcher (name : String)
  | item (e : Batch.Escape Store.Failure)
  /-- What waits in a store cannot be written. -/
  | record (f : Store.Failure)
  | endless

def Escape.message : Escape → String
  | noPath => "expected str, bytes or os.PathLike object, not list"
  | load f => f.message
  | disk f => f.message
  | store r => r.message
  | fetcher name => (Web.FetcherRefusal.unknown name).message
  | item (.noSchema name) => Text.quoted name
  | item (.keeper f) => f.message
  | record f => f.message
  | endless => ""

inductive Printed where
  | text (s : String)
  | help

structure Outcome where
  code : Except Escape Nat
  disk : Disk
  printed : Printed := .text ""
  log : Log := []
  requests : List Web.Request := []

/-- The part of the program that commands are noted under. -/
def origin : String := "cli"

namespace Outcome

/-- Puts notes and requests before those of an outcome. -/
def after (o : Outcome) (log : Log) (requests : List Web.Request) : Outcome :=
  { o with log := log ++ o.log, requests := requests ++ o.requests }

/-- Ends with a note of what went wrong. -/
def refuse (d : Disk) (why : String) : Outcome :=
  { code := .ok 1, disk := d, log := [.error origin why] }

def escape (d : Disk) (e : Escape) : Outcome := { code := .error e, disk := d }

/-- Ends on a failure to load: one that is reckoned with is noted, any other ends the program. -/
def ofFailure (d : Disk) (what : String) (f : Load.Failure) : Outcome :=
  if f.isReckoned then refuse d s!"{what}: {f.message}" else escape d (.load f)

end Outcome

end Gleaner.Command
