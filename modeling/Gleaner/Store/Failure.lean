import Gleaner.Disk.Basic
import Gleaner.Log
import Gleaner.Store.Record
import Gleaner.Url.Basic

/-!
What a step of a store yields: the store and the disk after it, notes, and a result or a failure.
-/

namespace Gleaner.Store

inductive Failure where
  | disk (f : Disk.Failure)
  | address (f : Url.Fault)
  | record (u : Unwritable)
  /-- Text that has no octets. -/
  | text (s : Text.Stray)

def Failure.message : Failure → String
  | disk f => f.message
  | address f => f.message
  | record u => u.message
  | text s => s.message

/-- Whether a failure comes from the file system. One of the path itself does not: it is a bad
value. -/
def isSystemFault (f : Disk.Failure) : Bool := !f.fault.isOfPath

structure Step (σ β : Type) where
  store : σ
  disk : Disk
  log : Log
  result : Except Failure β

/-- The domain for addresses that have none. -/
def noDomain : String := "unknown"

end Gleaner.Store
