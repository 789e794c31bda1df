import Gleaner.Store.Basic

/-!
Keepers, to whom a batch hands its records. A store with its disk is one.
-/

namespace Gleaner.Batch

/-- What becomes of a record that is handed over. -/
inductive Keeping (ε : Type) where
  | kept (path : String)
  /-- The record is not kept, which the batch takes note of. -/
  | refused (message : String)
  /-- A fault that the batch does not reckon with. -/
  | raised (fault : ε)

/-- A keeper, with what it remembers. -/
structure Keeper (σ ε : Type) where
  save : σ → (url : String) → (record : Raw) → σ × Log × Keeping ε

namespace Keeping

/-- What a saving means to a batch: only a record that is no value is out of reckoning. -/
def ofSaving : Except Store.Failure (Option Path) → Keeping Store.Failure
  | .ok (some path) => .kept path.toString
  | .ok none => .kept ""
  | .error (.record (.notValue kind)) => .raised (.record (.notValue kind))
  | .error f => .refused f.message

end Keeping

/-- A store on a disk as a keeper. -/
def Keeper.ofStore : Keeper (Store × Disk) Store.Failure where
  save := fun (store, disk) url record =>
    let step := store.save disk url record
    ((step.store, step.disk), step.log, .ofSaving step.result)

end Gleaner.Batch
