import Gleaner.Store.Files
import Gleaner.Store.Folders

/-!
Stores for the records of a batch, by the name of their layout.
-/

namespace Gleaner

inductive Store where
  | folders (s : Store.Folders)
  | files (s : Store.Files)

namespace Store

inductive Refusal where
  | unknown (name : String)
  | disk (f : Disk.Failure)

def Refusal.message : Refusal → String
  | unknown name => s!"Unsupported persistence strategy: {name}"
  | disk f => f.message

/-- Opens a store below a folder, which is made if there is none. -/
def create (name : String) (root : Path) (limit : Int) (d : Disk) : Except Refusal (Store × Disk) :=
  let opened (s : Store) : Except Refusal (Store × Disk) := match d.makeAll root with
    | .ok e => .ok (s, e)
    | .error f => .error (.disk f)
  match name with
  | "folder_per_domain" => opened (.folders { root })
  | "file_per_domain" => opened (.files { root, limit })
  | _ => .error (.unknown name)

def Step.lift {σ β : Type} (wrap : σ → Store) (s : Step σ β) : Step Store β :=
  ⟨wrap s.store, s.disk, s.log, s.result⟩

def save (s : Store) (d : Disk) (url : String) (record : Raw) : Step Store (Option Path) :=
  match s with
  | folders f => (f.save d url record).lift folders
  | files f => (f.save d url record).lift files

def finalize (s : Store) (d : Disk) : Step Store Unit :=
  match s with
  | folders f => (f.finalize d).lift folders
  | files f => (f.finalize d).lift files

end Store

end Gleaner
