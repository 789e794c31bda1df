import Gleaner.Store.Failure
import Gleaner.Store.FileName
import Gleaner.Url.Domain

/-!
A store with a folder for each domain, and in it a file for each address.
-/

namespace Gleaner.Store

structure Folders where
  root : Path
  saved : Nat := 0

namespace Folders

/-- Writes a record to the file of its address. A file that cannot be opened is noted only. One
that is open stays empty if the text has no octets. -/
def write (s : Folders) (d : Disk) (file : Path) (url text : String) :
    Step Folders (Option Path) :=
  match d.write file (if (Text.stray? text).isSome then "" else text) with
  | .ok e => match Text.stray? text with
    | some t => ⟨s, e, [], .error (.text t)⟩
    | none => ⟨{ s with saved := s.saved + 1 }, e, [], .ok (some file)⟩
  | .error f =>
    if isSystemFault f then
      ⟨s, d, [.error "persistence" s!"Failed to save record for {url}: {f.message}"], .ok none⟩
    else ⟨s, d, [], .error (.disk f)⟩

/-- Writes a record into a folder that is there. -/
def saveIn (s : Folders) (d : Disk) (folder : Path) (url : String) (record : Raw) :
    Step Folders (Option Path) :=
  match Url.parse url with
  | .error f => ⟨s, d, [], .error (.address f)⟩
  | .ok u => match nameFault? url u with
    | some t => ⟨s, d, [], .error (.text t)⟩
    | none => match recordText (.indented 2) record with
      | .error f => ⟨s, d, [], .error (.record f)⟩
      | .ok text => s.write d (folder.join (fileName url u)) url text

/-- Saves the record of an address, in the folder of its domain. -/
def save (s : Folders) (d : Disk) (url : String) (record : Raw) : Step Folders (Option Path) :=
  let (domain, notes) := Url.domainOf url
  let folder := s.root.join (if domain = "" then noDomain else domain)
  match d.makeAll folder with
  | .error f => ⟨s, d, notes, .error (.disk f)⟩
  | .ok e =>
    let step := s.saveIn e folder url record
    { step with log := notes ++ step.log }

def finalize (s : Folders) (d : Disk) : Step Folders Unit :=
  ⟨s, d, [.info "persistence" s!"FolderPerDomainStrategy completed. Saved {s.saved} files."],
    .ok ()⟩

end Folders

end Gleaner.Store
