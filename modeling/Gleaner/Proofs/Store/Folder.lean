import Gleaner.Proofs.Disk.Folder
import Gleaner.Proofs.Store.FileName
import Gleaner.Proofs.Store.Ledger
import Gleaner.Store.Folders

/-! What a save into the folder of a domain does: the folder is made, and then the file of the
address is written. -/

namespace Gleaner.Store.Folders

open Files (domainFor slash_notMem_domainFor)

variable {s : Folders} {d e : Disk} {root : Path} {r : List String} {domain url : String}
  {record : Raw}

/-- The place of the folder of a domain, in the folder of the store. A point stands for the latter
itself. -/
def folderAt (r : List String) (domain : String) : List String :=
  if domain = "." then r else Disk.placeIn r domain

/-- The name of the file for an address. -/
def nameFor (url : String) : String :=
  match Url.parse url with
  | .ok u => fileName url u
  | .error _ => ""

/-- The place of the file for an address, in the folder of the store. -/
def placeFor (r : List String) (url : String) : List String :=
  folderAt r (domainFor url) ++ [nameFor url]

def fileFor (root : Path) (url : String) : Path :=
  (root.join (domainFor url)).join (nameFor url)

theorem domainFor_ne_empty (url : String) : domainFor url ≠ "" := by
  unfold domainFor
  split
  next => decide
  next h => exact h

theorem made_folder (h : d.HasFolder root r)
    (hmake : d.makeAll (root.join (domainFor url)) = .ok e) :
    d.LeadsTo (root.join (domainFor url)) (folderAt r (domainFor url)) ∧
      d.Made (folderAt r (domainFor url)) e := by
  by_cases hself : domainFor url = "."
  · have hjoin : root.join "." = root := by
      simp [Path.join, Path.ofString, Path.partsOf, Text.splitAt, Path.isEmptyPart]
    rw [hself, hjoin] at hmake ⊢
    rw [folderAt, if_pos rfl]
    have hlocate : d.locate root ≠ .error .missing := by simp [Disk.locate_of_leadsTo h.leadsTo]
    obtain ⟨there, hthere, hmade⟩ := Disk.made_of_makeAll hlocate hmake
    obtain rfl := Disk.leadsTo_unique h.leadsTo hthere
    exact ⟨hthere, hmade⟩
  · have hname : Path.isEmptyPart (domainFor url) = false := by
      simp [Path.isEmptyPart, hself, domainFor_ne_empty]
    rw [Path.join_of_notMem (slash_notMem_domainFor url) hname] at hmake ⊢
    rw [folderAt, if_neg hself]
    exact h.made hmake

theorem join_fileName (p : Path) (address : String) (u : Url) :
    p.join (fileName address u) = { p with parts := p.parts ++ [fileName address u] } := by
  have hempty : fileName address u ≠ "" := fileName_ne_of_length (by decide) address u
  have hself : fileName address u ≠ "." := fileName_ne_of_length (by decide) address u
  have hpart : Path.isEmptyPart (fileName address u) = false := by
    simp [Path.isEmptyPart, hempty, hself]
  exact Path.join_of_notMem (slash_notMem_fileName address u) hpart

theorem placeIn_fileName (place : List String) (address : String) (u : Url) :
    Disk.placeIn place (fileName address u) = place ++ [fileName address u] :=
  if_neg (fileName_ne_of_length (by decide) address u)

/-- What a save leaves of the file of its address, once it is open: the text of the record, or
nothing if that has no octets. -/
inductive Wrote (record : Raw) (file : Path) (octets : Text.Octets) :
    Except Failure (Option Path) → Prop where
  | all {text : String} (text_eq : recordText (.indented 2) record = .ok text)
      (octets_eq : octets = Text.octetsOf text) : Wrote record file octets (.ok (some file))
  | none {text : String} {t : Text.Stray} (text_eq : recordText (.indented 2) record = .ok text)
      (stray : Text.stray? text = some t) (octets_eq : octets = []) :
      Wrote record file octets (.error (.text t))

theorem Wrote.text_of_ok {file told : Path} {octets : Text.Octets}
    {result : Except Failure (Option Path)} (h : Wrote record file octets result)
    (hresult : result = .ok (some told)) :
    told = file ∧ ∃ text, recordText (.indented 2) record = .ok text ∧
      octets = Text.octetsOf text := by
  cases h with
  | all htext hoctets =>
    cases hresult
    exact ⟨rfl, _, htext, hoctets⟩
  | none => cases hresult

/-- In a folder that is there, a save opens the file of the address to write the record, or writes
nothing. -/
theorem saveIn_cases {folder : Path} {place : List String} (h : d.HasFolder folder place)
    (s : Folders) (url : String) (record : Raw) :
    (s.saveIn d folder url record).store.root = s.root ∧
    (((s.saveIn d folder url record).disk = d ∧
        ∀ file, (s.saveIn d folder url record).result ≠ .ok (some file)) ∨
      ∃ u octets, Url.parse url = .ok u ∧
        d.LeadsTo (folder.join (nameFor url)) (place ++ [nameFor url]) ∧
        d.entryAt (place ++ [nameFor url]) ≠ some .folder ∧ place ++ [nameFor url] ∉ d.closed ∧
        (s.saveIn d folder url record).disk = d.put (place ++ [nameFor url]) (.file octets) ∧
        Wrote record (folder.join (nameFor url)) octets
          (s.saveIn d folder url record).result) := by
  unfold saveIn nameFor
  cases hparse : Url.parse url with
  | error f => simp
  | ok u =>
    dsimp only
    cases hname : nameFault? url u with
    | some t => simp
    | none =>
      cases htext : recordText (.indented 2) record with
      | error f => simp
      | ok text =>
        dsimp only
        unfold write
        cases hwrite : d.write (folder.join (fileName url u))
            (if (Text.stray? text).isSome then "" else text) with
        | error f =>
          dsimp only
          split <;> simp
        | ok e =>
          obtain ⟨there, hthere, hentry, hclosed, rfl⟩ := Disk.write_eq_ok hwrite
          have hplace : there = place ++ [fileName url u] := by
            rw [← placeIn_fileName]
            exact h.placeIn_of_leadsTo (join_fileName folder url u ▸ hthere)
          subst hplace
          cases hstray : Text.stray? text with
          | some t =>
            exact ⟨rfl, .inr ⟨u, _, rfl, hthere, hentry, hclosed, rfl,
              .none htext hstray (by simp [Text.octetsOf_empty])⟩⟩
          | none =>
            exact ⟨rfl, .inr ⟨u, _, rfl, hthere, hentry, hclosed, rfl, .all htext rfl⟩⟩

/-- A save fails before anything is made, or makes the folder of the domain and stops, or opens the
file of the address in that folder to write the record. -/
theorem save_cases (h : d.HasFolder s.root r) (url : String) (record : Raw) :
    (s.save d url record).store.root = s.root ∧
    (((s.save d url record).disk = d ∧ ∀ file, (s.save d url record).result ≠ .ok (some file)) ∨
      ∃ e, d.Made (folderAt r (domainFor url)) e ∧
        (((s.save d url record).disk = e ∧ ∀ file, (s.save d url record).result ≠ .ok (some file)) ∨
          ∃ u octets, Url.parse url = .ok u ∧ e.LeadsTo (fileFor s.root url) (placeFor r url) ∧
            e.entryAt (placeFor r url) ≠ some .folder ∧ placeFor r url ∉ e.closed ∧
            (s.save d url record).disk = e.put (placeFor r url) (.file octets) ∧
            Wrote record (fileFor s.root url) octets (s.save d url record).result)) := by
  have hdomain : (if (Url.domainOf url).1 = "" then noDomain else (Url.domainOf url).1) =
      domainFor url := rfl
  unfold save
  dsimp only
  rw [hdomain]
  cases hmake : d.makeAll (s.root.join (domainFor url)) with
  | error f => simp
  | ok e =>
    obtain ⟨hplace, hmade⟩ := made_folder h hmake
    obtain ⟨hroot, hcases⟩ := saveIn_cases (hmade.hasFolder hplace) s url record
    exact ⟨hroot, .inr ⟨e, hmade, hcases⟩⟩

end Gleaner.Store.Folders
