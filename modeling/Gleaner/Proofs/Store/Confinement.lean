import Gleaner.Proofs.Store.Folder
import Gleaner.Store.Basic

/-! A store changes nothing outside its folder: with a file for each domain only files in it, and
with a folder for each domain only these folders and the files in them. -/

namespace Gleaner.Store

open Files (domainFor slash_notMem_domainFor)

/-- A name that something in a folder can have. -/
structure IsName (name : String) : Prop where
  not_empty : name ≠ ""
  not_self : name ≠ "."
  not_up : name ≠ ".."
  no_slash : '/' ∉ name.toList

inductive Layout where
  | files
  | folders

def layout : Store → Layout
  | files _ => .files
  | folders _ => .folders

/-- The places that are inside the folder of a store, as its layout has them. -/
def Layout.Inside (r place : List String) : Layout → Prop
  | files => ∃ name, IsName name ∧ place = r ++ [name]
  | folders => ∃ domain, IsName domain ∧
      (place = r ++ [domain] ∨ ∃ name, IsName name ∧ place = r ++ [domain] ++ [name])

/-- What is asked of a store. -/
inductive Call where
  | save (url : String) (record : Raw)
  | flush (domain : String)
  | finalize

namespace Call

/-- Where nothing waits, there is nothing to flush. -/
def act : Call → Store × Disk → Store × Disk
  | save url record, (s, d) => ((s.save d url record).store, (s.save d url record).disk)
  | flush domain, (.files s, d) => (.files (s.flush d domain).store, (s.flush d domain).disk)
  | flush _, (.folders s, d) => (.folders s, d)
  | finalize, (s, d) => ((s.finalize d).store, (s.finalize d).disk)

/-- A domain with a folder to itself: it is not one of the names that stand for another folder. -/
def HasDomain : Layout → Call → Prop
  | .folders, save url _ => domainFor url ≠ "." ∧ domainFor url ≠ ".."
  | _, _ => True

end Call

def run (calls : List Call) (w : Store × Disk) : Store × Disk := calls.foldl (fun w c => c.act w) w

variable {l : Layout} {root : Path} {r place : List String} {start d e : Disk} {name : String}
  {limit : Int} {new : Disk.Entry}

/-- The folder is there, and only places inside it differ from the start. -/
structure Confined (l : Layout) (root : Path) (r : List String) (start d : Disk) : Prop where
  folder : d.HasFolder root r
  outside : ∀ place, ¬ l.Inside r place → d.entryAt place = start.entryAt place

theorem Confined.put (h : Confined l root r start d) (hplace : l.Inside r place)
    (hentry : d.entryAt place ≠ some .folder) : Confined l root r start (d.put place new) where
  folder := h.folder.put hentry
  outside := by
    intro there hthere
    have hne : there ≠ place := by
      rintro rfl
      exact hthere hplace
    rw [Disk.entryAt_put_of_ne hne, h.outside there hthere]

theorem Confined.made (h : Confined l root r start d) (hplace : l.Inside r place)
    (hmade : d.Made place e) : Confined l root r start e := by
  cases hmade with
  | before => exact h
  | now hnone => exact h.put hplace (by simp [hnone])

theorem isName_domainFor {url : String} (h : domainFor url ≠ "." ∧ domainFor url ≠ "..") :
    IsName (domainFor url) :=
  ⟨Folders.domainFor_ne_empty url, h.1, h.2, slash_notMem_domainFor url⟩

theorem isName_fileName (address : String) (u : Url) : IsName (fileName address u) :=
  ⟨fileName_ne_of_length (by decide) address u, fileName_ne_of_length (by decide) address u,
    fileName_ne_of_length (by decide) address u, slash_notMem_fileName address u⟩

namespace Files

variable {s : Files} {domain : String}

theorem isName_fileOf (hslash : '/' ∉ domain.toList) : IsName (domain ++ ".jsonl") where
  not_empty := fileName_ne "" (by decide) domain
  not_self := fileName_ne "." (by decide) domain
  not_up := fileName_ne ".." (by decide) domain
  no_slash := by simpa using hslash

theorem confined_flush (hproper : Proper root limit s) (h : Confined .files root r start d)
    (domain : String) : Confined .files root r start (s.flush d domain).disk := by
  rcases disk_flush s d domain with hdisk | ⟨hwaiting, text, happend⟩
  · rw [hdisk]
    exact h
  · have hname := isName_fileOf (hproper.domains domain hwaiting)
    obtain ⟨there, hthere, hentry, hdisk⟩ := Disk.append_eq_ok happend
    rw [fileOf_eq s (hproper.domains domain hwaiting), hproper.root] at hthere
    have hplace : there = r ++ [domain ++ ".jsonl"] := by
      rw [h.folder.placeIn_of_leadsTo hthere, Disk.placeIn, if_neg hname.not_up]
    rw [hdisk]
    exact h.put ⟨_, hname, hplace⟩ hentry

theorem confined_save (hproper : Proper root limit s) (h : Confined .files root r start d)
    (url : String) (record : Raw) :
    Confined .files root r start (s.save d url record).disk := by
  have hdisk := congrArg Prod.snd (save_eq s d url record)
  dsimp only at hdisk
  rw [hdisk]
  split
  · exact confined_flush (proper_receive hproper url record) h (domainFor url)
  · exact h

theorem confined_finalize (hproper : Proper root limit s) (h : Confined .files root r start d) :
    Confined .files root r start (s.finalize d).disk := by
  have hflush : ∀ s d domain, Proper root limit s ∧ Confined .files root r start d →
      Proper root limit (s.flush d domain).store ∧
        Confined .files root r start (s.flush d domain).disk :=
    fun s d domain h => ⟨proper_flush h.1 d domain, confined_flush h.1 h.2 domain⟩
  have hall := finalize_preserves
    (P := fun s d => Proper root limit s ∧ Confined .files root r start d) hflush ⟨hproper, h⟩
  exact hall.2

end Files

theorem Folders.confined_save {s : Folders} (hroot : s.root = root) {url : String}
    (hdomain : domainFor url ≠ "." ∧ domainFor url ≠ "..") (h : Confined .folders root r start d)
    (record : Raw) : Confined .folders root r start (s.save d url record).disk := by
  have hname := isName_domainFor hdomain
  have hfolder : folderAt r (domainFor url) = r ++ [domainFor url] := by
    rw [folderAt, if_neg hdomain.1, Disk.placeIn, if_neg hdomain.2]
  have hinside : Layout.folders.Inside r (folderAt r (domainFor url)) :=
    ⟨_, hname, .inl hfolder⟩
  subst hroot
  rcases (save_cases h.folder url record).2 with ⟨hdisk, -⟩ | ⟨e, hmade, hcases⟩
  · rw [hdisk]
    exact h
  · have hmade := h.made hinside hmade
    rcases hcases with ⟨hdisk, -⟩ | ⟨u, octets, hparse, -, hentry, -, hdisk, -⟩
    · rw [hdisk]
      exact hmade
    · have hfile : nameFor url = fileName url u := by simp [nameFor, hparse]
      have hplace : placeFor r url = r ++ [domainFor url] ++ [fileName url u] := by
        rw [placeFor, hfolder, hfile]
      rw [hdisk]
      exact hmade.put ⟨_, hname, .inr ⟨_, isName_fileName url u, hplace⟩⟩ hentry

/-- A store as it was opened, but for what it has been asked since. -/
inductive Opened (root : Path) : Layout → Store → Prop where
  | files {s : Files} (proper : Files.Proper root s.limit s) : Opened root .files (files s)
  | folders {s : Folders} (set : s.root = root) : Opened root .folders (folders s)

/-- Whatever is asked of a store, it stays as it was opened, and only places inside its folder
change. -/
theorem confined_act (c : Call) (hc : c.HasDomain l) {w : Store × Disk} (hw : Opened root l w.1)
    (h : Confined l root r start w.2) :
    Opened root l (c.act w).1 ∧ Confined l root r start (c.act w).2 := by
  obtain ⟨s, d⟩ := w
  dsimp only at hw h
  cases hw with
  | @files s hproper =>
    have hlimit : ∀ {t : Files}, Files.Proper root s.limit t → Opened root .files (.files t) :=
      fun ht => .files (ht.limit.symm ▸ ht)
    cases c with
    | save url record =>
      simp only [Call.act, Store.save, Step.lift]
      exact ⟨hlimit (Files.proper_act (.save url record) d hproper),
        Files.confined_save hproper h url record⟩
    | flush domain =>
      simp only [Call.act]
      exact ⟨hlimit (Files.proper_flush hproper d domain), Files.confined_flush hproper h domain⟩
    | finalize =>
      simp only [Call.act, Store.finalize, Step.lift]
      exact ⟨hlimit (Files.proper_act .finalize d hproper), Files.confined_finalize hproper h⟩
  | @folders s hroot =>
    cases c with
    | save url record =>
      have hstore := (Folders.save_cases (hroot ▸ h.folder) url record).1.trans hroot
      simp only [Call.act, Store.save, Step.lift]
      exact ⟨.folders hstore, Folders.confined_save hroot hc h record⟩
    | flush domain =>
      simp only [Call.act]
      exact ⟨.folders hroot, h⟩
    | finalize =>
      simp only [Call.act, Store.finalize, Step.lift, Folders.finalize]
      exact ⟨.folders hroot, h⟩

theorem confined_run (calls : List Call) (hcalls : ∀ c ∈ calls, c.HasDomain l) {w : Store × Disk}
    (hw : Opened root l w.1) (h : Confined l root r start w.2) :
    Confined l root r start (run calls w).2 := by
  induction calls generalizing w with
  | nil => exact h
  | cons c calls ih =>
    obtain ⟨hc, hcalls⟩ := List.forall_mem_cons.mp hcalls
    obtain ⟨hact, hconfined⟩ := confined_act c hc hw h
    exact ih hcalls hact hconfined

theorem opened_create {s : Store} (h : create name root limit start = .ok (s, d)) :
    Opened root s.layout s ∧ start.makeAll root = .ok d := by
  unfold create at h
  dsimp only at h
  cases hmake : start.makeAll root with
  | error f =>
    rw [hmake] at h
    split at h <;> cases h
  | ok e =>
    rw [hmake] at h
    split at h
    · cases h
      exact ⟨.folders rfl, rfl⟩
    · cases h
      exact ⟨.files (Files.proper_new root limit), rfl⟩
    · cases h

/-- Nothing outside the folder of a store is made or written, given that no domain is one of the
names that stand for another folder. Where each domain has a file, this needs no such condition. -/
theorem run_confined {s : Store} (hopen : create name root limit start = .ok (s, d))
    {calls : List Call} (hcalls : ∀ c ∈ calls, c.HasDomain s.layout) :
    ∃ r, d.HasFolder root r ∧ (run calls (s, d)).2.HasFolder root r ∧
      ∀ place, (run calls (s, d)).2.entryAt place ≠ d.entryAt place → s.layout.Inside r place := by
  obtain ⟨hopened, hmake⟩ := opened_create hopen
  obtain ⟨r, hfolder⟩ := Disk.hasFolder_of_makeAll hmake
  have hrun := confined_run calls hcalls (w := (s, d)) hopened ⟨hfolder, fun _ _ => rfl⟩
  refine ⟨r, hfolder, hrun.folder, ?_⟩
  intro place hchanged
  by_contra hplace
  exact hchanged (hrun.outside place hplace)

/-- A folder in which nothing is but the folder of a store. -/
def emptyRoom : Disk := { entries := [(["room"], .folder), (["room", "out"], .folder)] }

def outFolder : Path := { absolute := true, parts := ["room", "out"] }

theorem run_confined_shared :
    (∃ r, emptyRoom.HasFolder outFolder r ∧
      ∀ place, (run [.save "http://www.a.org/x" (.int 1), .save "mailto:b" (.int 2), .finalize]
          (.folders { root := outFolder }, emptyRoom)).2.entryAt place ≠ emptyRoom.entryAt place →
        Layout.folders.Inside r place) ∧
      (run [.save "http://www.a.org/x" (.int 1), .save "mailto:b" (.int 2), .finalize]
          (.folders { root := outFolder }, emptyRoom)).2.entries =
        emptyRoom.entries ++ [(["room", "out", "a.org"], .folder),
          (["room", "out", "a.org", "x.json"], .file [49]),
          (["room", "out", "unknown"], .folder),
          (["room", "out", "unknown", "b.json"], .file [50])] := by
  have hopen : create "folder_per_domain" outFolder 100 {} =
      .ok (.folders { root := outFolder }, emptyRoom) := rfl
  have hcalls : ∀ c ∈ [.save "http://www.a.org/x" (.int 1), .save "mailto:b" (.int 2),
      Call.finalize], c.HasDomain .folders := by
    simp only [List.forall_mem_cons, Call.HasDomain]
    exact ⟨by decide +kernel, by decide +kernel, trivial, by simp⟩
  obtain ⟨r, hfolder, -, hinside⟩ := run_confined hopen hcalls
  exact ⟨⟨r, hfolder, hinside⟩, by decide +kernel⟩

/-- A host that is two points is taken for the folder above, and so is one with `www.` before
them. -/
theorem save_escapes :
    create "folder_per_domain" outFolder 100 {} =
        .ok (.folders { root := outFolder }, emptyRoom) ∧
      emptyRoom.HasFolder outFolder ["room", "out"] ∧
      (run [.save "http://../x" (.map [])] (.folders { root := outFolder }, emptyRoom)).2.entryAt
        ["room", "x.json"] ≠ emptyRoom.entryAt ["room", "x.json"] ∧
      (run [.save "http://www.../x" (.map [])]
        (.folders { root := outFolder }, emptyRoom)).2.entryAt
          ["room", "x.json"] ≠ emptyRoom.entryAt ["room", "x.json"] ∧
      ¬ Layout.folders.Inside ["room", "out"] ["room", "x.json"] := by
  exact ⟨rfl, ⟨⟨by decide, rfl⟩, by decide⟩, by decide +kernel, by decide +kernel,
    by simp [Layout.Inside]⟩

end Gleaner.Store
