import Gleaner.Proofs.Basic
import Gleaner.Proofs.Store.Folder
import Gleaner.Url.Normal

/-! A store of a folder for each domain keeps the last record of each file. Two addresses of one
domain may have one file name between them, and the same address always has. -/

namespace Gleaner.Store.Folders

open Files (domainFor)

variable {s : Folders} {d : Disk} {r place : List String} {url : String} {record : Raw}
  {p file : Path} {octets : Text.Octets}

/-- Saves records one after the other, each for its address. -/
def saveAll (saves : List (String × Raw)) (w : Folders × Disk) : Folders × Disk :=
  saves.foldl (fun w a => ((w.1.save w.2 a.1 a.2).store, (w.1.save w.2 a.1 a.2).disk)) w

theorem saveAll_cons (a : String × Raw) (saves : List (String × Raw)) (s : Folders) (d : Disk) :
    saveAll (a :: saves) (s, d) =
      saveAll saves ((s.save d a.1 a.2).store, (s.save d a.1 a.2).disk) := by
  rw [saveAll, List.foldl_cons, saveAll]

theorem saveAll_append (before rest : List (String × Raw)) (w : Folders × Disk) :
    saveAll (before ++ rest) w = saveAll rest (saveAll before w) := by
  rw [saveAll, List.foldl_append, saveAll, saveAll]

theorem hasFolder_save (h : d.HasFolder s.root r) (url : String) (record : Raw) :
    (s.save d url record).disk.HasFolder (s.save d url record).store.root r := by
  obtain ⟨hroot, ⟨hdisk, -⟩ | ⟨e, hmade, ⟨hdisk, -⟩ | ⟨u, octets, -, -, hentry, -, hdisk, -⟩⟩⟩ :=
    save_cases h url record
  · rw [hroot, hdisk]
    exact h
  · rw [hroot, hdisk]
    exact hmade.keepsFolder h
  · rw [hroot, hdisk]
    exact (hmade.keepsFolder h).put hentry

theorem hasFolder_saveAll (h : d.HasFolder s.root r) (saves : List (String × Raw)) :
    (saveAll saves (s, d)).2.HasFolder (saveAll saves (s, d)).1.root r := by
  induction saves generalizing s d with
  | nil => exact h
  | cons a saves ih =>
    rw [saveAll_cons]
    exact ih (hasFolder_save h a.1 a.2)

/-- A record for another place leaves a file as it is. -/
theorem hasFile_save (h : d.HasFolder s.root r) (hfile : d.HasFile p place octets)
    (hne : placeFor r url ≠ place) (record : Raw) :
    (s.save d url record).disk.HasFile p place octets := by
  obtain ⟨-, ⟨hdisk, -⟩ | ⟨e, hmade, ⟨hdisk, -⟩ | ⟨u, new, -, -, hentry, -, hdisk, -⟩⟩⟩ :=
    save_cases h url record
  · rw [hdisk]
    exact hfile
  · rw [hdisk]
    exact hfile.made hmade
  · rw [hdisk]
    exact (hfile.made hmade).put hentry hne.symm

theorem hasFile_saveAll (h : d.HasFolder s.root r) (hfile : d.HasFile p place octets)
    {saves : List (String × Raw)} (hne : ∀ a ∈ saves, placeFor r a.1 ≠ place) :
    (saveAll saves (s, d)).2.HasFile p place octets := by
  induction saves generalizing s d with
  | nil => exact hfile
  | cons a saves ih =>
    obtain ⟨hfirst, hrest⟩ := List.forall_mem_cons.mp hne
    rw [saveAll_cons]
    exact ih (hasFolder_save h a.1 a.2) (hasFile_save h hfile hfirst a.2) hrest

/-- A save that tells of a file has written the record there. -/
theorem hasFile_of_saved (h : d.HasFolder s.root r)
    (hsaved : (s.save d url record).result = .ok (some file)) :
    ∃ text, recordText (.indented 2) record = .ok text ∧
      (s.save d url record).disk.HasFile file (placeFor r url) (Text.octetsOf text) := by
  obtain ⟨-, ⟨-, hnone⟩ | ⟨e, hmade, ⟨-, hnone⟩ |
    ⟨u, octets, -, hplace, hentry, hclosed, hdisk, hwrote⟩⟩⟩ := save_cases h url record
  · exact absurd hsaved (hnone file)
  · exact absurd hsaved (hnone file)
  · obtain ⟨rfl, text, htext, rfl⟩ := hwrote.text_of_ok hsaved
    rw [hdisk]
    exact ⟨text, htext, Disk.hasFile_put hplace hentry hclosed _⟩

/-- At the end, the file that a save told of holds its record, unless a later one went to the same
place. -/
theorem read_of_last_save (h : d.HasFolder s.root r) {before rest : List (String × Raw)}
    (hsaved : ((saveAll before (s, d)).1.save (saveAll before (s, d)).2 url record).result =
      .ok (some file))
    (hlast : ∀ a ∈ rest, placeFor r a.1 ≠ placeFor r url) :
    ∃ text, recordText (.indented 2) record = .ok text ∧
      (saveAll (before ++ (url, record) :: rest) (s, d)).2.read file =
        .ok (Text.octetsOf text) := by
  have hbefore := hasFolder_saveAll h before
  obtain ⟨text, htext, hfile⟩ := hasFile_of_saved hbefore hsaved
  have hend := hasFile_saveAll (hasFolder_save hbefore url record) hfile hlast
  rw [saveAll_append, saveAll_cons]
  exact ⟨text, htext, hend.read⟩

section Shared

/-- The folder of a store, with nothing in it. -/
def bare : Disk := { entries := [(["out"], .folder)] }

/-- The folder of a store, with one record in it. -/
def single (octets : Text.Octets) : Disk :=
  { entries := [(["out"], .folder), (["out", "a.org"], .folder),
    (["out", "a.org", "x_y.json"], .file octets)] }

def sharedFile : Path := { parts := ["out", "a.org", "x_y.json"] }

theorem saveAll_first :
    saveAll [("http://a.org/x/y", .int 1)] ({ root := { parts := ["out"] } }, bare) =
      ({ root := { parts := ["out"] }, saved := 1 }, single [49]) := by
  have hroot : (save { root := { parts := ["out"] } } bare "http://a.org/x/y" (.int 1)).store.root =
      { parts := ["out"] } := by decide +kernel
  have hcount : (save { root := { parts := ["out"] } } bare "http://a.org/x/y"
      (.int 1)).store.saved = 1 := by decide +kernel
  have hdisk : (save { root := { parts := ["out"] } } bare "http://a.org/x/y" (.int 1)).disk =
      single [49] := by decide +kernel
  have hstore : ∀ t : Folders, t.root = { parts := ["out"] } → t.saved = 1 →
      t = { root := { parts := ["out"] }, saved := 1 } := by
    rintro ⟨root, saved⟩ rfl rfl
    rfl
  rw [saveAll_cons, hdisk, hstore _ hroot hcount]
  rfl

theorem read_of_last_save_shared :
    ∃ text, recordText (.indented 2) (.int 2) = .ok text ∧
      (saveAll ([("http://a.org/x/y", .int 1)] ++ ("http://a.org/x_y", .int 2) ::
          [("http://b.org/x/y", .int 3)])
        ({ root := { parts := ["out"] } }, bare)).2.read sharedFile = .ok (Text.octetsOf text) := by
  have hfolder : bare.HasFolder { parts := ["out"] } ["out"] := ⟨⟨by decide, rfl⟩, by decide⟩
  have hlast : placeFor ["out"] "http://b.org/x/y" ≠ placeFor ["out"] "http://a.org/x_y" := by
    decide +kernel
  have hfound : (save { root := { parts := ["out"] }, saved := 1 } (single [49]) "http://a.org/x_y"
      (.int 2)).result.toOption = some (some sharedFile) := by decide +kernel
  refine read_of_last_save hfolder ?_ (by simpa using hlast)
  rw [saveAll_first]
  exact eq_ok_of_toOption hfound

/-- Two addresses that are told apart as those of items are, and share a file: the first record is
lost though its save told of the file. -/
theorem saves_collide :
    (Url.normalize "http://a.org/x/y" true).toOption = some "http://a.org/x/y" ∧
      (Url.normalize "http://a.org/x_y" true).toOption = some "http://a.org/x_y" ∧
      (save { root := { parts := ["out"] } } bare "http://a.org/x/y" (.int 1)).result.toOption =
        some (some sharedFile) ∧
      (recordText (.indented 2) (.int 1)).toOption = some "1" ∧
      (saveAll [("http://a.org/x/y", .int 1)] ({ root := { parts := ["out"] } }, bare)).2 =
        single (Text.octetsOf "1") ∧
      (saveAll ([("http://a.org/x/y", .int 1)] ++ [("http://a.org/x_y", .int 2)])
        ({ root := { parts := ["out"] } }, bare)).2 = single (Text.octetsOf "2") := by
  have hfirst : Text.octetsOf "1" = [49] := by decide +kernel
  have hsecond : Text.octetsOf "2" = [50] := by decide +kernel
  rw [saveAll_append, saveAll_first, hfirst, hsecond]
  refine ⟨by decide +kernel, by decide +kernel, by decide +kernel, by decide +kernel, rfl, ?_⟩
  rw [saveAll_cons]
  exact (by decide +kernel : (save { root := { parts := ["out"] }, saved := 1 } (single [49])
    "http://a.org/x_y" (.int 2)).disk = single [50])

end Shared

end Gleaner.Store.Folders
