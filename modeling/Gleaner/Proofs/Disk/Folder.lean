import Gleaner.Proofs.Disk.Content

/-! Folders of a disk: what is put where no folder was leaves every path where it led, and a folder
below one that is there is made at one place. -/

namespace Gleaner.Disk

variable {d e : Disk} {p q : Path} {place above here there names : List String} {new : Entry}
  {name text : String} {octets : Text.Octets}

/-- One step of a walk goes up, or down by a name that is not too long. -/
theorem walk_cons_eq_ok : d.walk here (name :: names) = .ok there ↔
    d.entryAt here = some .folder ∧
      ((name = ".." ∧ d.walk here.dropLast names = .ok there) ∨
        (name ≠ ".." ∧ name.utf8ByteSize ≤ nameLimit ∧
          d.walk (here ++ [name]) names = .ok there)) := by
  rw [walk]
  rcases d.entryAt here with _ | _ | _
  · simp
  · simp
  · by_cases hup : name = ".."
    · simp [hup]
    · by_cases hlimit : nameLimit < name.utf8ByteSize
      · simp [hup, hlimit]
      · simp [hup, hlimit, Nat.le_of_not_lt hlimit]

theorem walk_append_of_ok {more : List String} (h : d.walk here names = .ok there) :
    d.walk here (names ++ more) = d.walk there more := by
  induction names generalizing here with
  | nil =>
    cases h
    rfl
  | cons name names ih =>
    rw [List.cons_append]
    rcases walk_cons_eq_ok.mp h with ⟨hhere, ⟨rfl, hrest⟩ | ⟨hname, hlimit, hrest⟩⟩
    · rw [walk, hhere, ← ih hrest]
      rfl
    · rw [walk, hhere, ← ih hrest]
      simp only [if_neg hname, if_neg (Nat.not_lt.mpr hlimit)]

/-- Where a name leads in a folder does not depend on what else is there. -/
theorem walk_name (h : d.entryAt place = some .folder) : d.walk place [name] =
    if name = ".." then .ok place.dropLast
    else if nameLimit < name.utf8ByteSize then .error .nameTooLong else .ok (place ++ [name]) := by
  rw [walk, h]
  rfl

section Put

variable (hfolder : d.entryAt place ≠ some .folder)

include hfolder

theorem walk_put_of_ok (h : d.walk here names = .ok there) :
    (d.put place new).walk here names = .ok there := by
  induction names generalizing here with
  | nil => exact h
  | cons name names ih =>
    obtain ⟨hhere, hstep⟩ := walk_cons_eq_ok.mp h
    have hne : here ≠ place := by
      rintro rfl
      exact hfolder hhere
    refine walk_cons_eq_ok.mpr ⟨(entryAt_put_of_ne hne d new).trans hhere, ?_⟩
    rcases hstep with ⟨hup, h⟩ | ⟨hname, hlimit, h⟩
    · exact .inl ⟨hup, ih h⟩
    · exact .inr ⟨hname, hlimit, ih h⟩

/-- A path goes on leading where it led. -/
theorem LeadsTo.put (h : d.LeadsTo q there) : (d.put place new).LeadsTo q there := by
  refine ⟨h.1, ?_⟩
  rw [put_home]
  exact walk_put_of_ok hfolder h.2

end Put

/-- A path leads to a place, and a folder is there. -/
structure HasFolder (d : Disk) (p : Path) (place : List String) : Prop where
  leadsTo : d.LeadsTo p place
  folder : d.entryAt place = some .folder

theorem HasFolder.put (h : d.HasFolder p above) (hfolder : d.entryAt place ≠ some .folder) :
    (d.put place new).HasFolder p above where
  leadsTo := h.leadsTo.put hfolder
  folder := by
    have hne : above ≠ place := by
      rintro rfl
      exact hfolder h.folder
    rw [entryAt_put_of_ne hne, h.folder]

/-- The place of a name in a folder. -/
def placeIn (place : List String) (name : String) : List String :=
  if name = ".." then place.dropLast else place ++ [name]

/-- A folder that is made: it was there, or nothing was. -/
inductive Made (d : Disk) (place : List String) : Disk → Prop where
  | before : d.entryAt place = some .folder → Made d place d
  | now : d.entryAt place = none → Made d place (d.put place .folder)

theorem Made.hasFolder (h : Made d place e) (hplace : d.LeadsTo p place) : e.HasFolder p place := by
  cases h with
  | before hfolder => exact ⟨hplace, hfolder⟩
  | now hnone =>
    have hfolder : d.entryAt place ≠ some .folder := by simp [hnone]
    exact ⟨hplace.put hfolder, entryAt_put_self (ne_nil_of_entryAt hfolder) d .folder⟩

theorem Made.keepsFolder (h : Made d place e) (hq : d.HasFolder q there) : e.HasFolder q there := by
  cases h with
  | before => exact hq
  | now hnone => exact hq.put (by simp [hnone])

/-- Where something can be made, it is made or refused for being in use. -/
theorem makeUnlessThere_of_leadsTo (h : d.LeadsTo p place) :
    (∃ e, d.makeUnlessThere p = .ok e ∧ Made d place e) ∨
      d.makeUnlessThere p = .error ⟨.exists, p⟩ := by
  have hlocate := locate_of_leadsTo h
  cases hentry : d.entryAt place with
  | none =>
    left
    refine ⟨d.put place .folder, ?_, .now hentry⟩
    simp [makeUnlessThere, makeOne, hlocate, hentry]
  | some entry => cases entry with
    | file content =>
      right
      simp [makeUnlessThere, makeOne, isFolder, hlocate, hentry]
    | folder =>
      left
      refine ⟨d, ?_, .before hentry⟩
      simp [makeUnlessThere, makeOne, isFolder, hlocate, hentry]

theorem makeUnlessThere_of_error {f : Fault} (h : d.locate p = .error f) :
    d.makeUnlessThere p = .error ⟨f, p⟩ := by
  simp [makeUnlessThere, makeOne, isFolder, h]

theorem made_of_makeUnlessThere (h : d.makeUnlessThere p = .ok e) :
    ∃ place, d.LeadsTo p place ∧ Made d place e := by
  cases hlocate : d.locate p with
  | error f => simp [makeUnlessThere_of_error hlocate] at h
  | ok spot =>
    obtain ⟨place, found⟩ := spot
    have hplace := (locate_eq_ok.mp hlocate).1
    rcases makeUnlessThere_of_leadsTo hplace with ⟨made, hmade, hmake⟩ | hexists
    · rw [h] at hmade
      cases hmade
      exact ⟨place, hplace, hmake⟩
    · simp [h] at hexists

/-- Two disks hold the same files. -/
def SameFiles (d e : Disk) : Prop :=
  ∀ place octets, e.entryAt place = some (.file octets) ↔ d.entryAt place = some (.file octets)

theorem SameFiles.refl (d : Disk) : d.SameFiles d := fun _ _ => .rfl

theorem SameFiles.trans {m : Disk} (h : d.SameFiles m) (h' : m.SameFiles e) : d.SameFiles e :=
  fun place octets => (h' place octets).trans (h place octets)

theorem Made.sameFiles (h : Made d place e) : d.SameFiles e := by
  cases h with
  | before => exact .refl d
  | now hnone =>
    intro there octets
    by_cases hthere : there = place
    · subst hthere
      have hfolder : d.entryAt there ≠ some .folder := by simp [hnone]
      simp [entryAt_put_self (ne_nil_of_entryAt hfolder), hnone]
    · rw [entryAt_put_of_ne hthere]

/-- What is made last is the folder itself. Before it only folders are made. -/
theorem last_of_makeAllFrom {fuel : Nat} (h : d.makeAllFrom p fuel = .ok e) :
    ∃ m, d.SameFiles m ∧ m.makeUnlessThere p = .ok e := by
  induction fuel generalizing p e with
  | zero => exact ⟨d, .refl d, h⟩
  | succ fuel ih =>
    rw [makeAllFrom] at h
    split at h
    next hfirst =>
      cases h
      exact ⟨d, .refl d, hfirst⟩
    next =>
      split at h
      next =>
        split at h
        next => cases h
        next m hparent =>
          obtain ⟨l, hbefore, hlast⟩ := ih hparent
          obtain ⟨place, -, hmade⟩ := made_of_makeUnlessThere hlast
          exact ⟨m, hbefore.trans hmade.sameFiles, h⟩
      next => cases h

theorem sameFiles_of_makeAll (h : d.makeAll p = .ok e) : d.SameFiles e := by
  obtain ⟨m, hbefore, hlast⟩ := last_of_makeAllFrom h
  obtain ⟨place, -, hmade⟩ := made_of_makeUnlessThere hlast
  exact hbefore.trans hmade.sameFiles

/-- A folder that has been made with all above it is there. -/
theorem hasFolder_of_makeAll (h : d.makeAll p = .ok e) : ∃ place, e.HasFolder p place := by
  obtain ⟨m, -, hlast⟩ := last_of_makeAllFrom h
  obtain ⟨place, hplace, hmade⟩ := made_of_makeUnlessThere hlast
  exact ⟨place, hmade.hasFolder hplace⟩

theorem makeUnlessThere_of_hasFolder (h : d.HasFolder p place) : d.makeUnlessThere p = .ok d := by
  simp [makeUnlessThere, makeOne, isFolder, locate_of_leadsTo h.leadsTo, h.folder]

/-- A folder that is there is not made again. -/
theorem HasFolder.makeAll (h : d.HasFolder p place) : d.makeAll p = .ok d := by
  have hthere := makeUnlessThere_of_hasFolder h
  unfold Disk.makeAll
  cases p.parts.length with
  | zero => exact hthere
  | succ fuel => simp only [makeAllFrom, hthere]

theorem makeAll_again (h : d.makeAll p = .ok e) : e.makeAll p = .ok e := by
  obtain ⟨place, hfolder⟩ := hasFolder_of_makeAll h
  exact hfolder.makeAll

/-- Where nothing is missing on the way, only the folder itself is made. -/
theorem made_of_makeAll (hmissing : d.locate p ≠ .error .missing) (h : d.makeAll p = .ok e) :
    ∃ place, d.LeadsTo p place ∧ Made d place e := by
  unfold makeAll at h
  cases hfuel : p.parts.length with
  | zero => exact made_of_makeUnlessThere (by rwa [hfuel] at h)
  | succ fuel =>
    rw [hfuel, makeAllFrom] at h
    split at h
    next hfirst =>
      cases h
      exact made_of_makeUnlessThere hfirst
    next f hfirst =>
      have hfault : f.fault ≠ .missing := by
        cases hlocate : d.locate p with
        | error g =>
          rw [makeUnlessThere_of_error hlocate] at hfirst
          cases hfirst
          exact fun hg => hmissing (hg ▸ hlocate)
        | ok spot =>
          have hplace := (locate_eq_ok.mp hlocate).1
          rcases makeUnlessThere_of_leadsTo hplace with ⟨made, hmade, -⟩ | hexists
          · simp [hfirst] at hmade
          · rw [hfirst] at hexists
            cases hexists
            simp
      simp [hfault] at h

/-- A name in a folder leads to its place, if it leads anywhere. -/
theorem HasFolder.placeIn_of_leadsTo (h : d.HasFolder p place)
    (hq : d.LeadsTo { p with parts := p.parts ++ [name] } there) : there = placeIn place name := by
  have hwalk : d.walk place [name] = .ok there :=
    (walk_append_of_ok h.leadsTo.2).symm.trans hq.2
  rcases walk_cons_eq_ok.mp hwalk with ⟨-, ⟨hup, hend⟩ | ⟨hname, -, hend⟩⟩
  · cases hend
    rw [placeIn, if_pos hup]
  · cases hend
    rw [placeIn, if_neg hname]

theorem HasFolder.locate_ne_missing (h : d.HasFolder p place) (name : String) :
    d.locate { p with parts := p.parts ++ [name] } ≠ .error .missing := by
  unfold locate
  split
  next f hfault =>
    rintro ⟨⟩
    exact absurd (isOfPath_of_pathFault? hfault) Bool.false_ne_true
  next =>
    rw [walk_append_of_ok h.leadsTo.2, walk_name h.folder]
    split
    · simp [Except.map]
    · split <;> simp [Except.map]

/-- A folder in one that is there is made at its place. -/
theorem HasFolder.made (h : d.HasFolder p place)
    (hmake : d.makeAll { p with parts := p.parts ++ [name] } = .ok e) :
    d.LeadsTo { p with parts := p.parts ++ [name] } (placeIn place name) ∧
      Made d (placeIn place name) e := by
  obtain ⟨there, hthere, hmade⟩ := made_of_makeAll (h.locate_ne_missing name) hmake
  obtain rfl := h.placeIn_of_leadsTo hthere
  exact ⟨hthere, hmade⟩

/-- A file that is written anew holds the text. -/
theorem write_eq_ok (h : d.write p text = .ok e) :
    ∃ place, d.LeadsTo p place ∧ d.entryAt place ≠ some .folder ∧ place ∉ d.closed ∧
      e = d.put place (.file (Text.octetsOf text)) :=
  update_eq_ok h

/-- Two disks hold the same but at one place. -/
def SameBut (place : List String) (d e : Disk) : Prop :=
  ∀ there, there ≠ place → e.entryAt there = d.entryAt there

theorem sameBut_put (d : Disk) (place : List String) (new : Entry) :
    d.SameBut place (d.put place new) := fun _ hthere => entryAt_put_of_ne hthere d new

/-- A file that is put somewhere leaves the way to what is in a folder. -/
theorem HasFolder.locate_put (h : d.HasFolder p above) (hfolder : d.entryAt place ≠ some .folder)
    (new : Entry) (name : String) : (d.put place new).locate { p with parts := p.parts ++ [name] } =
      (d.locate { p with parts := p.parts ++ [name] }).map fun spot =>
        (spot.1, (d.put place new).entryAt spot.1) := by
  have hput : (d.put place new).HasFolder p above := h.put hfolder
  unfold locate
  cases pathFault? { p with parts := p.parts ++ [name] } with
  | some f => rfl
  | none =>
    dsimp only
    rw [walk_append_of_ok h.leadsTo.2, walk_append_of_ok hput.leadsTo.2, walk_name h.folder,
      walk_name hput.folder]
    split
    next => rfl
    next => split <;> rfl

/-- Whether a file opens is told by its place. -/
theorem write_eq (h : d.LeadsTo p place) (text : String) : d.write p text =
    if d.entryAt place = some .folder then .error ⟨.isFolder, p⟩
    else if place ∈ d.closed then .error ⟨.denied, p⟩
    else .ok (d.put place (.file (Text.octetsOf text))) := by
  have hlocate := locate_of_leadsTo h
  unfold write update
  split <;> simp_all

/-- What is in one file makes no difference to the writing of another, or of the same. -/
theorem HasFolder.write_put (h : d.HasFolder p above) (hfolder : d.entryAt place ≠ some .folder)
    (octets : Text.Octets) (name text : String) :
    (∃ f, d.write { p with parts := p.parts ++ [name] } text = .error f ∧
      (d.put place (.file octets)).write { p with parts := p.parts ++ [name] } text = .error f) ∨
    ∃ e e', d.write { p with parts := p.parts ++ [name] } text = .ok e ∧
      (d.put place (.file octets)).write { p with parts := p.parts ++ [name] } text = .ok e' ∧
      e.SameBut place e' := by
  have hput := h.locate_put hfolder (.file octets) name
  cases hlocate : d.locate { p with parts := p.parts ++ [name] } with
  | error f =>
    rw [hlocate] at hput
    exact .inl ⟨_, by rw [write, update, hlocate], by rw [write, update, hput]; rfl⟩
  | ok spot =>
    obtain ⟨there, found⟩ := spot
    obtain ⟨hthere, -⟩ := locate_eq_ok.mp hlocate
    rw [hlocate] at hput
    obtain ⟨hthere', -⟩ := locate_eq_ok.mp hput
    have hentry : (d.put place (.file octets)).entryAt there = some .folder ↔
        d.entryAt there = some .folder := by
      by_cases hplace : there = place
      · subst hplace
        simp [entryAt_put_self (ne_nil_of_entryAt hfolder), hfolder]
      · rw [entryAt_put_of_ne hplace]
    rw [write_eq hthere, write_eq hthere', put_closed]
    simp only [hentry]
    split
    next => exact .inl ⟨_, rfl, rfl⟩
    next hopen =>
      split
      next => exact .inl ⟨_, rfl, rfl⟩
      next =>
        refine .inr ⟨_, _, rfl, rfl, fun other hother => ?_⟩
        by_cases hsame : other = there
        · subst hsame
          have hnil := ne_nil_of_entryAt hopen
          rw [entryAt_put_self hnil, entryAt_put_self hnil]
        · rw [entryAt_put_of_ne hsame, entryAt_put_of_ne hsame, entryAt_put_of_ne hother]

/-- A path leads to a place, and a file that can be read is there. -/
structure HasFile (d : Disk) (p : Path) (place : List String) (octets : Text.Octets) : Prop where
  leadsTo : d.LeadsTo p place
  file : d.entryAt place = some (.file octets)
  isOpen : place ∉ d.closed

theorem HasFile.read (h : d.HasFile p place octets) : d.read p = .ok octets := by
  simp [Disk.read, locate_of_leadsTo h.leadsTo, h.file, h.isOpen]

theorem hasFile_put (hplace : d.LeadsTo p place) (hfolder : d.entryAt place ≠ some .folder)
    (hclosed : place ∉ d.closed) (octets : Text.Octets) :
    (d.put place (.file octets)).HasFile p place octets where
  leadsTo := hplace.put hfolder
  file := entryAt_put_self (ne_nil_of_entryAt hfolder) d _
  isOpen := by rwa [put_closed]

/-- A file stays as it is when something is put elsewhere. -/
theorem HasFile.put (h : d.HasFile p there octets) (hfolder : d.entryAt place ≠ some .folder)
    (hne : there ≠ place) : (d.put place new).HasFile p there octets where
  leadsTo := h.leadsTo.put hfolder
  file := (entryAt_put_of_ne hne d new).trans h.file
  isOpen := by
    rw [put_closed]
    exact h.isOpen

theorem HasFile.made (h : d.HasFile p there octets) (hmade : Made d place e) :
    e.HasFile p there octets := by
  cases hmade with
  | before => exact h
  | now hnone =>
    have hne : there ≠ place := by
      rintro rfl
      simp [h.file] at hnone
    exact h.put (by simp [hnone]) hne

end Gleaner.Disk
