import Gleaner.Disk.Basic
import Gleaner.Proofs.Basic
import Mathlib

/-! What is in the files of a disk, and what writing to one of them leaves as it was. -/

namespace Gleaner

namespace Text

theorem toList_loop (bytes : ByteArray) (i : Nat) (done : Octets) :
    ByteArray.toList.loop bytes i done = done.reverse ++ bytes.data.toList.drop i := by
  fun_induction ByteArray.toList.loop bytes i done with
  | case1 i done h ih =>
    have hi : i < bytes.data.toList.length := h
    have hget : bytes.get! i = bytes.data.toList[i] := by
      simp [ByteArray.get!, getElem!_pos bytes.data i h]
    rw [ih, List.reverse_cons, hget, List.append_assoc, List.singleton_append,
      List.getElem_cons_drop]
  | case2 i done h =>
    have hi : bytes.data.toList.length ≤ i := Nat.le_of_not_lt h
    rw [List.drop_eq_nil_of_le hi, List.append_nil]

@[simp] theorem octetsOf_append (a b : String) : octetsOf (a ++ b) = octetsOf a ++ octetsOf b := by
  simp [octetsOf, ByteArray.toList, toList_loop]

@[simp] theorem octetsOf_empty : octetsOf "" = [] := by
  simp [octetsOf, ByteArray.toList, toList_loop]

theorem splitAt_of_notMem {sep : Char} {cs : List Char} (h : sep ∉ cs) : splitAt sep cs = [cs] := by
  induction cs with
  | nil => rfl
  | cons c cs ih =>
    have hc : c ≠ sep := fun heq => h (heq ▸ List.mem_cons_self)
    rw [splitAt, if_neg hc, ih fun hmem => h (List.mem_cons_of_mem c hmem)]

end Text

/-- A name with no slash stands for something in the folder itself. -/
theorem Path.join_of_notMem {p : Path} {name : String} (hslash : '/' ∉ name.toList)
    (hname : isEmptyPart name = false) : p.join name = { p with parts := p.parts ++ [name] } := by
  have habsolute : name.startsWith "/" = false := by
    rw [String.startsWith_string_eq_false_iff]
    intro hstart
    exact hslash (hstart.subset (by simp))
  have hparts : partsOf name = [name] := by
    simp [partsOf, Text.splitAt_of_notMem hslash, hname]
  simp [join, ofString, habsolute, hparts]

namespace Disk

open Text (Octets)

variable {d e : Disk} {p q : Path} {place above here there names : List String}
  {found : Option Entry} {octets : Octets} {text a b : String}

/-- The content of the file at a path. Where no file is, it is empty. -/
def content (d : Disk) (p : Path) : Octets :=
  match d.locate p with
  | .ok (_, found) => held found
  | .error _ => []

/-- Whether a file at a path can be opened to write. -/
def opens (d : Disk) (p : Path) : Bool :=
  match d.locate p with
  | .ok (place, found) => found ≠ some .folder && !d.closed.contains place
  | .error _ => false

theorem entryAt_nil (d : Disk) : d.entryAt [] = some .folder := rfl

theorem entryAt_of_ne_nil (h : place ≠ []) (d : Disk) :
    d.entryAt place = (d.entries.find? fun e => e.1 = place).map (·.2) := by
  have hplace : place.isEmpty = false := by
    simpa using h
  simp only [entryAt, hplace, Bool.false_eq_true, if_false]

theorem find?_map_put (entries : List (List String × Entry)) (new : Entry) (there : List String) :
    (entries.map fun f => if f.1 = place then (place, new) else f).find? (·.1 = there) =
      if there = place then (entries.find? (·.1 = place)).map fun _ => (place, new)
      else entries.find? (·.1 = there) := by
  induction entries with
  | nil => simp
  | cons first rest ih =>
    simp only [List.map_cons, List.find?_cons]
    by_cases hfirst : first.1 = place
    · by_cases hthere : there = place
      · simp [hfirst, hthere]
      · have hother : ¬ place = there := fun h => hthere h.symm
        simp only [hfirst, if_true, hthere, if_false] at ih ⊢
        simp [hother, ih]
    · by_cases hthere : there = place
      · subst hthere
        simp only [hfirst, if_false, if_true, decide_false] at ih ⊢
        exact ih
      · simp only [hfirst, if_false, hthere] at ih ⊢
        rw [ih]

theorem entryAt_put_self (h : place ≠ []) (d : Disk) (new : Entry) :
    (d.put place new).entryAt place = some new := by
  rw [entryAt_of_ne_nil h]
  by_cases hany : d.entries.any fun f => f.1 = place
  · obtain ⟨f, hf⟩ : ∃ f, d.entries.find? (fun f => f.1 = place) = some f := by
      rw [← Option.isSome_iff_exists, List.find?_isSome]
      simpa using hany
    simp only [put, hany, if_true, find?_map_put, hf, Option.map_some]
  · have hnone : d.entries.find? (fun f => f.1 = place) = none := by
      rw [List.find?_eq_none]
      intro f hf hfirst
      exact hany (List.any_eq_true.mpr ⟨f, hf, hfirst⟩)
    simp [put, hany, List.find?_append, hnone]

theorem entryAt_put_of_ne (h : there ≠ place) (d : Disk) (new : Entry) :
    (d.put place new).entryAt there = d.entryAt there := by
  by_cases hnil : there = []
  · rw [hnil, entryAt_nil, entryAt_nil]
  · rw [entryAt_of_ne_nil hnil, entryAt_of_ne_nil hnil]
    by_cases hany : d.entries.any fun f => f.1 = place
    · simp only [put, hany, if_true, find?_map_put, h, if_false]
    · have hlast : ¬ place = there := fun hp => h hp.symm
      simp [put, hany, List.find?_append, hlast]

@[simp] theorem put_home (d : Disk) (place : List String) (new : Entry) :
    (d.put place new).home = d.home := by
  unfold put
  split <;> rfl

@[simp] theorem put_closed (d : Disk) (place : List String) (new : Entry) :
    (d.put place new).closed = d.closed := by
  unfold put
  split <;> rfl

section Put

variable (hfolder : d.entryAt place ≠ some .folder)

include hfolder

theorem ne_nil_of_entryAt : place ≠ [] := by
  rintro rfl
  exact hfolder rfl

/-- No path leads through a file, so a file that is written is on the way to no other place. -/
theorem walk_put : (d.put place (.file octets)).walk here names = .ok there ↔
    d.walk here names = .ok there := by
  induction names generalizing here with
  | nil => simp [walk]
  | cons name names ih =>
    by_cases hhere : here = place
    · subst hhere
      have hself := entryAt_put_self (ne_nil_of_entryAt hfolder) d (.file octets)
      simp only [walk, hself]
      cases hentry : d.entryAt here with
      | none => simp
      | some entry => cases entry with
        | file content => simp
        | folder => exact absurd hentry hfolder
    · have hother := entryAt_put_of_ne hhere d (.file octets)
      simp only [walk, hother]
      cases d.entryAt here with
      | none => simp
      | some entry => cases entry with
        | file content => simp
        | folder => grind

end Put

/-- The names of a path lead to a place, from the root or from the working folder. -/
def LeadsTo (d : Disk) (p : Path) (place : List String) : Prop :=
  pathFault? p = none ∧ d.walk (if p.absolute then [] else d.home) p.parts = .ok place

theorem leadsTo_unique (h : d.LeadsTo p place) (h' : d.LeadsTo p there) : place = there :=
  Except.ok.inj (h.2.symm.trans h'.2)

theorem locate_eq_ok :
    d.locate p = .ok (place, found) ↔ d.LeadsTo p place ∧ found = d.entryAt place := by
  unfold locate LeadsTo
  cases pathFault? p with
  | some f => simp
  | none =>
    cases d.walk (if p.absolute then [] else d.home) p.parts with
    | error f => simp [Except.map]
    | ok there =>
      simp only [Except.map, Except.ok.injEq, Prod.mk.injEq]
      constructor
      · rintro ⟨rfl, rfl⟩
        simp
      · rintro ⟨⟨-, rfl⟩, rfl⟩
        simp

theorem leadsTo_put (hfolder : d.entryAt place ≠ some .folder) :
    (d.put place (.file octets)).LeadsTo q there ↔ d.LeadsTo q there := by
  simp only [LeadsTo, put_home, walk_put hfolder]

theorem locate_of_leadsTo (h : d.LeadsTo p place) : d.locate p = .ok (place, d.entryAt place) :=
  locate_eq_ok.mpr ⟨h, rfl⟩

theorem content_of_leadsTo (h : d.LeadsTo p place) : d.content p = held (d.entryAt place) := by
  simp only [content, locate_of_leadsTo h]

theorem content_of_not_leadsTo (h : ∀ place, ¬ d.LeadsTo p place) : d.content p = [] := by
  cases hlocate : d.locate p with
  | error f => simp only [content, hlocate]
  | ok spot => exact absurd (locate_eq_ok.mp hlocate).1 (h spot.1)

theorem opens_iff : d.opens p ↔
    ∃ place, d.LeadsTo p place ∧ d.entryAt place ≠ some .folder ∧ place ∉ d.closed := by
  unfold opens
  cases hlocate : d.locate p with
  | error f =>
    have hnone : ∀ place, ¬ d.LeadsTo p place := by
      intro place h
      simp [locate_of_leadsTo h] at hlocate
    simp [hnone]
  | ok spot =>
    obtain ⟨place, found⟩ := spot
    obtain ⟨hplace, rfl⟩ := locate_eq_ok.mp hlocate
    constructor
    · intro h
      exact ⟨place, hplace, by simpa using h⟩
    · rintro ⟨there, hthere, h⟩
      rw [leadsTo_unique hplace hthere]
      simpa using h

/-- A file that can be opened is written at the place that its path leads to. -/
theorem update_of_leadsTo {change : Octets → Octets} (h : d.LeadsTo p place)
    (hfolder : d.entryAt place ≠ some .folder) (hclosed : place ∉ d.closed) :
    d.update p change = .ok (d.put place (.file (change (d.content p)))) := by
  rw [content_of_leadsTo h]
  have hlocate := locate_of_leadsTo h
  unfold update
  split <;> simp_all

theorem opens_of_update {change : Octets → Octets} (h : d.update p change = .ok e) :
    d.opens p := by
  unfold update at h
  cases hlocate : d.locate p with
  | error f => simp [hlocate] at h
  | ok spot =>
    obtain ⟨place, found⟩ := spot
    obtain ⟨hplace, rfl⟩ := locate_eq_ok.mp hlocate
    refine opens_iff.mpr ⟨place, hplace, ?_, ?_⟩
    · intro hfolder
      simp [hlocate, hfolder] at h
    · intro hclosed
      split at h <;> simp_all

theorem append_of_opens (h : d.opens p) (text : String) : ∃ e, d.append p text = .ok e := by
  obtain ⟨place, hplace, hfolder, hclosed⟩ := opens_iff.mp h
  exact ⟨_, update_of_leadsTo hplace hfolder hclosed⟩

/-- A file that is written is at the place that its path leads to, where no folder is. -/
theorem update_eq_ok {change : Octets → Octets} (h : d.update p change = .ok e) :
    ∃ place, d.LeadsTo p place ∧ d.entryAt place ≠ some .folder ∧ place ∉ d.closed ∧
      e = d.put place (.file (change (d.content p))) := by
  obtain ⟨place, hplace, hfolder, hclosed⟩ := opens_iff.mp (opens_of_update h)
  have hput := @update_of_leadsTo _ _ _ change hplace hfolder hclosed
  exact ⟨place, hplace, hfolder, hclosed, Except.ok.inj (h.symm.trans hput)⟩

/-- Text that is written to a file goes to the end of it. -/
theorem append_eq_ok (h : d.append p text = .ok e) :
    ∃ place, d.LeadsTo p place ∧ d.entryAt place ≠ some .folder ∧
      e = d.put place (.file (d.content p ++ Text.octetsOf text)) := by
  obtain ⟨place, hplace, hfolder, -, he⟩ := update_eq_ok h
  exact ⟨place, hplace, hfolder, he⟩

theorem content_append (h : d.append p text = .ok e) :
    e.content p = d.content p ++ Text.octetsOf text := by
  obtain ⟨place, hplace, hfolder, rfl⟩ := append_eq_ok h
  rw [content_of_leadsTo ((leadsTo_put hfolder).mpr hplace),
    entryAt_put_self (ne_nil_of_entryAt hfolder), held]

theorem isOfPath_of_walk {f : Fault} (h : d.walk here names = .error f) : f.isOfPath = false := by
  induction names generalizing here with
  | nil => cases h
  | cons name names ih =>
    rw [walk] at h
    split at h
    next =>
      cases h
      rfl
    next =>
      cases h
      rfl
    next =>
      split at h
      next => exact ih h
      next =>
        split at h
        next =>
          cases h
          rfl
        next => exact ih h

theorem isOfPath_of_pathFault? {f : Fault} (h : pathFault? p = some f) : f.isOfPath = true := by
  unfold pathFault? at h
  split at h
  next =>
    cases h
    rfl
  next =>
    split at h
    next =>
      cases h
      rfl
    next => cases h

theorem isOfPath_of_locate {f : Fault} (h : d.locate p = .error f) :
    f.isOfPath = (pathFault? p).isSome := by
  unfold locate at h
  cases hfault : pathFault? p with
  | some g =>
    rw [hfault] at h
    cases h
    exact isOfPath_of_pathFault? hfault
  | none =>
    rw [hfault] at h
    exact isOfPath_of_walk (eq_error_of_map h)

/-- A file is refused for its path itself just if there is something wrong with it. -/
theorem fault_update {change : Octets → Octets} {f : Failure} (h : d.update p change = .error f) :
    f.fault.isOfPath = (pathFault? p).isSome := by
  unfold update at h
  cases hlocate : d.locate p with
  | error g =>
    rw [hlocate] at h
    cases h
    exact isOfPath_of_locate hlocate
  | ok spot =>
    obtain ⟨place, found⟩ := spot
    rw [(locate_eq_ok.mp hlocate).1.1]
    rw [hlocate] at h
    split at h
    next heq => cases heq
    next =>
      cases h
      rfl
    next =>
      split at h
      next =>
        cases h
        rfl
      next => cases h

/-- Two paths lead to no common place. -/
def Apart (d : Disk) (p q : Path) : Prop := ∀ place, d.LeadsTo p place → ¬ d.LeadsTo q place

theorem content_append_of_apart (h : d.append p text = .ok e) (hq : d.Apart p q) :
    e.content q = d.content q := by
  obtain ⟨place, hplace, hfolder, rfl⟩ := append_eq_ok h
  by_cases hthere : ∃ there, d.LeadsTo q there
  · obtain ⟨there, hthere⟩ := hthere
    have hne : there ≠ place := by
      rintro rfl
      exact hq there hplace hthere
    rw [content_of_leadsTo hthere, content_of_leadsTo ((leadsTo_put hfolder).mpr hthere),
      entryAt_put_of_ne hne]
  · have hnone : ∀ there, ¬ d.LeadsTo q there := fun there h => hthere ⟨there, h⟩
    rw [content_of_not_leadsTo hnone,
      content_of_not_leadsTo fun there h => hnone there ((leadsTo_put hfolder).mp h)]

/-- Writing to a file leaves it open whether another file, or the same, can be opened. -/
theorem opens_append (h : d.append p text = .ok e) : e.opens q = d.opens q := by
  obtain ⟨place, hplace, hfolder, rfl⟩ := append_eq_ok h
  have hentry : ∀ there, (d.put place (.file (d.content p ++ Text.octetsOf text))).entryAt there ≠
      some .folder ↔ d.entryAt there ≠ some .folder := by
    intro there
    by_cases hthere : there = place
    · rw [hthere, entryAt_put_self (ne_nil_of_entryAt hfolder)]
      simp [hfolder]
    · rw [entryAt_put_of_ne hthere]
  rw [Bool.eq_iff_iff, opens_iff, opens_iff]
  simp only [leadsTo_put hfolder, hentry, put_closed]

/-- What a file holds does not depend on whether it can be opened. -/
theorem content_close (d : Disk) (places : List (List String)) (p : Path) :
    ({ d with closed := places } : Disk).content p = d.content p := by
  have hwalk : ∀ names here,
      ({ d with closed := places } : Disk).walk here names = d.walk here names := by
    intro names
    induction names with
    | nil => exact fun here => rfl
    | cons name names ih =>
      intro here
      have hentry : ({ d with closed := places } : Disk).entryAt here = d.entryAt here := rfl
      simp only [walk, hentry, ih]
  have hlocate : ({ d with closed := places } : Disk).locate p = d.locate p := by
    simp only [locate, hwalk]
    rfl
  simp only [content, hlocate]

/-- The last name of a path, unless it goes up, is the last one of the place. -/
theorem getLast?_of_walk (hname : a ≠ "..") (h : d.walk here (names ++ [a]) = .ok there) :
    there.getLast? = some a := by
  induction names generalizing here with
  | nil =>
    rw [List.nil_append, walk] at h
    split at h
    · cases h
    · cases h
    · rw [if_neg hname] at h
      split at h
      · cases h
      · cases h
        exact List.getLast?_concat
  | cons name names ih =>
    rw [List.cons_append, walk] at h
    split at h
    · cases h
    · cases h
    · split at h
      · exact ih h
      · split at h
        · cases h
        · exact ih h

/-- Two names in one folder. -/
theorem apart_of_ne (ha : a ≠ "..") (hb : b ≠ "..") (hne : a ≠ b) (hp : p.parts = names ++ [a])
    (hq : q.parts = above ++ [b]) : d.Apart p q := by
  intro place hplace hthere
  have hlast := getLast?_of_walk ha (hp ▸ hplace.2)
  have hlast' := getLast?_of_walk hb (hq ▸ hthere.2)
  exact hne (Option.some.inj (hlast.symm.trans hlast'))

end Disk

end Gleaner
