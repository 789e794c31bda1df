import Gleaner.Proofs.Disk.Content
import Gleaner.Store.Files

/-! What saving and flushing do to what waits for a domain, and to the files of a store. -/

namespace Gleaner.Store

section Adjust

variable {β : Type} {name other : String} {default : β} {change : β → β}
  {entries : List (String × β)}

/-- The value of a name, or the default of a name that is not there. -/
def valueOf (name : String) (default : β) (entries : List (String × β)) : β :=
  ((entries.find? (·.1 = name)).map (·.2)).getD default

theorem valueOf_adjust_self :
    valueOf name default (adjust name default change entries) =
      change (valueOf name default entries) := by
  induction entries with
  | nil => simp [valueOf, adjust]
  | cons entry rest ih =>
    obtain ⟨first, b⟩ := entry
    by_cases h : first = name
    · simp [valueOf, adjust, h]
    · simpa [valueOf, adjust, h] using ih

theorem valueOf_adjust_of_ne (hne : other ≠ name) (d : β) :
    valueOf other d (adjust name default change entries) = valueOf other d entries := by
  induction entries with
  | nil => simp [valueOf, adjust, hne.symm]
  | cons entry rest ih =>
    obtain ⟨first, b⟩ := entry
    by_cases h : first = name
    · subst h
      simp [valueOf, adjust, hne.symm]
    · by_cases hfirst : first = other
      · subst hfirst
        simp [valueOf, adjust, h]
      · simpa [valueOf, adjust, h, hfirst] using ih

theorem valueOf_of_notMem (h : name ∉ entries.map (·.1)) :
    valueOf name default entries = default := by
  have hnone : entries.find? (·.1 = name) = none := by
    rw [List.find?_eq_none]
    intro entry hentry hname
    exact h (List.mem_map.mpr ⟨entry, hentry, by simpa using hname⟩)
  rw [valueOf, hnone]
  rfl

end Adjust

namespace Files

variable {s t : Files} {d : Disk} {domain other url : String} {record : Raw}
  {records : List Raw}

/-- So many records of a domain are written. -/
def writtenOf (s : Files) (domain : String) : Nat := valueOf domain 0 s.written

/-- The domain to which the record of an address goes. -/
def domainFor (url : String) : String :=
  if (Url.domainOf url).1 = "" then noDomain else (Url.domainOf url).1

/-- Each record has a line of its own, in order. -/
def HasLines (records : List Raw) (lines : List String) : Prop :=
  List.Forall₂ (fun record line => recordText .line record = .ok line) records lines

theorem linesOf_eq_ok {lines : List String} : linesOf records = .ok lines ↔
    HasLines records lines := by
  induction records generalizing lines with
  | nil =>
    constructor
    · intro h
      cases h
      exact .nil
    · intro h
      cases h
      rfl
  | cons record records ih =>
    rw [linesOf]
    cases hline : recordText .line record with
    | error u =>
      constructor
      · intro h
        cases h
      · intro h
        cases h with
        | cons hfirst _ => simp [hline] at hfirst
    | ok line =>
      constructor
      · intro h
        obtain ⟨rest, hrest, rfl⟩ := eq_ok_of_map h
        exact .cons hline (ih.mp hrest)
      · intro h
        cases h with
        | cons hfirst hrest =>
          rw [hline] at hfirst
          cases hfirst
          dsimp only
          rw [ih.mpr hrest]
          rfl

/-- A record that has a line. -/
def HasLine (record : Raw) : Prop := ∃ line, recordText .line record = .ok line

/-- A record that has a line, and the line has octets. -/
def Writable (record : Raw) : Prop :=
  ∃ line, recordText .line record = .ok line ∧ Text.stray? line = none

theorem Writable.hasLine (h : Writable record) : HasLine record := h.imp fun _ hline => hline.1

theorem HasLine.writable (h : HasLine record)
    (hsound : (recordText .line record).toOption.bind Text.stray? = none) : Writable record := by
  obtain ⟨line, hline⟩ := h
  rw [hline] at hsound
  exact ⟨line, hline, hsound⟩

theorem exists_linesOf (h : ∀ record ∈ records, HasLine record) :
    ∃ lines, linesOf records = .ok lines := by
  induction records with
  | nil => exact ⟨[], rfl⟩
  | cons record records ih =>
    obtain ⟨hfirst, hrest⟩ := List.forall_mem_cons.mp h
    obtain ⟨line, hline⟩ := hfirst
    obtain ⟨lines, hlines⟩ := ih hrest
    exact ⟨line :: lines, linesOf_eq_ok.mpr (.cons hline (linesOf_eq_ok.mp hlines))⟩

theorem HasLines.hasLine {lines : List String} (h : HasLines records lines) :
    ∀ record ∈ records, HasLine record := by
  induction h with
  | nil => exact nofun
  | @cons record line _ _ hline _ ih => exact List.forall_mem_cons.mpr ⟨⟨line, hline⟩, ih⟩

/-- All lines have octets just if all records can be written. -/
theorem HasLines.sound_iff {lines : List String} (h : HasLines records lines) :
    lines.findSome? Text.stray? = none ↔ ∀ record ∈ records, Writable record := by
  rw [List.findSome?_eq_none_iff]
  induction h with
  | nil => simp
  | @cons record line _ _ hline _ ih =>
    have hfirst : Text.stray? line = none ↔ Writable record := by
      constructor
      · exact fun hsound => ⟨line, hline, hsound⟩
      · rintro ⟨other, hother, hsound⟩
        cases hline.symm.trans hother
        exact hsound
    rw [List.forall_mem_cons, List.forall_mem_cons, hfirst, ih]

theorem exists_not_writable {lines : List String} {t : Text.Stray}
    (hall : linesOf records = .ok lines) (hstray : lines.findSome? Text.stray? = some t) :
    ∃ record ∈ records, ¬ Writable record := by
  by_contra hwritable
  push Not at hwritable
  have hsound := (linesOf_eq_ok.mp hall).sound_iff.mpr hwritable
  simp [hstray] at hsound

theorem soundLines_eq_self {lines : List String} (h : lines.findSome? Text.stray? = none) :
    soundLines lines = lines := by
  rw [soundLines, List.takeWhile_eq_self_iff]
  intro line hline
  rw [List.findSome?_eq_none_iff.mp h line hline]
  rfl

theorem fileOf_congr (h : t.root = s.root) : t.fileOf = s.fileOf := by
  funext domain
  rw [fileOf, fileOf, h]

/-- Two stores tell the same of every domain. -/
structure Alike (s t : Files) : Prop where
  root : t.root = s.root
  limit : t.limit = s.limit
  waiting : ∀ domain, t.waitingOf domain = s.waitingOf domain
  written : ∀ domain, t.writtenOf domain = s.writtenOf domain

/-- The store after all that waited for a domain has been written. -/
structure Cleared (s t : Files) (domain : String) : Prop where
  root : t.root = s.root
  limit : t.limit = s.limit
  waiting : t.waitingOf domain = []
  written : t.writtenOf domain = s.writtenOf domain + (s.waitingOf domain).length
  others_waiting : ∀ other, other ≠ domain → t.waitingOf other = s.waitingOf other
  others_written : ∀ other, other ≠ domain → t.writtenOf other = s.writtenOf other

theorem alike_adjust (s : Files) (domain : String) :
    Alike s { s with waiting := adjust domain [] id s.waiting } := by
  refine ⟨rfl, rfl, ?_, fun _ => rfl⟩
  intro other
  by_cases h : other = domain
  · subst h
    exact valueOf_adjust_self
  · exact valueOf_adjust_of_ne h []

theorem cleared_adjust (h : Alike s t) (domain : String) :
    Cleared s { t with
      waiting := adjust domain [] (fun _ => []) t.waiting
      written := adjust domain 0 (· + (s.waitingOf domain).length) t.written } domain where
  root := h.root
  limit := h.limit
  waiting := valueOf_adjust_self
  written := by
    rw [← h.written domain]
    exact valueOf_adjust_self
  others_waiting := by
    intro other hother
    rw [← h.waiting other]
    exact valueOf_adjust_of_ne hother []
  others_written := by
    intro other hother
    rw [← h.written other]
    exact valueOf_adjust_of_ne hother 0

/-- Why a flush writes nothing, and what it comes to. -/
inductive Idle (s : Files) (d : Disk) (domain : String) : Except Failure (Option Path) → Prop where
  | empty : s.waitingOf domain = [] → Idle s d domain (.ok none)
  /-- A record has no line. -/
  | unwritten {u : Unwritable} : linesOf (s.waitingOf domain) = .error u →
      Idle s d domain (.error (.record u))
  /-- The file does not open. -/
  | shut {lines : List String} : s.waitingOf domain ≠ [] →
      linesOf (s.waitingOf domain) = .ok lines → ¬ d.opens (s.fileOf domain) →
      Disk.pathFault? (s.fileOf domain) = none → Idle s d domain (.ok none)
  /-- No file has such a path. -/
  | refused {f : Disk.Failure} : s.waitingOf domain ≠ [] →
      (Disk.pathFault? (s.fileOf domain)).isSome → Idle s d domain (.error (.disk f))

/-- What a flush comes to. -/
inductive Flushed (s : Files) (d : Disk) (domain : String) (step : Step Files (Option Path)) :
    Prop where
  | idle (alike : Alike s step.store) (disk : step.disk = d) (cause : Idle s d domain step.result)
  /-- Some lines are written, up to one that has no octets, and all records go on waiting. -/
  | cut {lines : List String} {t : Text.Stray} (alike : Alike s step.store)
      (waits : s.waitingOf domain ≠ []) (all : linesOf (s.waitingOf domain) = .ok lines)
      (stray : lines.findSome? Text.stray? = some t)
      (append : d.append (s.fileOf domain) (joined (soundLines lines)) = .ok step.disk)
      (result : step.result = .error (.text t))
  /-- All that waits is written. -/
  | whole {lines : List String} (cleared : Cleared s step.store domain)
      (waits : s.waitingOf domain ≠ []) (all : linesOf (s.waitingOf domain) = .ok lines)
      (sound : lines.findSome? Text.stray? = none)
      (append : d.append (s.fileOf domain) (joined lines) = .ok step.disk)
      (result : step.result = .ok (some (s.fileOf domain)))

theorem flushed (s : Files) (d : Disk) (domain : String) :
    Flushed s d domain (s.flush d domain) := by
  have halike := alike_adjust s domain
  have hwaiting : waitingOf { s with waiting := adjust domain [] id s.waiting } domain =
      s.waitingOf domain := halike.waiting domain
  have hfile : fileOf { s with waiting := adjust domain [] id s.waiting } domain =
      s.fileOf domain := rfl
  unfold flush
  dsimp only
  rw [hwaiting, hfile]
  by_cases hempty : s.waitingOf domain = []
  · simp only [hempty, List.isEmpty_nil, if_true]
    exact .idle halike rfl (.empty hempty)
  · have hsome : (s.waitingOf domain).isEmpty = false := by
      simpa using hempty
    simp only [hsome, Bool.false_eq_true, if_false]
    cases hlines : linesOf (s.waitingOf domain) with
    | error u => exact .idle halike rfl (.unwritten hlines)
    | ok lines =>
      dsimp only
      cases happend : d.append (s.fileOf domain) (joined (soundLines lines)) with
      | error f =>
        have hclosed : ¬ d.opens (s.fileOf domain) := by
          intro hopens
          obtain ⟨e, he⟩ := Disk.append_of_opens hopens (joined (soundLines lines))
          simp [he] at happend
        have hfault := Disk.fault_update happend
        dsimp only
        cases hpath : Disk.pathFault? (s.fileOf domain) with
        | none =>
          have hsystem : isSystemFault f = true := by simp [isSystemFault, hfault, hpath]
          simp only [hsystem, if_true]
          exact .idle halike rfl (.shut hempty hlines hclosed hpath)
        | some g =>
          have hsystem : isSystemFault f = false := by simp [isSystemFault, hfault, hpath]
          simp only [hsystem, Bool.false_eq_true, if_false]
          exact .idle halike rfl (.refused hempty (by simp [hpath]))
      | ok e =>
        dsimp only
        cases hstray : lines.findSome? Text.stray? with
        | some t => exact .cut halike hempty hlines hstray happend rfl
        | none =>
          rw [soundLines_eq_self hstray] at happend
          exact .whole (cleared_adjust halike domain) hempty hlines hstray happend rfl

/-- A flush leaves the store as it was, or with nothing that waits for the domain. -/
theorem store_flush (s : Files) (d : Disk) (domain : String) :
    Alike s (s.flush d domain).store ∨ Cleared s (s.flush d domain).store domain := by
  cases flushed s d domain with
  | idle halike => exact .inl halike
  | cut halike => exact .inl halike
  | whole hcleared => exact .inr hcleared

/-- A flush leaves the disk as it was, or writes to the file of the domain. -/
theorem disk_flush (s : Files) (d : Disk) (domain : String) :
    (s.flush d domain).disk = d ∨ s.waitingOf domain ≠ [] ∧
      ∃ text, d.append (s.fileOf domain) text = .ok (s.flush d domain).disk := by
  cases flushed s d domain with
  | idle _ hdisk => exact .inl hdisk
  | cut _ hwaits _ _ happend => exact .inr ⟨hwaits, _, happend⟩
  | whole _ hwaits _ _ happend => exact .inr ⟨hwaits, _, happend⟩

/-- The store with one more record that waits. -/
def receive (s : Files) (domain : String) (record : Raw) : Files :=
  { s with waiting := adjust domain [] (· ++ [record]) s.waiting }

theorem waitingOf_receive (s : Files) (domain : String) (record : Raw) :
    (s.receive domain record).waitingOf domain = s.waitingOf domain ++ [record] :=
  valueOf_adjust_self

theorem waitingOf_receive_of_ne (s : Files) (record : Raw) (hne : other ≠ domain) :
    (s.receive domain record).waitingOf other = s.waitingOf other :=
  valueOf_adjust_of_ne hne []

theorem writable_receive (hlines : ∀ record ∈ s.waitingOf domain, Writable record)
    (hrecord : Writable record) :
    ∀ r ∈ (s.receive domain record).waitingOf domain, Writable r := by
  intro r hr
  rw [waitingOf_receive] at hr
  rcases List.mem_append.mp hr with hr | hr
  · exact hlines r hr
  · rw [List.mem_singleton.mp hr]
    exact hrecord

theorem save_eq (s : Files) (d : Disk) (url : String) (record : Raw) :
    ((s.save d url record).store, (s.save d url record).disk) =
      if s.limit ≤ ((s.receive (domainFor url) record).waitingOf (domainFor url)).length then
        (((s.receive (domainFor url) record).flush d (domainFor url)).store,
          ((s.receive (domainFor url) record).flush d (domainFor url)).disk)
      else (s.receive (domainFor url) record, d) := by
  unfold save receive domainFor
  rcases Url.domainOf url with ⟨found, notes⟩
  dsimp only
  generalize (if found = "" then noDomain else found) = domain
  split <;> rfl

theorem result_save (s : Files) (d : Disk) (url : String) (record : Raw) :
    (s.save d url record).result =
      if s.limit ≤ ((s.receive (domainFor url) record).waitingOf (domainFor url)).length then
        ((s.receive (domainFor url) record).flush d (domainFor url)).result.map fun _ =>
          some (s.fileOf (domainFor url))
      else .ok (some (s.fileOf (domainFor url))) := by
  unfold save receive domainFor
  rcases Url.domainOf url with ⟨found, notes⟩
  dsimp only
  generalize (if found = "" then noDomain else found) = domain
  split <;> rfl

theorem fileOf_flush (s : Files) (d : Disk) (domain : String) :
    (s.flush d domain).store.fileOf = s.fileOf := by
  rcases store_flush s d domain with halike | hcleared
  · exact fileOf_congr halike.root
  · exact fileOf_congr hcleared.root

theorem opens_flush (s : Files) (d : Disk) (domain : String) (p : Path) :
    (s.flush d domain).disk.opens p = d.opens p := by
  rcases disk_flush s d domain with hdisk | ⟨-, text, happend⟩
  · rw [hdisk]
  · exact Disk.opens_append happend

theorem waitingOf_flush_of_ne (s : Files) (d : Disk) (hne : other ≠ domain) :
    (s.flush d domain).store.waitingOf other = s.waitingOf other := by
  rcases store_flush s d domain with halike | hcleared
  · exact halike.waiting other
  · exact hcleared.others_waiting other hne

/-- Nothing waits for a domain after its records, all of which can be written, went to a file that
opens. -/
theorem waitingOf_flush (hlines : ∀ record ∈ s.waitingOf domain, Writable record)
    (hopens : s.waitingOf domain ≠ [] → d.opens (s.fileOf domain)) :
    (s.flush d domain).store.waitingOf domain = [] ∧
      ∃ file, (s.flush d domain).result = .ok file := by
  cases flushed s d domain with
  | idle halike _ hcause =>
    rw [halike.waiting]
    generalize hresult : (s.flush d domain).result = result at hcause
    cases hcause with
    | empty hempty => exact ⟨hempty, none, rfl⟩
    | unwritten hu =>
      obtain ⟨lines, hall⟩ := exists_linesOf fun record hrecord => (hlines record hrecord).hasLine
      simp [hu] at hall
    | shut hwaits _ hclosed => exact absurd (hopens hwaits) hclosed
    | refused hwaits hpath =>
      obtain ⟨place, hplace, -⟩ := Disk.opens_iff.mp (hopens hwaits)
      simp [hplace.1] at hpath
  | cut _ _ hall hstray =>
    obtain ⟨record, hrecord, hbad⟩ := exists_not_writable hall hstray
    exact absurd (hlines record hrecord) hbad
  | whole hcleared _ _ _ _ hresult => exact ⟨hcleared.waiting, _, hresult⟩

/-- What each flush of a domain preserves is preserved when several domains are flushed. -/
theorem flushAll_preserves {P : Files → Disk → Prop}
    (hflush : ∀ s d domain, P s d → P (s.flush d domain).store (s.flush d domain).disk)
    (domains : List String) (h : P s d) :
    P (s.flushAll d domains).store (s.flushAll d domains).disk := by
  induction domains generalizing s d with
  | nil => exact h
  | cons domain rest ih =>
    have hfirst := hflush s d domain h
    rw [flushAll]
    dsimp only
    split
    · exact hfirst
    · exact ih hfirst

theorem finalize_preserves {P : Files → Disk → Prop}
    (hflush : ∀ s d domain, P s d → P (s.flush d domain).store (s.flush d domain).disk)
    (h : P s d) : P (s.finalize d).store (s.finalize d).disk :=
  flushAll_preserves hflush _ h

/-- Nothing waits after all domains went to files that open. -/
theorem waitingOf_flushAll (hlines : ∀ domain, ∀ record ∈ s.waitingOf domain, Writable record)
    (hopens : ∀ domain, s.waitingOf domain ≠ [] → d.opens (s.fileOf domain)) {domains : List String}
    (hall : other ∈ domains ∨ s.waitingOf other = []) :
    (s.flushAll d domains).store.waitingOf other = [] := by
  induction domains generalizing s d with
  | nil =>
    rcases hall with hmem | hempty
    · cases hmem
    · exact hempty
  | cons domain rest ih =>
    obtain ⟨hcleared, file, hresult⟩ := waitingOf_flush (hlines domain) (hopens domain)
    have hless : ∀ other, (s.flush d domain).store.waitingOf other = [] ∨
        (s.flush d domain).store.waitingOf other = s.waitingOf other := by
      intro other
      by_cases h : other = domain
      · rw [h]
        exact .inl hcleared
      · exact .inr (waitingOf_flush_of_ne s d h)
    rw [flushAll]
    simp only [hresult]
    apply ih
    · intro other record hrecord
      rcases hless other with h | h
      · simp [h] at hrecord
      · exact hlines other record (h ▸ hrecord)
    · intro other hsome
      rw [fileOf_flush, opens_flush]
      rcases hless other with h | h
      · exact absurd h hsome
      · exact hopens other (h ▸ hsome)
    · rcases hall with hmem | hempty
      · rcases List.mem_cons.mp hmem with rfl | hmem
        · exact .inr hcleared
        · exact .inl hmem
      · rcases hless other with h | h
        · exact .inr h
        · exact .inr (h.trans hempty)

theorem waitingOf_finalize (hlines : ∀ domain, ∀ record ∈ s.waitingOf domain, Writable record)
    (hopens : ∀ domain, s.waitingOf domain ≠ [] → d.opens (s.fileOf domain)) (domain : String) :
    (s.finalize d).store.waitingOf domain = [] := by
  apply waitingOf_flushAll hlines hopens
  by_cases h : domain ∈ s.waiting.map (·.1)
  · exact .inl h
  · exact .inr (valueOf_of_notMem h)

/-- After a save whose flush did not fail, fewer records wait than the limit says, and none if it
says nothing of use. -/
theorem waitingOf_save (hlines : ∀ record ∈ s.waitingOf (domainFor url), Writable record)
    (hrecord : Writable record)
    (hopens : s.limit ≤ (s.waitingOf (domainFor url)).length + 1 →
      d.opens (s.fileOf (domainFor url))) :
    (((s.save d url record).store.waitingOf (domainFor url)).length : Int) < max 1 s.limit := by
  have hstore := congrArg Prod.fst (save_eq s d url record)
  have hall := writable_receive hlines hrecord
  dsimp only at hstore
  rw [hstore]
  split
  next hfull =>
    rw [waitingOf_receive, List.length_append] at hfull
    have hempty := waitingOf_flush hall fun _ => hopens (by simpa using hfull)
    rw [hempty.1, List.length_nil]
    omega
  next hroom =>
    dsimp only
    omega

end Files

end Gleaner.Store
