import Gleaner.Proofs.Store.Ledger

/-! Which files a store of a file for each domain makes: one for each domain that it has written
records of, and no other. -/

namespace Gleaner

/-- Whether a file is at a place. -/
def Disk.IsFile (d : Disk) (place : List String) : Prop :=
  ∃ octets, d.entryAt place = some (.file octets)

namespace Store.Files

variable {s t : Files} {d e start : Disk} {domain other url : String} {record : Raw}
  {root : Path} {limit : Int}

/-- Since the start, no path has changed but for files of domains that have been written. -/
structure Grown (start : Disk) (s : Files) (d : Disk) : Prop where
  leads : ∀ p place, d.LeadsTo p place ↔ start.LeadsTo p place
  opens : ∀ p, d.opens p = start.opens p
  domains : ∀ domain, s.writtenOf domain ≠ 0 → '/' ∉ domain.toList
  counted : ∀ entry ∈ s.written, entry.2 ≠ 0
  files : ∀ place, d.IsFile place ↔ start.IsFile place ∨
    ∃ domain, s.writtenOf domain ≠ 0 ∧ start.LeadsTo (s.fileOf domain) place

theorem grown_new (root : Path) (limit : Int) (start : Disk) :
    Grown start { root, limit } start where
  leads _ _ := .rfl
  opens _ := rfl
  domains _ h := absurd rfl h
  counted _ h := nomatch h
  files place := by simp [writtenOf, valueOf]

/-- The domains with a count are those of which records are written. -/
theorem Grown.mem_names (h : Grown start s d) (domain : String) :
    domain ∈ s.written.map (·.1) ↔ s.writtenOf domain ≠ 0 := by
  constructor
  · intro hmem
    obtain ⟨entry, hentry⟩ : ∃ entry, s.written.find? (·.1 = domain) = some entry := by
      rw [← Option.isSome_iff_exists, List.find?_isSome]
      simpa using hmem
    rw [writtenOf, valueOf, hentry]
    exact h.counted entry (List.mem_of_find?_eq_some hentry)
  · intro hne
    by_contra hmem
    exact hne (valueOf_of_notMem hmem)

theorem ne_zero_of_mem_adjust {name : String} {n : Nat} (hn : n ≠ 0)
    {entries : List (String × Nat)} (h : ∀ entry ∈ entries, entry.2 ≠ 0) :
    ∀ entry ∈ adjust name 0 (· + n) entries, entry.2 ≠ 0 := by
  induction entries with
  | nil => simpa [adjust] using hn
  | cons first rest ih =>
    rw [adjust]
    have hrest := ih fun entry hentry => h entry (List.mem_cons_of_mem _ hentry)
    split
    next =>
      simp only [List.mem_cons, forall_eq_or_imp]
      exact ⟨by omega, fun entry hentry => h entry (List.mem_cons_of_mem _ hentry)⟩
    next =>
      simp only [List.mem_cons, forall_eq_or_imp]
      exact ⟨h _ List.mem_cons_self, hrest⟩

theorem counted_flush (h : ∀ entry ∈ s.written, entry.2 ≠ 0) (d : Disk) (domain : String) :
    ∀ entry ∈ (s.flush d domain).store.written, entry.2 ≠ 0 := by
  unfold flush
  dsimp only
  split
  next => exact h
  next hsome =>
    split
    next => exact h
    next =>
      split
      next =>
        split
        next => exact h
        next => exact h
      next =>
        split
        next => exact h
        next => exact ne_zero_of_mem_adjust (by simpa using hsome) h

theorem isFile_put {place : List String} {octets : Text.Octets}
    (hfolder : d.entryAt place ≠ some .folder) (there : List String) :
    (d.put place (.file octets)).IsFile there ↔ there = place ∨ d.IsFile there := by
  unfold Disk.IsFile
  by_cases h : there = place
  · subst h
    simp [Disk.entryAt_put_self (Disk.ne_nil_of_entryAt hfolder)]
  · simp [Disk.entryAt_put_of_ne h, h]

theorem grown_flush (hproper : Proper root limit s) (h : Grown start s d)
    (hlines : ∀ record ∈ s.waitingOf domain, Writable record) :
    Grown start (s.flush d domain).store (s.flush d domain).disk := by
  have hcounted := counted_flush h.counted d domain
  cases flushed s d domain with
  | idle halike hdisk =>
    rw [hdisk]
    refine ⟨h.leads, h.opens, ?_, hcounted, ?_⟩
    · exact fun other hother => h.domains other (halike.written other ▸ hother)
    · simp only [halike.written, fileOf_congr halike.root]
      exact h.files
  | cut _ _ hall hstray =>
    obtain ⟨record, hrecord, hbad⟩ := exists_not_writable hall hstray
    exact absurd (hlines record hrecord) hbad
  | whole hcleared hsome _ _ happend =>
    obtain ⟨place, hplace, hfolder, hdisk⟩ := Disk.append_eq_ok happend
    have hstart := (h.leads _ _).mp hplace
    have hlength : (s.waitingOf domain).length ≠ 0 := by simpa using hsome
    have hwritten : ∀ other, (s.flush d domain).store.writtenOf other ≠ 0 ↔
        other = domain ∨ s.writtenOf other ≠ 0 := by
      intro other
      by_cases hother : other = domain
      · subst hother
        rw [hcleared.written]
        simp only [true_or, iff_true]
        omega
      · simp [hcleared.others_written other hother, hother]
    refine ⟨?_, ?_, ?_, hcounted, ?_⟩
    · intro p there
      rw [hdisk, Disk.leadsTo_put hfolder]
      exact h.leads p there
    · intro p
      rw [Disk.opens_append happend]
      exact h.opens p
    · intro other hother
      rcases (hwritten other).mp hother with rfl | hbefore
      · exact hproper.domains other hsome
      · exact h.domains other hbefore
    · intro there
      rw [hdisk, isFile_put hfolder, h.files]
      simp only [hwritten, fileOf_congr hcleared.root]
      constructor
      · rintro (rfl | hfile | ⟨other, hother, hleads⟩)
        · exact .inr ⟨domain, .inl rfl, hstart⟩
        · exact .inl hfile
        · exact .inr ⟨other, .inr hother, hleads⟩
      · rintro (hfile | ⟨other, rfl | hother, hleads⟩)
        · exact .inr (.inl hfile)
        · exact .inl (Disk.leadsTo_unique hleads hstart)
        · exact .inr (.inr ⟨other, hother, hleads⟩)

theorem grown_save (hproper : Proper root limit s) (h : Grown start s d)
    (hlines : ∀ record ∈ s.waitingOf (domainFor url), Writable record)
    (hrecord : Writable record) :
    Grown start (s.save d url record).store (s.save d url record).disk := by
  have hreceive : Grown start (s.receive (domainFor url) record) d :=
    ⟨h.leads, h.opens, h.domains, h.counted, h.files⟩
  have hflush := grown_flush (proper_receive hproper url record) hreceive
    (writable_receive hlines hrecord)
  have hsave := save_eq s d url record
  split at hsave
  next =>
    rw [(Prod.mk.inj hsave).1, (Prod.mk.inj hsave).2]
    exact hflush
  next =>
    rw [(Prod.mk.inj hsave).1, (Prod.mk.inj hsave).2]
    exact hreceive

theorem mem_waitingOf_flush (h : record ∈ (s.flush d domain).store.waitingOf other) :
    record ∈ s.waitingOf other := by
  rcases store_flush s d domain with halike | hcleared
  · rwa [halike.waiting] at h
  · by_cases hother : other = domain
    · rw [hother, hcleared.waiting] at h
      cases h
    · rwa [hcleared.others_waiting other hother] at h

theorem writable_save (h : ∀ domain, ∀ record ∈ s.waitingOf domain, Writable record)
    (hrecord : Writable record) :
    ∀ domain, ∀ r ∈ (s.save d url record).store.waitingOf domain, Writable r := by
  have hreceive : ∀ domain, ∀ r ∈ (s.receive (domainFor url) record).waitingOf domain,
      Writable r := by
    intro domain r hr
    by_cases hdomain : domain = domainFor url
    · subst hdomain
      exact writable_receive (h _) hrecord r hr
    · rw [waitingOf_receive_of_ne s record hdomain] at hr
      exact h domain r hr
  have hsave := congrArg Prod.fst (save_eq s d url record)
  dsimp only at hsave
  rw [hsave]
  split
  next => exact fun domain r hr => hreceive domain r (mem_waitingOf_flush hr)
  next => exact hreceive

/-- A record that can be written is kept for a file that opens. -/
theorem save_result (hlines : ∀ record ∈ s.waitingOf (domainFor url), Writable record)
    (hrecord : Writable record) (hopens : d.opens (s.fileOf (domainFor url))) :
    (s.save d url record).result = .ok (some (s.fileOf (domainFor url))) := by
  obtain ⟨-, file, hflush⟩ := waitingOf_flush (writable_receive hlines hrecord) fun _ => hopens
  rw [result_save, hflush]
  split <;> rfl

theorem grown_finalize (hproper : Proper root limit s) (h : Grown start s d)
    (hlines : ∀ domain, ∀ record ∈ s.waitingOf domain, Writable record) :
    Grown start (s.finalize d).store (s.finalize d).disk := by
  have hflush : ∀ s d domain,
      (Proper root limit s ∧ ∀ other, ∀ record ∈ s.waitingOf other, Writable record) ∧
        Grown start s d →
      (Proper root limit (s.flush d domain).store ∧
        ∀ other, ∀ record ∈ (s.flush d domain).store.waitingOf other, Writable record) ∧
        Grown start (s.flush d domain).store (s.flush d domain).disk :=
    fun s d domain h => ⟨⟨proper_flush h.1.1 d domain, fun other record hrecord =>
      h.1.2 other record (mem_waitingOf_flush hrecord)⟩, grown_flush h.1.1 h.2 (h.1.2 domain)⟩
  have hall := finalize_preserves
    (P := fun s d => (Proper root limit s ∧ ∀ other, ∀ record ∈ s.waitingOf other,
      Writable record) ∧ Grown start s d) hflush ⟨⟨hproper, hlines⟩, h⟩
  exact hall.2

section Settled

variable {actions others : List Action}

theorem exists_of_savedFor (h : savedFor domain actions ≠ []) :
    ∃ url record, Action.save url record ∈ actions ∧ domainFor url = domain := by
  obtain ⟨record, hrecord⟩ := List.exists_mem_of_ne_nil _ h
  obtain ⟨a, ha, hmem⟩ := List.mem_flatMap.mp hrecord
  cases a with
  | save url saved =>
    rw [Action.recordsFor] at hmem
    split at hmem
    next hdomain => exact ⟨url, saved, ha, hdomain⟩
    next => cases hmem
  | flush domain => cases hmem
  | finalize => cases hmem
  | close places => cases hmem

theorem savedFor_of_slash (actions : List Action) (hslash : '/' ∈ domain.toList) :
    savedFor domain actions = [] := by
  by_contra hsome
  obtain ⟨url, record, -, rfl⟩ := exists_of_savedFor hsome
  exact slash_notMem_domainFor url hslash

theorem proper_of_run (hrun : run actions ({ root, limit }, start) = (s, d)) :
    Proper root limit s := by
  have hend := proper_run actions start (proper_new root limit)
  rwa [hrun] at hend

/-- After a run from the start, what was saved for a domain is in its file or waits. -/
theorem balanced_of_run (hrun : run actions ({ root, limit }, start) = (s, d))
    (hsaved : ∀ record ∈ savedFor domain actions, Writable record) (hslash : '/' ∉ domain.toList) :
    Balanced start s d domain (savedFor domain actions) := by
  have hend := balanced_run actions (proper_new root limit) hslash hsaved
    (balanced_new root limit start domain)
  rwa [hrun, List.nil_append] at hend

/-- What waits after a run was saved in it. -/
theorem mem_savedFor_of_run (hrun : run actions ({ root, limit }, start) = (s, d))
    (hsaved : ∀ record ∈ savedFor domain actions, Writable record)
    (hrecord : record ∈ s.waitingOf domain) : record ∈ savedFor domain actions := by
  have hslash := (proper_of_run hrun).domains domain (List.ne_nil_of_mem hrecord)
  rw [(balanced_of_run hrun hsaved hslash).waiting] at hrecord
  exact List.mem_of_mem_drop hrecord

/-- All that was saved is written, to a file for each of its domains. -/
structure Settled (root : Path) (start : Disk) (actions : List Action) (s : Files) (d : Disk) :
    Prop where
  root : s.root = root
  waiting : ∀ domain, s.waitingOf domain = []
  written : ∀ domain, s.writtenOf domain = (savedFor domain actions).length
  names : ∀ domain, domain ∈ s.written.map (·.1) ↔ savedFor domain actions ≠ []
  lines : ∀ domain, '/' ∉ domain.toList → ∃ records lines,
    records.Perm (savedFor domain actions) ∧ HasLines records lines ∧
      d.content (s.fileOf domain) = start.content (s.fileOf domain) ++
        Text.octetsOf (String.join (lines.map (· ++ "\n")))
  files : ∀ place, d.IsFile place ↔ start.IsFile place ∨
    ∃ domain, savedFor domain actions ≠ [] ∧ start.LeadsTo (s.fileOf domain) place

/-- What is settled does not tell in which order it was saved. -/
theorem Settled.perm (h : Settled root start actions s d) (hperm : actions.Perm others) :
    Settled root start others s d := by
  have hsaved : ∀ domain, (savedFor domain actions).Perm (savedFor domain others) :=
    fun domain => hperm.flatMap_right _
  have hnil : ∀ domain, savedFor domain actions ≠ [] ↔ savedFor domain others ≠ [] := by
    intro domain
    rw [← List.length_pos_iff, ← List.length_pos_iff, (hsaved domain).length_eq]
  refine ⟨h.root, h.waiting, ?_, ?_, ?_, ?_⟩
  · exact fun domain => (h.written domain).trans (hsaved domain).length_eq
  · exact fun domain => (h.names domain).trans (hnil domain)
  · intro domain hslash
    obtain ⟨records, lines, hrecords, hlines⟩ := h.lines domain hslash
    exact ⟨records, lines, hrecords.trans (hsaved domain), hlines⟩
  · intro place
    simp only [h.files, hnil]

theorem grown_run (hproper : Proper root limit s) (h : Grown start s d)
    (hlines : ∀ domain, ∀ record ∈ s.waitingOf domain, Writable record)
    (hsaves : ∀ a ∈ actions, ∃ url record, a = .save url record ∧ Writable record) :
    Grown start (run actions (s, d)).1 (run actions (s, d)).2 := by
  induction actions generalizing s d with
  | nil => exact h
  | cons a rest ih =>
    obtain ⟨url, record, rfl, hrecord⟩ := hsaves a List.mem_cons_self
    have hsave := grown_save hproper h (hlines (domainFor url)) hrecord
    have hfirst : run (.save url record :: rest) (s, d) =
        run rest ((s.save d url record).store, (s.save d url record).disk) := rfl
    rw [hfirst]
    exact ih (proper_act (.save url record) d hproper) hsave (writable_save hlines hrecord)
      fun a ha => hsaves a (List.mem_cons_of_mem _ ha)

/-- A store in which nothing waits and that has gone on as it was asked to is settled. -/
theorem Grown.settled (h : Grown start s d) (hproper : Proper root limit s)
    (hwaiting : ∀ domain, s.waitingOf domain = [])
    (hbalanced : ∀ domain, '/' ∉ domain.toList →
      Balanced start s d domain (savedFor domain actions)) :
    Settled root start actions s d := by
  have hwritten : ∀ domain, s.writtenOf domain = (savedFor domain actions).length := by
    intro domain
    by_cases hslash : '/' ∈ domain.toList
    · have hzero : s.writtenOf domain = 0 := by
        by_contra hne
        exact h.domains domain hne hslash
      rw [savedFor_of_slash actions hslash, hzero, List.length_nil]
    · have hrest := (hbalanced domain hslash).waiting
      have hcount := (hbalanced domain hslash).count
      rw [hwaiting, eq_comm, List.drop_eq_nil_iff] at hrest
      omega
  refine ⟨hproper.root, hwaiting, hwritten, ?_, ?_, ?_⟩
  · intro domain
    rw [h.mem_names, hwritten]
    simp
  · intro domain hslash
    obtain ⟨lines, hhas, hcontent⟩ := (hbalanced domain hslash).content
    rw [hwritten, List.take_length] at hhas
    exact ⟨_, lines, .refl _, hhas, hcontent⟩
  · intro place
    rw [h.files]
    simp [hwritten]

/-- A store that has saved records that can be written, each to a file that opens, is settled once
all that waits is written. -/
theorem settled_of_saves
    (hsaves : ∀ a ∈ actions, ∃ url record, a = .save url record ∧ Writable record ∧
      start.opens (Files.fileOf { root, limit } (domainFor url)))
    (hrun : run actions ({ root, limit }, start) = (s, d)) :
    Settled root start actions (s.finalize d).store (s.finalize d).disk := by
  have hproper := proper_of_run hrun
  have hgrown : Grown start s d := by
    have hnew := grown_run (proper_new root limit) (grown_new root limit start)
      (fun domain => nofun) fun a ha => (hsaves a ha).imp fun url h => h.imp fun record h =>
        ⟨h.1, h.2.1⟩
    rwa [hrun] at hnew
  have hsaved : ∀ url record, Action.save url record ∈ actions → Writable record ∧
      start.opens (Files.fileOf { root, limit } (domainFor url)) := by
    intro url record hmem
    obtain ⟨_, _, hsave, hsaved⟩ := hsaves _ hmem
    cases hsave
    exact hsaved
  have hwritable : ∀ domain, ∀ record ∈ savedFor domain actions, Writable record := by
    intro domain record hrecord
    obtain ⟨url, hmem⟩ := mem_savedFor hrecord
    exact (hsaved url record hmem).1
  have hlines : ∀ domain, ∀ record ∈ s.waitingOf domain, Writable record :=
    fun domain record hrecord =>
      hwritable domain record (mem_savedFor_of_run hrun (hwritable domain) hrecord)
  have hopens : ∀ domain, s.waitingOf domain ≠ [] → d.opens (s.fileOf domain) := by
    intro domain hsome
    obtain ⟨record, hrecord⟩ := List.exists_mem_of_ne_nil _ hsome
    have hwaited := List.ne_nil_of_mem (mem_savedFor_of_run hrun (hwritable domain) hrecord)
    obtain ⟨url, saved, hmem, rfl⟩ := exists_of_savedFor hwaited
    rw [hgrown.opens, fileOf_congr (s := { root, limit }) hproper.root]
    exact (hsaved url saved hmem).2
  refine (grown_finalize hproper hgrown hlines).settled (proper_act .finalize d hproper)
    (waitingOf_finalize hlines hopens) fun domain hslash => ?_
  have hlast := balanced_run [.finalize] hproper hslash
    (by simpa [savedFor, Action.recordsFor] using hwritable domain)
    (balanced_of_run hrun (hwritable domain) hslash)
  simpa [savedFor, Action.recordsFor, run, Action.act] using hlast

end Settled

end Store.Files

end Gleaner
