import Gleaner.Proofs.Store.Failure

/-! What the end of a store of files writes: one domain after the other, up to the first that halts.
A file that does not open stands in the way of its own domain only. -/

namespace Gleaner.Store.Files

variable {s t u : Files} {d e g start : Disk} {domain other : String} {records more : List Raw}
  {root : Path} {limit : Int} {f : Failure}

/-- From one state to another, the first records that waited for a domain went to its file. -/
structure Moved (domain : String) (records : List Raw) (s : Files) (d : Disk) (t : Files)
    (e : Disk) : Prop where
  root : t.root = s.root
  waiting : s.waitingOf domain = records ++ t.waitingOf domain
  written : t.writtenOf domain = s.writtenOf domain + records.length
  content : ∃ lines, HasLines records lines ∧ e.content (s.fileOf domain) =
    d.content (s.fileOf domain) ++ Text.octetsOf (String.join (lines.map (· ++ "\n")))

theorem moved_nothing (hroot : t.root = s.root) (hwaiting : t.waitingOf domain = s.waitingOf domain)
    (hwritten : t.writtenOf domain = s.writtenOf domain)
    (hcontent : e.content (s.fileOf domain) = d.content (s.fileOf domain)) :
    Moved domain [] s d t e where
  root := hroot
  waiting := hwaiting.symm
  written := hwritten
  content := ⟨[], .nil, by simp [hcontent]⟩

theorem Moved.trans (h : Moved domain records s d t e) (h' : Moved domain more t e u g) :
    Moved domain (records ++ more) s d u g where
  root := h'.root.trans h.root
  waiting := by rw [h.waiting, h'.waiting, List.append_assoc]
  written := by rw [h'.written, h.written, List.length_append, Nat.add_assoc]
  content := by
    obtain ⟨lines, hlines, hcontent⟩ := h.content
    obtain ⟨others, hothers, hcontent'⟩ := h'.content
    refine ⟨lines ++ others, List.rel_append hlines hothers, ?_⟩
    rw [fileOf_congr h.root] at hcontent'
    rw [hcontent', hcontent]
    simp

/-- A flush writes all that waits for its domain, unless the domain halts or its file does not
open. -/
theorem moved_flush_self (hpasses : ¬ s.Halts d domain) (hopens : d.opens (s.fileOf domain)) :
    Moved domain (s.waitingOf domain) s d (s.flush d domain).store (s.flush d domain).disk := by
  have hpass : ∀ f, (s.flush d domain).result ≠ .error f :=
    fun f hf => hpasses (halts_of_failed hf)
  cases flushed s d domain with
  | idle halike hdisk hcause =>
    generalize (s.flush d domain).result = result at hcause hpass
    cases hcause with
    | empty hempty =>
      rw [hempty, hdisk]
      exact moved_nothing halike.root (halike.waiting domain) (halike.written domain) rfl
    | unwritten => exact absurd rfl (hpass _)
    | shut _ _ hclosed => exact absurd hopens hclosed
    | refused => exact absurd rfl (hpass _)
  | cut _ _ _ _ _ hresult => exact absurd hresult (hpass _)
  | whole hcleared _ hall _ happend =>
    exact ⟨hcleared.root, by simp [hcleared.waiting], hcleared.written, _, linesOf_eq_ok.mp hall,
      Disk.content_append happend⟩

/-- A flush does nothing for other domains, and nothing at all if the file does not open. -/
theorem moved_flush_nothing (hproper : Proper root limit s) (hother : '/' ∉ other.toList)
    (h : other ≠ domain ∨ ¬ d.opens (s.fileOf domain)) :
    Moved other [] s d (s.flush d domain).store (s.flush d domain).disk := by
  by_cases hne : other = domain
  · subst hne
    have hclosed := h.resolve_left fun hne => hne rfl
    cases flushed s d other with
    | idle halike hdisk =>
      rw [hdisk]
      exact moved_nothing halike.root (halike.waiting other) (halike.written other) rfl
    | cut _ _ _ _ happend => exact absurd (Disk.opens_of_update happend) hclosed
    | whole _ _ _ _ happend => exact absurd (Disk.opens_of_update happend) hclosed
  · obtain ⟨hroot, hwaiting, hwritten, hcontent⟩ := others_flush hproper d hother hne
    exact moved_nothing hroot hwaiting hwritten hcontent

theorem halts_congr (hroot : t.root = s.root)
    (hwaiting : t.waitingOf domain = s.waitingOf domain)
    (hopens : e.opens (s.fileOf domain) = d.opens (s.fileOf domain)) :
    t.Halts e domain ↔ s.Halts d domain := by
  have hfile := congrFun (fileOf_congr hroot) domain
  constructor
  · rintro ⟨hwaits, hcause⟩
    rw [hwaiting] at hwaits
    rw [hwaiting, hfile, hopens] at hcause
    exact ⟨hwaits, hcause⟩
  · rintro ⟨hwaits, hcause⟩
    refine ⟨?_, ?_⟩
    · rwa [hwaiting]
    · rwa [hwaiting, hfile, hopens]

/-- A flush that goes through lets no domain halt, and none go on, that did not before. -/
theorem halts_flush_iff (hpasses : ¬ s.Halts d domain) (other : String) :
    (s.flush d domain).store.Halts (s.flush d domain).disk other ↔ s.Halts d other := by
  have hopens := opens_flush s d domain (s.fileOf other)
  rcases store_flush s d domain with halike | hcleared
  · exact halts_congr halike.root (halike.waiting other) hopens
  · by_cases hother : other = domain
    · subst hother
      exact iff_of_false (fun h => h.waits hcleared.waiting) hpasses
    · exact halts_congr hcleared.root (hcleared.others_waiting other hother) hopens

/-- A domain whose flush failed: all its records wait, and none is counted. Its file is as it was, or
has the lines before one that has no octets. -/
structure Stopped (domain : String) (f : Failure) (s : Files) (d : Disk) (t : Files) (e : Disk) :
    Prop where
  root : t.root = s.root
  waiting : t.waitingOf domain = s.waitingOf domain
  written : t.writtenOf domain = s.writtenOf domain
  content : ((∀ u, f ≠ .text u) ∧ e.content (s.fileOf domain) = d.content (s.fileOf domain)) ∨
    (∃ u, f = .text u) ∧ e.content (s.fileOf domain) =
      d.content (s.fileOf domain) ++ Text.octetsOf (headsOf (s.waitingOf domain))

theorem stopped_of_failed (h : (s.flush d domain).result = .error f) :
    Stopped domain f s d (s.flush d domain).store (s.flush d domain).disk := by
  obtain ⟨halike, hdisk⟩ := failed_flush h
  refine ⟨halike.root, halike.waiting domain, halike.written domain, ?_⟩
  rcases hdisk with ⟨hother, hdisk⟩ | ⟨htext, happend⟩
  · exact .inl ⟨hother, by rw [hdisk]⟩
  · exact .inr ⟨htext, Disk.content_append happend⟩

theorem Stopped.of_moved (hmoved : Moved domain [] s d t e) (h : Stopped domain f t e u g) :
    Stopped domain f s d u g := by
  have hfile := congrFun (fileOf_congr hmoved.root) domain
  have hwaiting : t.waitingOf domain = s.waitingOf domain := hmoved.waiting.symm
  have hcontent : e.content (s.fileOf domain) = d.content (s.fileOf domain) := by
    obtain ⟨lines, hlines, hcontent⟩ := hmoved.content
    cases hlines
    simpa using hcontent
  have hstopped := h.content
  rw [hfile, hwaiting, hcontent] at hstopped
  exact ⟨h.root.trans hmoved.root, h.waiting.trans hwaiting, h.written.trans hmoved.written,
    hstopped⟩

/-- What it comes to when domains are flushed in their order: all that waits for a domain is in its
file if none halted so far and the file opens, and otherwise it goes on waiting. -/
structure Swept (s : Files) (d : Disk) (done rest : List String) (t : Files) (e : Disk)
    (result : Except Failure Unit) : Prop where
  passes : ∀ domain ∈ done, ¬ s.Halts d domain
  ending : (rest = [] ∧ result = .ok ()) ∨
    ∃ domain others f, rest = domain :: others ∧ s.Halts d domain ∧ result = .error f ∧
      Stopped domain f s d t e
  written : ∀ domain, '/' ∉ domain.toList → domain ∈ done → d.opens (s.fileOf domain) →
    Moved domain (s.waitingOf domain) s d t e
  left : ∀ domain, '/' ∉ domain.toList →
    (domain ∉ done ∧ rest.head? ≠ some domain) ∨ ¬ d.opens (s.fileOf domain) →
    Moved domain [] s d t e

theorem swept_nil (s : Files) (d : Disk) : Swept s d [] [] s d (.ok ()) where
  passes := nofun
  ending := .inl ⟨rfl, rfl⟩
  written := nofun
  left _ _ _ := moved_nothing rfl rfl rfl rfl

theorem swept_of_failed (hproper : Proper root limit s)
    (h : (s.flush d domain).result = .error f) (others : List String) :
    Swept s d [] (domain :: others) (s.flush d domain).store (s.flush d domain).disk
      (.error f) where
  passes := nofun
  ending := .inr ⟨domain, others, f, rfl, halts_of_failed h, rfl, stopped_of_failed h⟩
  written := nofun
  left other hslash hleft := by
    by_cases hother : other = domain
    · subst hother
      have hclosed := hleft.resolve_left fun hfirst => hfirst.2 rfl
      exact moved_flush_nothing hproper hslash (.inr hclosed)
    · exact moved_flush_nothing hproper hslash (.inl hother)

/-- Where nothing waits, nothing is written. -/
theorem Swept.moved_of_empty {done rest : List String} {result : Except Failure Unit}
    (h : Swept s d done rest t e result) (hslash : '/' ∉ domain.toList)
    (hempty : s.waitingOf domain = []) : Moved domain [] s d t e := by
  by_cases hdone : domain ∈ done ∧ d.opens (s.fileOf domain)
  · have hwritten := h.written domain hslash hdone.1 hdone.2
    rwa [hempty] at hwritten
  · refine h.left domain hslash ((not_and_or.mp hdone).imp_left fun hnot => ⟨hnot, fun hhead => ?_⟩)
    -- The domain that the sweep stopped at has records that wait.
    rcases h.ending with ⟨rfl, -⟩ | ⟨first, others, f, rfl, hhalts, -⟩
    · cases hhead
    · cases hhead
      exact hhalts.waits hempty

/-- A flush that goes through comes before what the others come to. -/
theorem Swept.cons {done rest : List String} {result : Except Failure Unit}
    (hproper : Proper root limit s) (hpasses : ¬ s.Halts d domain)
    (h : Swept (s.flush d domain).store (s.flush d domain).disk done rest t e result) :
    Swept s d (domain :: done) rest t e result := by
  refine ⟨?_, ?_, ?_, ?_⟩
  · refine List.forall_mem_cons.mpr ⟨hpasses, fun other hother => ?_⟩
    rw [← halts_flush_iff hpasses]
    exact h.passes other hother
  · rcases h.ending with hend | ⟨other, others, f, hsplit, hhalts, hf, hstopped⟩
    · exact .inl hend
    · have hhalts' := (halts_flush_iff hpasses other).mp hhalts
      have hslash := hproper.domains other hhalts'.waits
      have hne : other ≠ domain := by
        rintro rfl
        exact hpasses hhalts'
      have hmoved := moved_flush_nothing (d := d) hproper hslash (.inl hne)
      exact .inr ⟨other, others, f, hsplit, hhalts', hf, hstopped.of_moved hmoved⟩
  · intro other hslash hother hopens
    by_cases hfirst : other = domain
    · subst hfirst
      have hmoved := moved_flush_self hpasses hopens
      have hempty : (s.flush d other).store.waitingOf other = [] := by simpa using hmoved.waiting
      simpa using hmoved.trans (h.moved_of_empty hslash hempty)
    · have hdone := (List.mem_cons.mp hother).resolve_left hfirst
      have hmoved := moved_flush_nothing (d := d) hproper hslash (.inl hfirst)
      have hlater := h.written other hslash hdone (by rwa [fileOf_flush, opens_flush])
      rw [waitingOf_flush_of_ne s d hfirst] at hlater
      simpa using hmoved.trans hlater
  · intro other hslash hleft
    have hnot : other ≠ domain ∨ ¬ d.opens (s.fileOf domain) := by
      by_cases hfirst : other = domain
      · subst hfirst
        exact .inr (hleft.resolve_left fun hmem => hmem.1 List.mem_cons_self)
      · exact .inl hfirst
    have hlater := h.left other hslash (by
      rw [fileOf_flush, opens_flush]
      exact hleft.imp_left fun hmem =>
        ⟨fun hdone => hmem.1 (List.mem_cons_of_mem domain hdone), hmem.2⟩)
    simpa using (moved_flush_nothing hproper hslash hnot).trans hlater

theorem swept_flushAll (hproper : Proper root limit s) (d : Disk) (domains : List String) :
    ∃ done rest, domains = done ++ rest ∧ Swept s d done rest (s.flushAll d domains).store
      (s.flushAll d domains).disk (s.flushAll d domains).result := by
  induction domains generalizing s d with
  | nil => exact ⟨[], [], rfl, swept_nil s d⟩
  | cons domain domains ih =>
    rw [flushAll]
    dsimp only
    cases hresult : (s.flush d domain).result with
    | error f => exact ⟨[], _, rfl, swept_of_failed hproper hresult domains⟩
    | ok file =>
      have hpasses : ¬ s.Halts d domain := by
        intro hhalts
        obtain ⟨f, hf⟩ := hhalts.fails
        simp [hf] at hresult
      obtain ⟨done, rest, hdomains, hswept⟩ :=
        ih (proper_flush hproper d domain) (s.flush d domain).disk
      exact ⟨domain :: done, rest, by rw [hdomains]; rfl, hswept.cons hproper hpasses⟩

/-- The end of a store, whatever happened before, writes the domains in the order of their first
records. A file that does not open keeps its own domain waiting only, but the first domain that
halts, by a record without a line, a line without octets or a path that no file can have, ends it:
that one and all after it go on waiting. -/
theorem finalize_writes {actions : List Action}
    (hrun : run actions ({ root, limit }, start) = (s, d)) :
    ∃ done rest, s.waiting.map (·.1) = done ++ rest ∧
      (∀ domain, s.waitingOf domain ≠ [] → domain ∈ done ++ rest) ∧
      Swept s d done rest (s.finalize d).store (s.finalize d).disk (s.finalize d).result := by
  have hproper : Proper root limit s := by
    have hend := proper_run actions start (proper_new root limit)
    rwa [hrun] at hend
  obtain ⟨done, rest, hdomains, hswept⟩ := swept_flushAll hproper d (s.waiting.map (·.1))
  refine ⟨done, rest, hdomains, fun domain hwaits => ?_, hswept⟩
  by_contra hmem
  rw [← hdomains] at hmem
  exact hwaits (valueOf_of_notMem hmem)

section Ended

/-- Three domains, the second with a record that has no line. -/
def threeSaves : List Action :=
  [.save "http://a.org/" (.int 1), .save "http://b.org/" unbounded, .save "http://c.org/" (.int 2)]

theorem finalize_writes_first :
    ∃ s, run threeSaves ({ root := outFolder }, emptyRoom) = (s, emptyRoom) ∧
      s.waiting.map (·.1) = ["a.org", "b.org", "c.org"] ∧
      ∃ done rest, s.waiting.map (·.1) = done ++ rest ∧
        Swept s emptyRoom done rest (s.finalize emptyRoom).store (s.finalize emptyRoom).disk
          (s.finalize emptyRoom).result := by
  have hrun : run threeSaves ({ root := outFolder }, emptyRoom) = (_, emptyRoom) :=
    Prod.ext rfl (by decide +kernel)
  obtain ⟨done, rest, hdomains, -, hswept⟩ := finalize_writes hrun
  exact ⟨_, hrun, by decide +kernel, done, rest, hdomains, hswept⟩

/-- A domain behind one that halts is not written, though its record has a line and its file would
open. -/
theorem finalize_leaves_writable :
    ∃ s, run threeSaves ({ root := outFolder }, emptyRoom) = (s, emptyRoom) ∧
      (∃ f, (s.finalize emptyRoom).result = .error f) ∧
      s.waitingOf "c.org" = [.int 2] ∧ Writable (.int 2) ∧ emptyRoom.opens (s.fileOf "c.org") ∧
      ((s.finalize emptyRoom).store.waitingOf "c.org").length = 1 ∧
      (s.finalize emptyRoom).store.written = [("a.org", 1)] ∧
      (s.finalize emptyRoom).disk.entryAt ["room", "out", "c.org.jsonl"] = none := by
  refine ⟨_, Prod.ext rfl (by decide +kernel), ?_, rfl, ⟨"2", by cbv, by cbv⟩, ?_, ?_, ?_, ?_⟩
  · exact exists_error_of_toOption (by decide +kernel)
  · decide +kernel
  · decide +kernel
  · decide +kernel
  · decide +kernel

end Ended

end Gleaner.Store.Files
