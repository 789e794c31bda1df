import Gleaner.Proofs.Basic
import Gleaner.Proofs.Store.Confinement

/-! What a save that fails leaves. In the layout of folders this is nothing but a folder, or an empty
file. In that of files the record stays with those that wait, and none of its domain is counted any
more. -/

namespace Gleaner.Store

open Files (domainFor slash_notMem_domainFor)

variable {d e : Disk} {root : Path} {limit : Int} {domain other url : String} {record : Raw}
  {f : Failure}

namespace Folders

variable {s : Folders} {place above : List String}

theorem save_eq (s : Folders) (d : Disk) (url : String) (record : Raw) :
    s.save d url record = match d.makeAll (s.root.join (domainFor url)) with
      | .error g => ⟨s, d, (Url.domainOf url).2, .error (.disk g)⟩
      | .ok e => { s.saveIn e (s.root.join (domainFor url)) url record with
        log := (Url.domainOf url).2 ++
          (s.saveIn e (s.root.join (domainFor url)) url record).log } := by
  have hdomain : (if (Url.domainOf url).1 = "" then noDomain else (Url.domainOf url).1) =
      domainFor url := rfl
  unfold save
  dsimp only
  cases hmake : d.makeAll (s.root.join (domainFor url)) <;> rw [hdomain, hmake]

theorem store_of_saveIn_failed {folder : Path}
    (h : (s.saveIn d folder url record).result = .error f) :
    (s.saveIn d folder url record).store = s := by
  unfold saveIn write at h ⊢
  repeat' split
  all_goals simp_all

/-- Two steps that differ at most in what is at one place of the disk. -/
structure SameStep {σ β : Type} (place : List String) (a b : Step σ β) : Prop where
  store : b.store = a.store
  log : b.log = a.log
  result : b.result = a.result
  disk : a.disk.SameBut place b.disk

theorem SameStep.noted {σ β : Type} {a b : Step σ β} (h : SameStep place a b) (notes : Log) :
    SameStep place { a with log := notes ++ a.log } { b with log := notes ++ b.log } where
  store := h.store
  log := congrArg (notes ++ ·) h.log
  result := h.result
  disk := h.disk

/-- What is in one file makes no difference to a save. -/
theorem sameStep_saveIn {folder : Path} (hfolder : d.HasFolder folder above)
    (hplace : d.entryAt place ≠ some .folder) (octets : Text.Octets) (s : Folders) (url : String)
    (record : Raw) : SameStep place (s.saveIn d folder url record)
      (s.saveIn (d.put place (.file octets)) folder url record) := by
  have hput := Disk.sameBut_put d place (.file octets)
  unfold saveIn
  cases Url.parse url with
  | error g => exact ⟨rfl, rfl, rfl, hput⟩
  | ok u =>
    dsimp only
    cases nameFault? url u with
    | some t => exact ⟨rfl, rfl, rfl, hput⟩
    | none =>
      cases recordText (.indented 2) record with
      | error g => exact ⟨rfl, rfl, rfl, hput⟩
      | ok text =>
        dsimp only
        rw [join_fileName]
        unfold write
        rcases hfolder.write_put hplace octets (fileName url u)
            (if (Text.stray? text).isSome then "" else text) with
          ⟨g, hwrite, hwrite'⟩ | ⟨e, e', hwrite, hwrite', hsame⟩
        · rw [hwrite, hwrite']
          dsimp only
          split <;> exact ⟨rfl, rfl, rfl, hput⟩
        · rw [hwrite, hwrite']
          dsimp only
          split <;> exact ⟨rfl, rfl, rfl, hsame⟩

/-- After a save: no file and no count has changed, and further saves for the domain go as if it had
not been. -/
structure Untouched (s : Folders) (d : Disk) (url : String) (step : Step Folders (Option Path)) :
    Prop where
  store : step.store = s
  files : d.SameFiles step.disk
  later : ∀ other record, domainFor other = domainFor url →
    s.save step.disk other record = s.save d other record

/-- After a save of a record whose text has no octets: the file of the address is empty, whatever was
in it. Nothing else has changed, and further saves for the domain go as if it had not been. -/
structure Emptied (s : Folders) (d : Disk) (url : String) (record : Raw) (f : Failure)
    (place : List String) (step : Step Folders (Option Path)) : Prop where
  text : ∃ text t, recordText (.indented 2) record = .ok text ∧ Text.stray? text = some t ∧
    f = .text t
  store : step.store = s
  leadsTo : step.disk.LeadsTo (fileFor s.root url) place
  file : step.disk.entryAt place = some (.file [])
  others : ∀ there octets, there ≠ place →
    (step.disk.entryAt there = some (.file octets) ↔ d.entryAt there = some (.file octets))
  later : ∀ other next, domainFor other = domainFor url →
    SameStep place (s.save d other next) (s.save step.disk other next)

theorem emptied_of_stray {text : String} {t : Text.Stray}
    (hmake : d.makeAll (s.root.join (domainFor url)) = .ok e)
    (habove : e.HasFolder (s.root.join (domainFor url)) above)
    (hleads : e.LeadsTo (fileFor s.root url) place) (hplace : e.entryAt place ≠ some .folder)
    (htext : recordText (.indented 2) record = .ok text) (hstray : Text.stray? text = some t)
    {step : Step Folders (Option Path)} (hstore : step.store = s)
    (hdisk : step.disk = e.put place (.file [])) :
    s.Emptied d url record (.text t) place step where
  text := ⟨text, t, htext, hstray, rfl⟩
  store := hstore
  leadsTo := by
    rw [hdisk]
    exact hleads.put hplace
  file := by rw [hdisk, Disk.entryAt_put_self (Disk.ne_nil_of_entryAt hplace)]
  others := by
    intro there octets hthere
    rw [hdisk, Disk.entryAt_put_of_ne hthere]
    exact Disk.sameFiles_of_makeAll hmake there octets
  later := by
    -- The folder is there by now, and goes on being there with the empty file.
    intro other next hother
    have hsame := sameStep_saveIn habove hplace [] s other next
    have hput : (e.put place (.file [])).HasFolder (s.root.join (domainFor url)) above :=
      habove.put hplace
    have hmake' := hput.makeAll
    rw [hdisk, save_eq, save_eq, hother, hmake, hmake']
    exact hsame.noted _

theorem untouched_or_emptied (h : (s.save d url record).result = .error f) :
    s.Untouched d url (s.save d url record) ∨
      ∃ place, s.Emptied d url record f place (s.save d url record) := by
  rw [save_eq] at h ⊢
  cases hmake : d.makeAll (s.root.join (domainFor url)) with
  | error g => exact .inl ⟨rfl, .refl d, fun _ _ _ => rfl⟩
  | ok e =>
    rw [hmake] at h
    dsimp only at h ⊢
    obtain ⟨above, habove⟩ := Disk.hasFolder_of_makeAll hmake
    have hstore := store_of_saveIn_failed h
    obtain ⟨-, ⟨hdisk, -⟩ | ⟨u, octets, -, hleads, hplace, -, hdisk, hwrote⟩⟩ :=
      saveIn_cases habove s url record
    · refine .inl ⟨hstore, ?_, ?_⟩
      · rw [hdisk]
        exact Disk.sameFiles_of_makeAll hmake
      · intro other next hother
        rw [hdisk, save_eq, save_eq, hother, hmake, Disk.makeAll_again hmake]
    · right
      rw [h] at hwrote
      cases hwrote with
      | none htext hstray hoctets =>
        subst hoctets
        exact ⟨_, emptied_of_stray hmake habove hleads hplace htext hstray hstore hdisk⟩

end Folders

namespace Files

variable {s t : Files} {records all : List Raw} {n : Nat} {octets : Text.Octets}

/-- A flush of a domain fails: a record that waits has no line, or the file has a path that no file
can have, or it opens and a line has no octets. -/
structure Halts (s : Files) (d : Disk) (domain : String) : Prop where
  waits : s.waitingOf domain ≠ []
  cause : (∃ record ∈ s.waitingOf domain, ¬ HasLine record) ∨
    (Disk.pathFault? (s.fileOf domain)).isSome ∨
    (∃ record ∈ s.waitingOf domain, ¬ Writable record) ∧ d.opens (s.fileOf domain)

/-- The lines of records before the first that has no octets, as they stand in a file. There are
none where a record has no line. -/
def headsOf (records : List Raw) : String :=
  match linesOf records with
  | .error _ => ""
  | .ok lines => joined (soundLines lines)

/-- Records that wait behind one that cannot be written add nothing to what is written. -/
theorem headsOf_of_prefix {lines : List String} (hfirst : records <+: all)
    (hall : HasLines all lines) (hbad : ∃ record ∈ records, ¬ Writable record) :
    headsOf records = joined (soundLines lines) := by
  obtain ⟨more, rfl⟩ := hfirst
  have htake : HasLines records (lines.take records.length) := by
    simpa [HasLines] using List.forall₂_take records.length hall
  have hstray : (lines.take records.length).findSome? Text.stray? ≠ none := by
    rw [Ne, htake.sound_iff]
    push Not
    exact hbad
  have hshort : soundLines (lines.take records.length) ≠ lines.take records.length := by
    intro hsame
    refine hstray (List.findSome?_eq_none_iff.mpr fun line hline => ?_)
    have hsound := List.takeWhile_eq_self_iff.mp hsame line hline
    simpa using hsound
  have hlines : soundLines lines = soundLines (lines.take records.length) := by
    conv_lhs => rw [← List.take_append_drop records.length lines]
    rw [soundLines, List.takeWhile_append, if_neg]
    · rfl
    · exact fun hlength => hshort ((List.takeWhile_prefix _).eq_of_length hlength)
  rw [headsOf, linesOf_eq_ok.mpr htake, hlines]

theorem halts_of_failed (h : (s.flush d domain).result = .error f) : s.Halts d domain := by
  cases flushed s d domain with
  | idle _ _ hcause =>
    rw [h] at hcause
    cases hcause with
    | unwritten hu =>
      refine ⟨?_, .inl ?_⟩
      · intro hempty
        simp [hempty, linesOf] at hu
      · by_contra hall
        push Not at hall
        obtain ⟨lines, hlines⟩ := exists_linesOf hall
        simp [hu] at hlines
    | refused hwaits hpath => exact ⟨hwaits, .inr (.inl hpath)⟩
  | cut _ hwaits hall hstray happend =>
    exact ⟨hwaits, .inr (.inr ⟨exists_not_writable hall hstray, Disk.opens_of_update happend⟩)⟩
  | whole _ _ _ _ _ hresult => simp [h] at hresult

theorem Halts.fails (h : s.Halts d domain) : ∃ f, (s.flush d domain).result = .error f := by
  obtain ⟨hwaits, hcause⟩ := h
  cases flushed s d domain with
  | idle _ _ hidle =>
    generalize (s.flush d domain).result = result at hidle
    cases hidle with
    | empty hempty => exact absurd hempty hwaits
    | unwritten => exact ⟨_, rfl⟩
    | shut _ hlines hclosed hpath =>
      rcases hcause with ⟨record, hrecord, hbad⟩ | hfault | ⟨-, hopens⟩
      · exact absurd ((linesOf_eq_ok.mp hlines).hasLine record hrecord) hbad
      · simp [hpath] at hfault
      · exact absurd hopens hclosed
    | refused => exact ⟨_, rfl⟩
  | cut _ _ _ _ _ hresult => exact ⟨_, hresult⟩
  | whole _ _ hall hsound happend =>
    have hwritable := (linesOf_eq_ok.mp hall).sound_iff.mp hsound
    obtain ⟨place, hplace, -⟩ := Disk.append_eq_ok happend
    rcases hcause with ⟨record, hrecord, hbad⟩ | hfault | ⟨⟨record, hrecord, hbad⟩, -⟩
    · exact absurd (hwritable record hrecord).hasLine hbad
    · simp [hplace.1] at hfault
    · exact absurd (hwritable record hrecord) hbad

/-- What a flush that fails leaves: the store as it was, and the disk too, unless there is a line that
has no octets. Then those before it are in the file. -/
theorem failed_flush (h : (s.flush d domain).result = .error f) :
    Alike s (s.flush d domain).store ∧
      (((∀ t, f ≠ .text t) ∧ (s.flush d domain).disk = d) ∨
        (∃ t, f = .text t) ∧ d.append (s.fileOf domain) (headsOf (s.waitingOf domain)) =
          .ok (s.flush d domain).disk) := by
  cases flushed s d domain with
  | idle halike hdisk hcause =>
    refine ⟨halike, .inl ⟨?_, hdisk⟩⟩
    rw [h] at hcause
    cases hcause <;> simp
  | cut halike _ hall _ happend hresult =>
    rw [h] at hresult
    cases hresult
    exact ⟨halike, .inr ⟨⟨_, rfl⟩, by rwa [headsOf, hall]⟩⟩
  | whole _ _ _ _ _ hresult => simp [h] at hresult

/-- After a save that failed: the record waits behind those that waited before, and none is counted.
Nothing is written but lines before one that has no octets. -/
structure Retained (s : Files) (d : Disk) (url : String) (record : Raw) (f : Failure)
    (step : Step Files (Option Path)) : Prop where
  disk : ((∀ t, f ≠ .text t) ∧ step.disk = d) ∨ (∃ t, f = .text t) ∧
    d.append (s.fileOf (domainFor url)) (headsOf (s.waitingOf (domainFor url) ++ [record])) =
      .ok step.disk
  root : step.store.root = s.root
  limit : step.store.limit = s.limit
  written : ∀ domain, step.store.writtenOf domain = s.writtenOf domain
  waiting : step.store.waitingOf (domainFor url) = s.waitingOf (domainFor url) ++ [record]
  others_waiting : ∀ domain, domain ≠ domainFor url →
    step.store.waitingOf domain = s.waitingOf domain

theorem failed_save (h : (s.save d url record).result = .error f) :
    (s.save d url record).store =
        ((s.receive (domainFor url) record).flush d (domainFor url)).store ∧
      (s.save d url record).disk =
        ((s.receive (domainFor url) record).flush d (domainFor url)).disk ∧
      ((s.receive (domainFor url) record).flush d (domainFor url)).result = .error f := by
  have hsave := save_eq s d url record
  rw [result_save] at h
  split at h
  next hfull =>
    rw [if_pos hfull] at hsave
    obtain ⟨hstore, hdisk⟩ := Prod.mk.inj hsave
    exact ⟨hstore, hdisk, eq_error_of_map h⟩
  next => cases h

theorem retained_of_failed (h : (s.save d url record).result = .error f) :
    s.Retained d url record f (s.save d url record) := by
  obtain ⟨hstore, hdisk, hflush⟩ := failed_save h
  obtain ⟨halike, hwritten⟩ := failed_flush hflush
  rw [waitingOf_receive] at hwritten
  refine ⟨?_, ?_, ?_, ?_, ?_, ?_⟩
  · rw [hdisk]
    exact hwritten
  · rw [hstore, halike.root]
    rfl
  · rw [hstore, halike.limit]
    rfl
  · intro domain
    rw [hstore, halike.written]
    rfl
  · rw [hstore, halike.waiting, waitingOf_receive]
  · intro domain hdomain
    rw [hstore, halike.waiting, waitingOf_receive_of_ne s record hdomain]

/-- A domain of which nothing is counted any more: there is a record that cannot be written among the
first that wait, or no file has its path. Its file has the octets it had, and the lines before that
record again and again. -/
structure Stuck (domain : String) (records : List Raw) (n : Nat) (octets : Text.Octets) (s : Files)
    (d : Disk) : Prop where
  cause : (∃ record ∈ records, ¬ Writable record) ∨ (Disk.pathFault? (s.fileOf domain)).isSome
  waiting : records <+: s.waitingOf domain
  written : s.writtenOf domain = n
  content : ∃ k, d.content (s.fileOf domain) =
    octets ++ (List.replicate k (Text.octetsOf (headsOf records))).flatten

theorem stuck_congr (h : Stuck domain records n octets s d) (hroot : t.root = s.root)
    (hwaiting : t.waitingOf domain = s.waitingOf domain)
    (hwritten : t.writtenOf domain = s.writtenOf domain)
    (hcontent : e.content (s.fileOf domain) = d.content (s.fileOf domain)) :
    Stuck domain records n octets t e where
  cause := by
    rw [fileOf_congr hroot]
    exact h.cause
  waiting := hwaiting ▸ h.waiting
  written := hwritten.trans h.written
  content := by
    rw [fileOf_congr hroot, hcontent]
    exact h.content

theorem Stuck.bad_of_opens (h : Stuck domain records n octets s d)
    (hopens : d.opens (s.fileOf domain)) :
    ∃ record ∈ records, ¬ Writable record := by
  refine h.cause.resolve_right fun hfault => ?_
  obtain ⟨place, hplace, -⟩ := Disk.opens_iff.mp hopens
  simp [hplace.1] at hfault

/-- One more flush of a domain that is stuck writes the same lines as the last one, or none. -/
theorem stuck_flush_self (h : Stuck domain records n octets s d) :
    Stuck domain records n octets (s.flush d domain).store (s.flush d domain).disk := by
  cases flushed s d domain with
  | idle halike hdisk =>
    rw [hdisk]
    exact stuck_congr h halike.root (halike.waiting domain) (halike.written domain) rfl
  | cut halike _ hall _ happend =>
    have hbad := h.bad_of_opens (Disk.opens_of_update happend)
    obtain ⟨k, hcontent⟩ := h.content
    refine ⟨.inl hbad, halike.waiting domain ▸ h.waiting, (halike.written domain).trans h.written,
      k + 1, ?_⟩
    rw [fileOf_congr halike.root, Disk.content_append happend, hcontent,
      headsOf_of_prefix h.waiting (linesOf_eq_ok.mp hall) hbad, List.replicate_succ',
      List.flatten_append, List.flatten_singleton, List.append_assoc]
  | whole _ _ hall hsound happend =>
    obtain ⟨record, hrecord, hbad⟩ := h.bad_of_opens (Disk.opens_of_update happend)
    have hwritable := (linesOf_eq_ok.mp hall).sound_iff.mp hsound
    exact absurd (hwritable record (h.waiting.subset hrecord)) hbad

theorem stuck_flush (hdomain : '/' ∉ domain.toList) (hproper : Proper root limit s)
    (h : Stuck domain records n octets s d) (other : String) :
    Stuck domain records n octets (s.flush d other).store (s.flush d other).disk := by
  by_cases hne : domain = other
  · subst hne
    exact stuck_flush_self h
  · obtain ⟨hroot, hwaiting, hwritten, hcontent⟩ := others_flush hproper d hdomain hne
    exact stuck_congr h hroot hwaiting hwritten hcontent

theorem stuck_receive (h : Stuck domain records n octets s d) (other : String) (next : Raw) :
    Stuck domain records n octets (s.receive other next) d := by
  by_cases hne : domain = other
  · subst hne
    refine ⟨h.cause, ?_, h.written, h.content⟩
    rw [waitingOf_receive]
    exact h.waiting.trans (List.prefix_append _ _)
  · exact stuck_congr h rfl (waitingOf_receive_of_ne s next hne) rfl rfl

/-- Whatever is done with the store, a domain that is stuck stays so, and more may wait for it. -/
theorem stuck_run (hdomain : '/' ∉ domain.toList) (actions : List Action)
    (hproper : Proper root limit s) (h : Stuck domain records n octets s d) :
    Stuck domain records n octets (run actions (s, d)).1 (run actions (s, d)).2 :=
  run_preserves (P := fun _ s d => Stuck domain records n octets s d) domain
    (fun _ _ _ url next h => stuck_receive h (domainFor url) next)
    (fun _ _ _ other hproper h => stuck_flush hdomain hproper h other)
    (fun _ _ d places h => stuck_congr h rfl rfl rfl (Disk.content_close d places _))
    actions [] hproper h

/-- A save that fails gets its domain stuck. -/
theorem stuck_of_failed (h : (s.save d url record).result = .error f) :
    Stuck (domainFor url) (s.waitingOf (domainFor url) ++ [record]) (s.writtenOf (domainFor url))
      (d.content (s.fileOf (domainFor url))) (s.save d url record).store
      (s.save d url record).disk := by
  obtain ⟨hstore, -, hflush⟩ := failed_save h
  have hretained := retained_of_failed h
  have hfile := congrFun (fileOf_congr hretained.root) (domainFor url)
  refine ⟨?_, hretained.waiting ▸ List.prefix_rfl, hretained.written _, ?_⟩
  · have hcause := (halts_of_failed hflush).cause
    rw [waitingOf_receive] at hcause
    rw [hfile]
    rcases hcause with ⟨r, hr, hbad⟩ | hfault | ⟨hbad, -⟩
    · exact .inl ⟨r, hr, fun hwritable => hbad hwritable.hasLine⟩
    · exact .inr hfault
    · exact .inl hbad
  · rw [hfile]
    rcases hretained.disk with ⟨-, hdisk⟩ | ⟨-, happend⟩
    · exact ⟨0, by simp [hdisk]⟩
    · exact ⟨1, by simp [Disk.content_append happend]⟩

end Files

/-- The states of a store: it is opened and then asked for one thing after the other, and the disk
may change in between. -/
inductive Reachable (root : Path) (limit : Int) : Store → Disk → Prop where
  | opened {name : String} {start : Disk} {s : Store} {d : Disk} :
      create name root limit start = .ok (s, d) → Reachable root limit s d
  | called {s : Store} {d : Disk} (c : Call) : Reachable root limit s d →
      Reachable root limit (c.act (s, d)).1 (c.act (s, d)).2
  | disturbed {s : Store} {d : Disk} (e : Disk) : Reachable root limit s d →
      Reachable root limit s e

theorem eq_new_of_create {start : Disk} {name : String} {s : Files}
    (h : create name root limit start = .ok (.files s, d)) : s = { root, limit } := by
  unfold create at h
  dsimp only at h
  cases hmake : start.makeAll root with
  | error f =>
    rw [hmake] at h
    split at h <;> cases h
  | ok e =>
    rw [hmake] at h
    split at h <;> cases h
    rfl

/-- In the layout of files, a store keeps to its folder and its limit. -/
theorem Reachable.proper {w : Store} (h : Reachable root limit w d) :
    ∀ s, w = .files s → Files.Proper root limit s := by
  induction h with
  | opened hopen =>
    rintro s rfl
    rw [eq_new_of_create hopen]
    exact Files.proper_new root limit
  | @called w d c _ ih =>
    intro s hs
    cases w with
    | folders t => cases c <;> cases hs
    | files t =>
      have hproper := ih t rfl
      cases c with
      | save url record =>
        cases hs
        exact Files.proper_act (.save url record) d hproper
      | flush domain =>
        cases hs
        exact Files.proper_flush hproper d domain
      | finalize =>
        cases hs
        exact Files.proper_act .finalize d hproper
  | disturbed e _ ih => exact ih

theorem result_save_folders (t : Folders) (d : Disk) (url : String) (record : Raw) :
    (save (.folders t) d url record).result = (t.save d url record).result := by
  simp only [save, Step.lift]

theorem result_save_files (t : Files) (d : Disk) (url : String) (record : Raw) :
    (save (.files t) d url record).result = (t.save d url record).result := by
  simp only [save, Step.lift]

/-- A save that fails counts nothing. In the layout of folders the domain goes on as if the record had
not been offered, and no file has changed, but that the one of the address is empty if the text of the
record has no octets. In that of files the record waits with those before it, and whatever is done
next, they go on waiting, and none of the domain is counted. -/
theorem failed_save_leaves {s : Store} (hs : Reachable root limit s d)
    (h : (s.save d url record).result = .error f) :
    (∀ t : Folders, s = .folders t → t.Untouched d url (t.save d url record) ∨
        ∃ place, t.Emptied d url record f place (t.save d url record)) ∧
      ∀ t : Files, s = .files t → t.Retained d url record f (t.save d url record) ∧
        ∀ actions, Files.Stuck (domainFor url) (t.waitingOf (domainFor url) ++ [record])
          (t.writtenOf (domainFor url)) (d.content (t.fileOf (domainFor url)))
          (Files.run actions ((t.save d url record).store, (t.save d url record).disk)).1
          (Files.run actions ((t.save d url record).store, (t.save d url record).disk)).2 := by
  constructor
  · rintro t rfl
    rw [result_save_folders] at h
    exact Folders.untouched_or_emptied h
  · rintro t rfl
    rw [result_save_files] at h
    have hproper : Files.Proper root limit (t.save d url record).store :=
      Files.proper_act (.save url record) d (hs.proper t rfl)
    exact ⟨Files.retained_of_failed h, fun actions =>
      Files.stuck_run (slash_notMem_domainFor url) actions hproper (Files.stuck_of_failed h)⟩

section Rejected

/-- A record of a number that is not finite. -/
def unbounded : Raw := .map [(.str "n", .float (0.0 / 0.0))]

/-- A store that writes each record at once. -/
def hasty : Files := { root := outFolder, limit := 1 }

theorem reachable_hasty : Reachable outFolder 1 (.files hasty) emptyRoom := by
  have hcreate : create "file_per_domain" outFolder 1 {} = .ok (.files hasty, emptyRoom) := rfl
  exact .opened hcreate

/-- A record of a text that has no octets. -/
def halved : Raw := .map [(.str "n", .str (String.ofList [Text.halfOf 0xD800]))]

/-- A store of a file for each address. -/
def tidy : Folders := { root := outFolder }

theorem reachable_tidy : Reachable outFolder 1 (.folders tidy) emptyRoom := by
  have hcreate : create "folder_per_domain" outFolder 1 {} = .ok (.folders tidy, emptyRoom) := rfl
  exact .opened hcreate

/-- A number that is not finite fails before anything is written. A text without octets does not. -/
theorem failed_save_leaves_unbounded :
    (Reachable outFolder 1 (.files hasty) emptyRoom ∧
      ∃ f, (save (.files hasty) emptyRoom "http://a.org/x" unbounded).result = .error f ∧
        hasty.Retained emptyRoom "http://a.org/x" unbounded f
          (hasty.save emptyRoom "http://a.org/x" unbounded)) ∧
      Reachable outFolder 1 (.folders tidy) emptyRoom ∧
      ∃ f place, (save (.folders tidy) emptyRoom "http://a.org/x" halved).result = .error f ∧
        tidy.Emptied emptyRoom "http://a.org/x" halved f place
          (tidy.save emptyRoom "http://a.org/x" halved) := by
  obtain ⟨f, hf⟩ := exists_error_of_toOption
    (o := (save (.files hasty) emptyRoom "http://a.org/x" unbounded).result) (by decide +kernel)
  obtain ⟨g, hg⟩ := exists_error_of_toOption
    (o := (save (.folders tidy) emptyRoom "http://a.org/x" halved).result) (by decide +kernel)
  have hfiles := (failed_save_leaves reachable_hasty hf).2 hasty rfl
  have hfolders := (failed_save_leaves reachable_tidy hg).1 tidy rfl
  refine ⟨⟨reachable_hasty, f, hf, hfiles.1⟩, reachable_tidy, g, ?_⟩
  rcases hfolders with huntouched | ⟨place, hemptied⟩
  · have hfile : (tidy.save emptyRoom "http://a.org/x" halved).disk.entryAt
        ["room", "out", "a.org", "x.json"] = some (.file []) := by decide +kernel
    have hbefore := (huntouched.files _ _).mp hfile
    exact absurd hbefore (by decide +kernel)
  · exact ⟨place, hg, hemptied⟩

/-- A rejected record goes on waiting, and the next record of its domain, which would have been
written, fails too. -/
theorem failed_save_blocks_next :
    Reachable outFolder 1 (.files hasty) emptyRoom ∧
      (∃ f, (hasty.save emptyRoom "http://a.org/x" unbounded).result = .error f) ∧
      hasty.waitingOf "a.org" = [] ∧
      (hasty.save emptyRoom "http://a.org/x" unbounded).store.waitingOf "a.org" = [unbounded] ∧
      (∃ f, ((hasty.save emptyRoom "http://a.org/x" unbounded).store.save
        (hasty.save emptyRoom "http://a.org/x" unbounded).disk "http://a.org/y" (.int 1)).result =
          .error f) ∧
      (hasty.save emptyRoom "http://a.org/y" (.int 1)).result =
        .ok (some (hasty.fileOf "a.org")) ∧
      (hasty.save emptyRoom "http://a.org/y" (.int 1)).disk.entryAt ["room", "out", "a.org.jsonl"] =
        some (.file [49, 10]) := by
  refine ⟨reachable_hasty, ?_, rfl, ?_, ?_, ?_, ?_⟩
  · exact exists_error_of_toOption (by decide +kernel)
  · rfl
  · exact exists_error_of_toOption (by decide +kernel)
  · exact eq_ok_of_toOption (by decide +kernel)
  · decide +kernel

end Rejected

end Gleaner.Store
