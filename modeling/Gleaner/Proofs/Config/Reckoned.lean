import Gleaner.Command.Batch
import Gleaner.Proofs.Config.Sitemaps

/-! The failures to load a configuration that are not reckoned with. They are those of a
configuration, or schemas of one, that are no mapping, and of sitemaps that fail by what is neither
a fault of the system nor a bad value. They end the command, where any other failure is an exit
code. -/

namespace Gleaner

namespace Sitemap

variable {w : Web} {url : String} {f : Failure}

/-- How the visit of a sitemap fails in a way that is not reckoned with: by a fault of the client
itself, or by the name of an encoding that is not known. -/
inductive Strays (w : Web) (url : String) : Failure → Prop where
  | fault {f : Web.Fault} : w.ask url = .error f →
      (f.cause = .missing ∨ f.cause = .runtime ∨ ∃ page, f.cause = .page page) →
      Strays w url (.fault f)
  | encoding {a : Web.Answer} {name : String} : w.ask url = .ok a →
      Xml.parse a.content = .error (.unknownEncoding name) →
      Strays w url (.encoding (.unknownEncoding name))

theorem strays_iff :
    Strays w url f ↔ Fails w url f ∧ (Load.Failure.sitemap f).isReckoned = false := by
  constructor
  · intro h
    cases h with
    | @fault f hask hcause =>
      rcases hcause with hcause | hcause | ⟨page, hcause⟩ <;>
        exact ⟨.fault hask (by simp [Web.Fault.isTransport, hcause]),
          by simp [Load.Failure.isReckoned, hcause]⟩
    | encoding hask hparse => exact ⟨.encoding hask hparse nofun, rfl⟩
  · rintro ⟨h, hstray⟩
    cases h with
    | @fault f hask htransport =>
      refine .fault hask ?_
      cases hcause : f.cause with
      | missing => exact .inl rfl
      | runtime => exact .inr (.inl rfl)
      | page page => exact .inr (.inr ⟨page, rfl⟩)
      | _ => simp [Load.Failure.isReckoned, hcause] at hstray
    | @encoding a e hask hparse hnot =>
      cases e with
      | malformed f text => exact absurd rfl (hnot f text)
      | unknownEncoding name => exact .encoding hask hparse
      | unreadable kind message => cases hstray

end Sitemap

namespace Load

variable {d : Disk} {w : Web} {p folder : Path} {c : Config} {f : Failure} {v : Raw}
  {name : String} {entries written : List (Key × Raw)}

theorem isReckoned_of_readText (h : readText d p = .error f) : f.isReckoned = true := by
  unfold readText at h
  split at h
  next =>
    cases h
    rfl
  next =>
    split at h
    next =>
      cases h
      rfl
    next => cases h

theorem isReckoned_of_readValue (h : readValue d p = .error f) : f.isReckoned = true := by
  unfold readValue at h
  split at h
  next hread =>
    cases h
    exact isReckoned_of_readText hread
  next =>
    split at h
    next =>
      cases h
      rfl
    next => cases h

theorem isReckoned_of_readSchema (h : readSchema d p = .error f) : f.isReckoned = true := by
  unfold readSchema readIfThere at h
  split at h
  next hread =>
    cases h
    split at hread
    next =>
      cases hread
      rfl
    next =>
      cases hread
      rfl
    next => exact isReckoned_of_readValue hread
  next =>
    split at h
    next =>
      cases h
      rfl
    next => cases h

theorem isReckoned_of_resolve (h : resolve d folder name v = .error f) : f.isReckoned = true := by
  unfold resolve at h
  split at h
  next => exact isReckoned_of_readSchema h
  next =>
    split at h
    next =>
      cases h
      rfl
    next => cases h

theorem isReckoned_of_resolveAll (h : resolveAll d folder written = .error f) :
    f.isReckoned = true := by
  induction written with
  | nil => cases h
  | cons e written ih =>
    rw [resolveAll] at h
    split at h
    next hfirst =>
      cases h
      exact isReckoned_of_resolve hfirst
    next => exact ih (eq_error_of_map h)

/-- The value of a configuration file is no mapping, or its schemas are none. -/
inductive Misshapen (d : Disk) (p : Path) : Failure → Prop where
  | config {v : Raw} : readValue d p = .ok v → (∀ entries, v ≠ .map entries) →
      Misshapen d p (.notConfig v.kind)
  | schemas {entries : List (Key × Raw)} : readValue d p = .ok (.map entries) →
      (∀ written, schemasIn entries ≠ .map written) →
      Misshapen d p (.notSchemas (schemasIn entries).kind)

theorem Misshapen.isReckoned (h : Misshapen d p f) : f.isReckoned = false := by
  cases h <;> rfl

theorem resolveIn_of_not_map (h : ∀ written, schemasIn entries ≠ .map written) :
    resolveIn d folder entries = .error (.notSchemas (schemasIn entries).kind) := by
  unfold resolveIn
  rw [← schemasIn]
  split
  next written hwritten => exact absurd hwritten (h written)
  next => rfl

theorem isReckoned_of_resolveIn (hwritten : schemasIn entries = .map written)
    (h : resolveIn d folder entries = .error f) : f.isReckoned = true := by
  unfold resolveIn at h
  rw [← schemasIn, hwritten] at h
  exact isReckoned_of_resolveAll (eq_error_of_map h)

theorem readConfig_unreckoned_iff :
    readConfig d p = .error f ∧ f.isReckoned = false ↔ Misshapen d p f := by
  constructor
  · rintro ⟨h, hstray⟩
    unfold readConfig at h
    split at h
    next hread =>
      cases h
      simp [isReckoned_of_readValue hread] at hstray
    next entries hread =>
      by_cases hmap : ∃ written, schemasIn entries = .map written
      · obtain ⟨written, hwritten⟩ := hmap
        split at h
        next hresolve =>
          cases h
          simp [isReckoned_of_resolveIn hwritten hresolve] at hstray
        next =>
          split at h
          next =>
            cases h
            cases hstray
          next =>
            split at h
            next =>
              cases h
              cases hstray
            next => cases h
      · push Not at hmap
        rw [resolveIn_of_not_map hmap] at h
        cases h
        exact .schemas hread hmap
    next v hnot hread =>
      cases h
      exact .config hread hnot
  · intro h
    refine ⟨?_, h.isReckoned⟩
    cases h with
    | @config v hread hnot =>
      unfold readConfig
      rw [hread]
      cases v with
      | map entries => exact absurd rfl (hnot entries)
      | _ => rfl
    | schemas hread hnot => simp only [readConfig, hread, resolveIn_of_not_map hnot]

/-- A failure to load a configuration that is not reckoned with, and where it comes from. -/
inductive Unforeseen (d : Disk) (w : Web) (p : Path) : Failure → Prop where
  | value {f : Failure} : Misshapen d p f → Unforeseen d w p f
  | sitemap {c : Config} {before after : List Item} {i : Item} {f : Sitemap.Failure} :
      readConfig d p = .ok c → c.items = before ++ i :: after → (∀ j ∈ before, j.Opens w) →
      i.isSitemap = true → Sitemap.Strays w i.url f → Unforeseen d w p (.sitemap f)

theorem settle_unreckoned_iff : (settle w c).result = .error f ∧ f.isReckoned = false ↔
    ∃ g, f = .sitemap g ∧ Item.Breaks w c.items g ∧ f.isReckoned = false := by
  rw [result_settle]
  constructor
  · rintro ⟨h, hstray⟩
    split at h
    next g hbreaks =>
      cases h
      exact ⟨g, rfl, Item.expand_eq_error.mp hbreaks, hstray⟩
    next =>
      split at h
      next =>
        cases h
        cases hstray
      next => cases h
  · rintro ⟨g, rfl, hbreaks, hstray⟩
    rw [Item.expand_eq_error.mpr hbreaks]
    exact ⟨rfl, hstray⟩

/-- What is unforeseen before the items are settled, or while they are. -/
theorem unforeseen_iff : Unforeseen d w p f ↔ Misshapen d p f ∨
    ∃ c g, readConfig d p = .ok c ∧ f = .sitemap g ∧ Item.Breaks w c.items g ∧
      f.isReckoned = false := by
  constructor
  · intro h
    cases h with
    | value hvalue => exact .inl hvalue
    | sitemap hread hitems hbefore hsitemap hstrays =>
      obtain ⟨hfails, hstray⟩ := Sitemap.strays_iff.mp hstrays
      exact .inr ⟨_, _, hread, rfl, ⟨_, _, _, hitems, hbefore, hsitemap, hfails⟩, hstray⟩
  · rintro (hvalue | ⟨c, g, hread, rfl, hbreaks, hstray⟩)
    · exact .value hvalue
    · obtain ⟨before, i, after, hitems, hbefore, hsitemap, hfails⟩ := hbreaks
      exact .sitemap hread hitems hbefore hsitemap (Sitemap.strays_iff.mpr ⟨hfails, hstray⟩)

theorem config_unreckoned_iff : (config d w p).result = .error f ∧ f.isReckoned = false ↔
    d.isThere p = .ok true ∧ Unforeseen d w p f := by
  rw [unforeseen_iff, ← readConfig_unreckoned_iff]
  constructor
  · rintro ⟨h, hstray⟩
    unfold config at h
    split at h
    next =>
      cases h
      cases hstray
    next =>
      cases h
      cases hstray
    next hthere =>
      refine ⟨hthere, ?_⟩
      dsimp only at h
      split at h
      next hread =>
        cases h
        exact .inl ⟨hread, hstray⟩
      next c hread =>
        obtain ⟨g, rfl, hbreaks, -⟩ := settle_unreckoned_iff.mp ⟨h, hstray⟩
        exact .inr ⟨c, g, hread, rfl, hbreaks, hstray⟩
  · rintro ⟨hthere, ⟨hread, hstray⟩ | ⟨c, g, hread, hsettle⟩⟩
    · refine ⟨?_, hstray⟩
      simp only [config, hthere, hread]
    · rw [result_config hthere hread]
      exact settle_unreckoned_iff.mpr ⟨g, hsettle⟩

end Load

namespace BatchOrder

open Command (Outcome)

variable {o : BatchOrder} {s : Web.Surroundings} {d : Disk} {name : String} {f : Load.Failure}

theorem run_of_failed (hname : o.config = some name)
    (hload : (Load.config d s.web (Path.ofString name)).result = .error f) :
    (o.run s d).disk = d ∧ (o.run s d).code = if f.isReckoned then .ok 1 else .error (.load f) := by
  simp only [run, hname, hload, Outcome.after, Outcome.ofFailure]
  split
  next => exact ⟨rfl, rfl⟩
  next => exact ⟨rfl, rfl⟩

/-- Loading fails in a way that is not reckoned with just if it is unforeseen. A command that fails
to load leaves the disk as it is, and has an exit code if the failure is reckoned with. -/
theorem run_of_unloaded (d : Disk) (w : Web) (p : Path) (f : Load.Failure) :
    ((Load.config d w p).result = .error f ∧ f.isReckoned = false ↔
        d.isThere p = .ok true ∧ Load.Unforeseen d w p f) ∧
      ∀ (o : BatchOrder) (s : Web.Surroundings) (name : String), o.config = some name →
        Path.ofString name = p → s.web = w → (Load.config d w p).result = .error f →
        (o.run s d).disk = d ∧
          (o.run s d).code = if f.isReckoned then .ok 1 else .error (.load f) := by
  refine ⟨Load.config_unreckoned_iff, ?_⟩
  rintro o s name hname rfl rfl hload
  exact run_of_failed hname hload

/-- A configuration file of this text. -/
def diskOf (text : String) : Disk := { entries := [(["c.json"], .file (Text.octetsOf text))] }

/-- Whether a failure to load a text is reckoned with, and its message. -/
def complaint? (text : String) : Option (Bool × String) :=
  match (Load.config (diskOf text) [] (Path.ofString "c.json")).result with
  | .error f => some (f.isReckoned, f.message)
  | .ok _ => none

theorem exists_of_complaint? {text message : String} {b : Bool}
    (h : complaint? text = some (b, message)) :
    ∃ f, (Load.config (diskOf text) [] (Path.ofString "c.json")).result = .error f ∧
      f.isReckoned = b ∧ f.message = message := by
  unfold complaint? at h
  split at h
  next f hload =>
    cases h
    exact ⟨f, hload, rfl, rfl⟩
  next => cases h

theorem complaint?_list :
    complaint? "[]" = some (false, "'list' object has no attribute 'get'") := by
  decide +kernel

theorem complaint?_number : complaint? "\x7b\"schemas\": 5\x7d" =
    some (false, "'int' object has no attribute 'items'") := by
  decide +kernel

theorem run_of_unloaded_list :
    ∃ f, (Load.config (diskOf "[]") [] (Path.ofString "c.json")).result = .error f ∧
      Load.Unforeseen (diskOf "[]") [] (Path.ofString "c.json") f ∧
      ∃ o : BatchOrder, o.config = some "c.json" ∧
        (o.run ⟨[], []⟩ (diskOf "[]")).disk = diskOf "[]" ∧
        (o.run ⟨[], []⟩ (diskOf "[]")).code = .error (.load f) := by
  obtain ⟨f, hload, hstray, -⟩ := exists_of_complaint? complaint?_list
  obtain ⟨hiff, hrun⟩ := run_of_unloaded (diskOf "[]") [] (Path.ofString "c.json") f
  obtain ⟨hdisk, hcode⟩ := hrun ⟨some "c.json", none, false⟩ ⟨[], []⟩ "c.json" rfl rfl rfl hload
  rw [hstray] at hcode
  exact ⟨f, hload, (hiff.mp ⟨hload, hstray⟩).2, ⟨some "c.json", none, false⟩, rfl, hdisk, hcode⟩

/-- Texts of a configuration that fail to load in a way that is not reckoned with. -/
theorem config_unreckoned_texts :
    (∃ f, (Load.config (diskOf "[]") [] (Path.ofString "c.json")).result = .error f ∧
      f.isReckoned = false) ∧
    ∃ f, (Load.config (diskOf "\x7b\"schemas\": 5\x7d") [] (Path.ofString "c.json")).result =
      .error f ∧ f.isReckoned = false := by
  obtain ⟨f, hf, hf', -⟩ := exists_of_complaint? complaint?_list
  obtain ⟨g, hg, hg', -⟩ := exists_of_complaint? complaint?_number
  exact ⟨⟨f, hf, hf'⟩, g, hg, hg'⟩

end BatchOrder

end Gleaner
