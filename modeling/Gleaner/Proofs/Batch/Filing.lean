import Gleaner.Proofs.Batch.Alone
import Gleaner.Proofs.Store.Files
import Gleaner.Proofs.Store.Record

/-! What a batch leaves in a store of a file for each domain. The order in which items land decides
the order of lines, and nothing else. -/

namespace Gleaner

open Batch Store Store.Files

variable {σ ε : Type} {c : Config} {f g fetch : String → Web.Arrival} {i : Item} {items : List Item}
  {root : Path} {limit : Int} {start : Disk}

/-- The result of the scrape of an item, if it has one. -/
def Config.resultOf (c : Config) (fetch : String → Web.Arrival) (i : Item) : Option Result :=
  match (c.attempt fetch i).bind (·.result) with
  | some (.ok result) => some result
  | _ => none

/-- The items that have results, with them. -/
def Config.finds (c : Config) (fetch : String → Web.Arrival) (items : List Item) :
    List (Item × Result) :=
  items.filterMap fun i => (c.resultOf fetch i).map (i, ·)

namespace Batch

section Place

variable {k k' : Keeper σ ε} {r : Run σ ε} {n : Nat} {events : List Event} {p : Item × Result}

/-- What a keeper remembers once a result has been handed to it. -/
def Keeper.take (k : Keeper σ ε) (place : σ) (p : Item × Result) : σ :=
  (k.save place p.1.url (p.2.recordWith p.1.schema)).1

/-- The item of a number with its result, if it has one. -/
def findAt (c : Config) (fetch : String → Web.Arrival) (items : List Item) (n : Nat) :
    Option (Item × Result) :=
  items[n]?.bind fun i => (c.resultOf fetch i).map (i, ·)

theorem place_land (k : Keeper σ ε) (r : Run σ ε) (n : Nat) (i : Item) :
    (r.land k n ⟨i, c.attempt fetch i⟩).batch.place =
      ((c.resultOf fetch i).map (i, ·)).elim r.batch.place (k.take r.batch.place) := by
  unfold Run.land Config.resultOf
  cases c.attempt fetch i with
  | none => rfl
  | some a =>
    dsimp only [Option.bind_some]
    rcases a.result with _ | f | result
    · rfl
    · rfl
    · dsimp only [Option.map_some, Option.elim_some, Run.keep]
      split <;> rfl

/-- What a keeper remembers depends on the order of the landings, and on no other events. -/
theorem place_foldl (k : Keeper σ ε) (events : List Event) (r : Run σ ε) :
    (events.foldl (Run.follow k (visitsOf c fetch items)) r).batch.place =
      ((landings events).filterMap (findAt c fetch items)).foldl k.take r.batch.place := by
  induction events generalizing r with
  | nil => rfl
  | cons e events ih =>
    rw [List.foldl_cons, ih]
    cases e with
    | started n =>
      rw [Run.follow, show landings (.started n :: events) = landings events from rfl]
      cases (visitsOf c fetch items)[n]? <;> rfl
    | finished n => rfl
    | landed n =>
      rw [Run.follow, show landings (.landed n :: events) = n :: landings events from rfl,
        visitsOf, List.getElem?_map]
      cases hi : items[n]? with
      | none => simp [findAt, hi]
      | some i =>
        rw [Option.map_some, Option.map_some, Option.getD_some, place_land]
        cases hresult : c.resultOf fetch i <;> simp [findAt, hi, hresult]

/-- Two keepers do the same to items if they do so to what the items come to. -/
theorem follow_congr
    (h : ∀ i ∈ items, ∀ result, c.resultOf fetch i = some result → ∀ place,
      k.save place i.url (result.recordWith i.schema) =
        k'.save place i.url (result.recordWith i.schema)) :
    Run.follow k (visitsOf c fetch items) = Run.follow k' (visitsOf c fetch items) := by
  have hland : ∀ i ∈ items, ∀ r n, Run.land k r n ⟨i, c.attempt fetch i⟩ =
      Run.land k' r n ⟨i, c.attempt fetch i⟩ := by
    intro i hi r n
    have hsame := h i hi
    unfold Config.resultOf at hsame
    unfold Run.land
    cases hattempt : c.attempt fetch i with
    | none => rfl
    | some a =>
      dsimp only
      cases hresult : a.result with
      | none => rfl
      | some outcome => cases outcome with
        | error f => rfl
        | ok result =>
          simp only [hattempt, Option.bind_some, hresult, Option.some.injEq, forall_eq'] at hsame
          simp only [Run.keep, hsame]
  funext r e
  cases e with
  | started n => rfl
  | finished n => rfl
  | landed n =>
    rw [Run.follow, Run.follow]
    cases hv : (visitsOf c fetch items)[n]? with
    | none => rfl
    | some v =>
      obtain ⟨i, hi, rfl⟩ := List.mem_map.mp (List.mem_of_getElem? hv)
      rw [Option.map_some, Option.map_some, hland i hi]

end Place

section Filing

/-- The saving of the record of a result. -/
def saving (p : Item × Result) : Action := .save p.1.url (p.2.recordWith p.1.schema)

/-- A store of files that is handed a record saves it. -/
theorem ofStore_save_files (s : Files) (d : Disk) (url : String) (record : Raw) :
    (Keeper.ofStore.save (.files s, d) url record).1 =
      (.files (s.save d url record).store, (s.save d url record).disk) := rfl

theorem foldl_take (ps : List (Item × Result)) (s : Files) (d : Disk) :
    ps.foldl Keeper.ofStore.take (.files s, d) =
      (.files (Files.run (ps.map saving) (s, d)).1, (Files.run (ps.map saving) (s, d)).2) := by
  induction ps generalizing s d with
  | nil => rfl
  | cons p ps ih =>
    rw [List.foldl_cons, Keeper.take, ofStore_save_files, ih]
    rfl

/-- A keeper that is asked for some records only, and keeps all else without a trace. -/
def Keeper.guarded (k : Keeper σ ε) (asked : String → Raw → Prop)
    [∀ url record, Decidable (asked url record)] (path : String → String) : Keeper σ ε where
  save place url record :=
    if asked url record then k.save place url record else (place, [], .kept (path url))

/-- A store whose records can all be written, and which has grown from the start. -/
def Reached (root : Path) (limit : Int) (start : Disk) (place : Store × Disk) : Prop :=
  ∃ s d, place = (.files s, d) ∧ Files.Proper root limit s ∧ Grown start s d ∧
    ∀ domain, ∀ record ∈ s.waitingOf domain, Writable record

/-- The file to which the record of an address goes. -/
def fileFor (root : Path) (url : String) : Path := root.join (domainFor url ++ ".jsonl")

/-- A record can be written, and its file opens. -/
def Fits (root : Path) (start : Disk) (url : String) (record : Raw) : Prop :=
  start.opens (fileFor root url) ∧ Writable record

theorem steady_guarded [∀ url record, Decidable (Fits root start url record)] :
    (Keeper.ofStore.guarded (Fits root start) fun url => (fileFor root url).toString).Steady
      (Reached root limit start) fun i _ => .kept (fileFor root i.url).toString where
  answers := by
    rintro _ i result ⟨s, d, rfl, hproper, hgrown, hlines⟩
    have hfile : s.fileOf (domainFor i.url) = fileFor root i.url := by
      rw [Files.fileOf, hproper.root, fileFor]
    unfold Keeper.guarded
    dsimp only
    split
    next hfits =>
      have hopen : d.opens (s.fileOf (domainFor i.url)) := by
        rw [hfile, hgrown.opens]
        exact hfits.1
      have hresult := save_result (hlines (domainFor i.url)) hfits.2 hopen
      simp only [Keeper.ofStore, Store.save, Step.lift, hresult, hfile, Keeping.ofSaving]
    next => rfl
  stays := by
    rintro _ i result ⟨s, d, rfl, hproper, hgrown, hlines⟩
    unfold Keeper.guarded
    dsimp only
    split
    next hfits =>
      exact ⟨_, _, ofStore_save_files s d _ _, proper_act (.save i.url (result.recordWith i.schema)) d hproper,
        grown_save hproper hgrown (hlines (domainFor i.url)) hfits.2, writable_save hlines hfits.2⟩
    next => exact ⟨s, d, rfl, hproper, hgrown, hlines⟩
  mild := fun _ _ _ => nofun

/-- How a run ends, and what it leaves once all that waits is written: the results are of these
items, and all their records are in files. -/
def Leaves (root : Path) (start : Disk) (kept : List (Item × Result))
    (outcome : Batch (Store × Disk) × Ending Store.Failure) : Prop :=
  outcome.2 = .returned (kept.map (·.2)) ∧ ∃ s d, outcome.1.place = (.files s, d) ∧
    Settled root start (kept.map saving) (s.finalize d).store (s.finalize d).disk

theorem place_close {r : Run σ ε} (visits : List Visit) :
    (r.close visits).1.place = r.batch.place := by
  unfold Run.close
  split
  · rfl
  · split <;> rfl

theorem through_guarded (k : Keeper σ ε) (b : Batch σ) (events : List Event)
    {asked : String → Raw → Prop} [∀ url record, Decidable (asked url record)]
    (path : String → String) (hasked : ∀ i ∈ items, ∀ result,
      c.resultOf fetch i = some result → asked i.url (result.recordWith i.schema)) :
    through (k.guarded asked path) c fetch b items events =
      through k c fetch b items events := by
  have hfollow : Run.follow (k.guarded asked path) (visitsOf c fetch items) =
      Run.follow k (visitsOf c fetch items) :=
    follow_congr fun i hi result hresult _ => if_pos (hasked i hi result hresult)
  rw [through, hfollow, through]

/-- If all records are kept, what an item comes to is the result of its scrape. -/
theorem filterMap_alone? (path : String → String) (items : List Item) :
    items.filterMap (c.alone? fetch fun i _ => (.kept (path i.url) : Keeping ε)) =
      (c.finds fetch items).map (·.2) := by
  have halone : ∀ i, c.alone? fetch (fun i _ => (.kept (path i.url) : Keeping ε)) i =
      c.resultOf fetch i := by
    intro i
    unfold Config.alone? Config.resultOf
    rcases (c.attempt fetch i).bind (·.result) with _ | f | result <;> rfl
  rw [Config.finds, List.map_filterMap]
  refine List.filterMap_congr fun i _ => ?_
  rw [halone, Option.map_map]
  exact Option.map_id'.symm

/-- The records of what items come to can be written. -/
def WritableResults (c : Config) (fetch : String → Web.Arrival) (items : List Item) : Prop :=
  ∀ i ∈ items, ∀ result, c.resultOf fetch i = some result → Writable (result.recordWith i.schema)

/-- A run in which every item lands once leaves the records of its results, whatever the order of
the landings. -/
theorem through_leaves (hitems : Feasible c fetch items) (hresults : WritableResults c fetch items)
    (hopens : ∀ i ∈ items, start.opens (fileFor root i.url)) {events : List Event}
    (hevents : (landings events).Perm (List.range items.length)) :
    Leaves root start (c.finds fetch items) (through .ofStore c fetch
      { place := (.files { root, limit }, start) } items events) := by
  classical
  have hfits : ∀ i ∈ items, ∀ result, c.resultOf fetch i = some result →
      Fits root start i.url (result.recordWith i.schema) :=
    fun i hi result hresult => ⟨hopens i hi, hresults i hi result hresult⟩
  have hreached : Reached root limit start (.files { root, limit }, start) :=
    ⟨_, _, rfl, proper_new root limit, grown_new root limit start, fun _ _ => nofun⟩
  obtain ⟨last, hthrough, -⟩ :=
    through_eq_alone steady_guarded hreached hitems hevents
  rw [through_guarded _ _ _ _ hfits, filterMap_alone? (fun url => (fileFor root url).toString)] at hthrough
  have hplace : (through .ofStore c fetch { place := (.files { root, limit }, start) } items
      events).1.place = (.files (Files.run (((landings events).filterMap
        (findAt c fetch items)).map saving) ({ root, limit }, start)).1, (Files.run (((landings
        events).filterMap (findAt c fetch items)).map saving) ({ root, limit }, start)).2) := by
    rw [through, place_close, place_foldl]
    exact foldl_take _ _ _
  have hfound : ((landings events).filterMap (findAt c fetch items)).Perm
      (c.finds fetch items) := by
    have hall := hevents.filterMap (findAt c fetch items)
    rwa [show (List.range items.length).filterMap (findAt c fetch items) = c.finds fetch items
      from filterMap_getElem? _ items] at hall
  rw [hthrough] at hplace ⊢
  refine ⟨rfl, _, _, hplace, (settled_of_saves ?_ rfl).perm (hfound.map saving)⟩
  intro a ha
  obtain ⟨p, hp, rfl⟩ := List.mem_map.mp ha
  obtain ⟨i, hi, hresult⟩ := List.mem_filterMap.mp (hfound.mem_iff.mp hp)
  obtain ⟨result, hfinds, rfl⟩ := Option.map_eq_some_iff.mp hresult
  exact ⟨_, _, rfl, hresults i hi result hfinds, hopens i hi⟩

/-- Every run leaves the records of its results. -/
theorem run_leaves (hitems : Feasible c fetch items) (hresults : WritableResults c fetch items)
    (hopens : ∀ i ∈ items, start.opens (fileFor root i.url)) :
    Leaves root start (c.finds fetch items) (run .ofStore c fetch
      { place := (.files { root, limit }, start) } items) := by
  by_cases hempty : items = []
  · subst hempty
    exact ⟨rfl, _, _, rfl, settled_of_saves (fun a => nofun) rfl⟩
  · rw [run_eq_through hempty]
    exact through_leaves hitems hresults hopens (landings_run hitems)

end Filing

end Batch

section Latency

/-- Time decides of a fetch only whether it is cut. -/
theorem Web.within_congr {a b : Web.Arrival} {l : Web.Limit} (hanswer : b.answer = a.answer)
    (hcut : b.isCut l = a.isCut l) : b.within l = a.within l := by
  rw [Web.Arrival.within, Web.Arrival.within, hanswer, hcut]

theorem Schema.result_attempt_congr (schema : Schema) {s : Settings} {url : String}
    (h : (g url).within (.ofSeconds s.fetchTimeout) = (f url).within (.ofSeconds s.fetchTimeout)) :
    (schema.attempt s g (some url) none).result = (schema.attempt s f (some url) none).result := by
  unfold attempt
  split
  next => rfl
  next => rfl
  next address haddress _ _ =>
    cases haddress
    unfold attemptUrl
    dsimp only [Option.getD_some]
    rw [h]
  next => rfl

theorem Config.resultOf_congr
    (h : (g i.url).within (.ofSeconds c.defaults.settings.fetchTimeout) =
      (f i.url).within (.ofSeconds c.defaults.settings.fetchTimeout)) :
    c.resultOf g i = c.resultOf f i := by
  unfold resultOf attempt
  cases c.schemas.find? (·.1 = i.schema) with
  | none => rfl
  | some entry =>
    simp only [Option.map_some, Option.bind_some, entry.2.result_attempt_congr h]

theorem Schema.url_of_scrapeOrFail {schema : Schema} {s : Settings} {markup : String}
    {url : Option String} {result : Result}
    (h : schema.scrapeOrFail s markup url = .ok result) : result.url = url := by
  unfold scrapeOrFail scrape at h
  cases hd : Document.ofMarkup markup url s.parser .asWritten with
  | error f => simp [hd] at h
  | ok d =>
    simp only [hd, Except.ok.injEq] at h
    rw [← h]

theorem Schema.url_of_attempt {schema : Schema} {s : Settings} {url : String} {result : Result}
    (h : (schema.attempt s fetch (some url) none).result = some (.ok result)) :
    result.url = some url := by
  unfold attempt at h
  split at h
  next => cases h
  next => exact url_of_scrapeOrFail (Option.some.inj h)
  next address haddress _ _ =>
    cases haddress
    unfold attemptUrl at h
    dsimp only [Option.getD_some] at h
    split at h
    · cases h
    · cases h
    · cases h
    · exact url_of_scrapeOrFail (Option.some.inj h)
  next => cases h

/-- A result tells the address of its item. -/
theorem Config.url_of_resultOf {result : Result} (h : c.resultOf fetch i = some result) :
    result.url = some i.url := by
  unfold resultOf attempt at h
  split at h
  next found hfound =>
    cases h
    obtain ⟨a, hattempt, hresult⟩ := Option.bind_eq_some_iff.mp hfound
    obtain ⟨entry, -, rfl⟩ := Option.map_eq_some_iff.mp hattempt
    exact Schema.url_of_attempt hresult
  next => cases h

namespace Batch

/-- Pages that arrive in two ways, which differ in time only. The time limit of the batch cuts the
same fetches in both. -/
structure SamePages (c : Config) (f g : String → Web.Arrival) (items : List Item) : Prop where
  answered : ∀ i ∈ items, (f i.url).answer ≠ none
  answers : ∀ i ∈ items, (g i.url).answer = (f i.url).answer
  cuts : ∀ i ∈ items, (g i.url).isCut (.ofSeconds c.defaults.settings.fetchTimeout) =
    (f i.url).isCut (.ofSeconds c.defaults.settings.fetchTimeout)

theorem finds_congr (h : SamePages c f g items) : c.finds g items = c.finds f items := by
  refine List.filterMap_congr fun i hi => ?_
  rw [Config.resultOf_congr (Web.within_congr (h.answers i hi) (h.cuts i hi))]

theorem WritableResults.congr (h : SamePages c f g items) (hf : WritableResults c f items) :
    WritableResults c g items := by
  intro i hi result hresult
  rw [Config.resultOf_congr (Web.within_congr (h.answers i hi) (h.cuts i hi))] at hresult
  exact hf i hi result hresult

theorem feasible_of_answered (hschemas : ∀ i ∈ items, i.schema ∈ c.schemas.map (·.1))
    (h : ∀ i ∈ items, (fetch i.url).answer ≠ none) : Feasible c fetch items :=
  ⟨hschemas, fun i hi hnone => absurd hnone (h i hi)⟩

/-- Two runs over pages that differ in the time of their arrival leave the same files, with the same
counts and the same lines but for their order: one for each result. So does a run with any other
order of events. -/
theorem run_leaves_alike (hschemas : ∀ i ∈ items, i.schema ∈ c.schemas.map (·.1))
    (hpages : SamePages c f g items) (hresults : WritableResults c f items)
    (hopens : ∀ i ∈ items, start.opens (fileFor root i.url)) :
    ∃ kept : List (Item × Result), (∀ p ∈ kept, p.1 ∈ items ∧ p.2.url = some p.1.url) ∧
      Leaves root start kept
        (run .ofStore c f { place := (.files { root, limit }, start) } items) ∧
      Leaves root start kept
        (run .ofStore c g { place := (.files { root, limit }, start) } items) ∧
      ∀ events, (landings events).Perm (List.range items.length) → Leaves root start kept
        (through .ofStore c f { place := (.files { root, limit }, start) } items events) := by
  have hf : Feasible c f items := feasible_of_answered hschemas hpages.answered
  have hg : Feasible c g items := feasible_of_answered hschemas fun i hi =>
    hpages.answers i hi ▸ hpages.answered i hi
  refine ⟨c.finds f items, ?_, run_leaves hf hresults hopens, ?_,
    fun events => through_leaves hf hresults hopens⟩
  · intro p hp
    obtain ⟨i, hi, hresult⟩ := List.mem_filterMap.mp hp
    obtain ⟨result, hfound, rfl⟩ := Option.map_eq_some_iff.mp hresult
    exact ⟨hi, Config.url_of_resultOf hfound⟩
  · rw [← finds_congr hpages]
    exact run_leaves hg (hresults.congr hpages) hopens

/-- Two fetches at a time, each for so long, of pages that tell their address. -/
def timed (seconds : Float) : Config where
  defaults := { threads := 2, settings := { fetchTimeout := some seconds } }
  schemas := [("s", [("at", .source "url")])]

/-- A page that is there at once. -/
def soon : Web.Arrival := { answer := some (.ok "<p>") }

/-- What comes of a page that tells its address. -/
def told (url : String) : Result := ⟨[("at", .text url)], [], some url⟩

theorem resultOf_timed (seconds : Float) {page : Web.Arrival} (hpage : page.answer = some (.ok "<p>"))
    {url : String} (hurl : url ≠ "") (named : Bool) :
    (timed seconds).resultOf (fun _ => page) ⟨url, "s", named⟩ =
      if page.isCut (.ofSeconds (some seconds)) then none else some (told url) := by
  have hscrape : Schema.scrape [("at", .source "url")] { fetchTimeout := some seconds } "<p>"
      (some url) = .ok (told url) := by cbv
  have hattempt : (timed seconds).attempt (fun _ => page) ⟨url, "s", named⟩ =
      some (Schema.attemptUrl [("at", .source "url")] { fetchTimeout := some seconds }
        (fun _ => page) url) := by
    simp [timed, Config.attempt, Schema.attempt]
  cases hcut : page.isCut (.ofSeconds (some seconds)) <;>
    simp [Config.resultOf, hattempt, Schema.attemptUrl, Web.Arrival.within, hpage, hcut,
      Schema.scrapeOrFail, hscrape]

theorem writableResults_timed (seconds : Float) {page : Web.Arrival}
    (hpage : page.answer = some (.ok "<p>"))
    (hitems : ∀ i ∈ items, i.schema = "s" ∧ i.url ≠ "" ∧
      Writable ((told i.url).recordWith "s")) :
    WritableResults (timed seconds) (fun _ => page) items := by
  rintro ⟨url, schema, named⟩ hi result hresult
  obtain ⟨rfl, hurl, hwritable⟩ := hitems _ hi
  rw [resultOf_timed seconds hpage hurl] at hresult
  split at hresult
  next => cases hresult
  next =>
    cases hresult
    exact hwritable

/-- A disk with nothing but a folder for the files of a store. -/
def vacant : Disk := { entries := [(["out"], .folder)] }

theorem run_leaves_alike_slow :
    let late : Web.Arrival := { soon with turns := 5, pause := 1200000 }
    let items : List Item := [⟨"http://a.org/", "s", false⟩, ⟨"http://b.org/", "s", false⟩]
    ∃ kept : List (Item × Result), (∀ p ∈ kept, p.1 ∈ items ∧ p.2.url = some p.1.url) ∧
      Leaves { parts := ["out"] } vacant kept (run .ofStore (timed 1.5) (fun _ => soon)
        { place := (.files { root := { parts := ["out"] }, limit := 1 }, vacant) } items) ∧
      Leaves { parts := ["out"] } vacant kept (run .ofStore (timed 1.5) (fun _ => late)
        { place := (.files { root := { parts := ["out"] }, limit := 1 }, vacant) } items) ∧
      ∀ events, (landings events).Perm (List.range items.length) →
        Leaves { parts := ["out"] } vacant kept (through .ofStore (timed 1.5) (fun _ => soon)
          { place := (.files { root := { parts := ["out"] }, limit := 1 }, vacant) } items
          events) := by
  intro late items
  have hpages : SamePages (timed 1.5) (fun _ => soon) (fun _ => late) items :=
    ⟨fun _ _ => nofun, fun _ _ => rfl, fun _ _ => by decide +kernel⟩
  have hopens : ∀ i ∈ items, vacant.opens (fileFor { parts := ["out"] } i.url) := by
    decide +kernel
  have htold : ∀ i ∈ items, i.schema = "s" ∧ i.url ≠ "" ∧
      Writable ((told i.url).recordWith "s") := by
    rintro i hi
    rcases List.mem_cons.mp hi with rfl | hi
    · exact ⟨rfl, by decide, (hasLine_recordWith _ _).writable (by decide +kernel)⟩
    · rw [List.mem_singleton] at hi
      subst hi
      exact ⟨rfl, by decide, (hasLine_recordWith _ _).writable (by decide +kernel)⟩
  exact run_leaves_alike (by decide) hpages (writableResults_timed 1.5 rfl htold) hopens

/-- What comes of one page depends on whether it is cut. -/
theorem finds_timed (seconds : Float) {page : Web.Arrival} (hpage : page.answer = some (.ok "<p>")) :
    (timed seconds).finds (fun _ => page) [⟨"http://a.org/", "s", false⟩] =
      if page.isCut (.ofSeconds (some seconds)) then []
      else [(⟨"http://a.org/", "s", false⟩, told "http://a.org/")] := by
  cases hcut : page.isCut (.ofSeconds (some seconds)) <;>
    simp [Config.finds, resultOf_timed seconds hpage, hcut]

/-- A page that is cut leaves no record, where the same page leaves one if it is there in time. -/
theorem written_timed {seconds : Float} {late : Web.Arrival}
    (hlate : late.answer = some (.ok "<p>")) (hcut : late.isCut (.ofSeconds (some seconds)))
    (huncut : soon.isCut (.ofSeconds (some seconds)) = false) :
    let items : List Item := [⟨"http://a.org/", "s", false⟩]
    let place : Store × Disk := (.files { root := { parts := ["out"] }, limit := 1 }, vacant)
    ∃ s d s' d',
      (run .ofStore (timed seconds) (fun _ => soon) { place } items).1.place = (.files s, d) ∧
      (run .ofStore (timed seconds) (fun _ => late) { place } items).1.place = (.files s', d') ∧
      (s.finalize d).store.writtenOf "a.org" = 1 ∧
      (s'.finalize d').store.writtenOf "a.org" = 0 := by
  intro items place
  have hopens : ∀ i ∈ items, vacant.opens (fileFor { parts := ["out"] } i.url) := by
    decide +kernel
  have hdomain : domainFor "http://a.org/" = "a.org" := by decide +kernel
  have hfeasible (page : Web.Arrival) (hpage : page.answer = some (.ok "<p>")) :
      Feasible (timed seconds) (fun _ => page) items :=
    feasible_of_answered (by simp [items, timed]) fun _ _ => by simp [hpage]
  have htold : ∀ i ∈ items, i.schema = "s" ∧ i.url ≠ "" ∧
      Writable ((told i.url).recordWith "s") := by
    intro i hi
    rw [List.mem_singleton] at hi
    subst hi
    exact ⟨rfl, by decide, (hasLine_recordWith _ _).writable (by decide +kernel)⟩
  obtain ⟨-, s, d, hs, hsettled⟩ :=
    run_leaves (hfeasible soon rfl) (writableResults_timed seconds rfl htold) hopens
  obtain ⟨-, s', d', hs', hsettled'⟩ :=
    run_leaves (hfeasible late hlate) (writableResults_timed seconds hlate htold) hopens
  rw [finds_timed seconds rfl, if_neg (by simp [huncut])] at hsettled
  rw [finds_timed seconds hlate, if_pos hcut] at hsettled'
  refine ⟨s, d, s', d', hs, hs', ?_, hsettled'.written "a.org"⟩
  rw [hsettled.written]
  simp [savedFor, saving, Action.recordsFor, hdomain]

/-- A page that comes after its time is over is cut, and its record is missing. With a time that is
not a number a few turns are too many. -/
theorem run_leaves_nothing_late :
    let items : List Item := [⟨"http://a.org/", "s", false⟩]
    let place : Store × Disk := (.files { root := { parts := ["out"] }, limit := 1 }, vacant)
    (∀ i ∈ items, vacant.opens (fileFor { parts := ["out"] } i.url)) ∧
      ∀ timing ∈ [((0.1 : Float), { soon with pause := 300000 }), (0 / 0, { soon with turns := 5 })],
        timing.2.answer = soon.answer ∧ ∃ s d s' d',
          (run .ofStore (timed timing.1) (fun _ => soon) { place } items).1.place =
            (.files s, d) ∧
          (run .ofStore (timed timing.1) (fun _ => timing.2) { place } items).1.place =
            (.files s', d') ∧
          (s.finalize d).store.writtenOf "a.org" = 1 ∧
          (s'.finalize d').store.writtenOf "a.org" = 0 := by
  intro items place
  refine ⟨by decide +kernel, fun timing htiming => ?_⟩
  rcases List.mem_cons.mp htiming with rfl | htiming
  · exact ⟨rfl, written_timed rfl (by decide +kernel) (by decide +kernel)⟩
  · rw [List.mem_singleton] at htiming
    subst htiming
    exact ⟨rfl, written_timed rfl (by decide +kernel) (by decide +kernel)⟩

end Batch

end Latency

end Gleaner
