import Gleaner.Batch.Basic
import Gleaner.Proofs.Batch.Landing

/-! A batch makes of each item what the item comes to alone, in whatever order the items land. -/

namespace Gleaner

open Batch

variable {σ ε : Type} {k : Keeper σ ε} {reached : σ → Prop} {answer : Item → Result → Keeping ε}
  {c : Config} {fetch : String → Web.Arrival} {i : Item} {items : List Item}

/-- What an item comes to on its own: the result of its scrape, if there is one and it is kept. -/
def Config.alone? (c : Config) (fetch : String → Web.Arrival) (answer : Item → Result → Keeping ε)
    (i : Item) : Option Result :=
  match (c.attempt fetch i).bind (·.result) with
  | some (.ok result) => match answer i result with
    | .kept _ => some result
    | _ => none
  | _ => none

/-- A fetch that never ends by itself is cut. -/
def Config.Bounds (c : Config) (a : Web.Arrival) : Prop :=
  a.answer = none → (Web.Limit.ofSeconds c.defaults.settings.fetchTimeout).ends

namespace Web

variable {a : Arrival} {l : Limit}

/-- A fetch that hangs is cut by every time that is over at some point. -/
theorem isCut_of_ends (hanswer : a.answer = none) (h : l.ends) : a.isCut l := by
  cases l <;> simp_all [Arrival.isCut, Limit.ends]

theorem halt_notMem_flight (h : a.answer ≠ none) : Move.halt ∉ a.flight := by
  unfold Arrival.flight
  split
  next hnone => exact absurd hnone h
  next => split <;> simp [List.mem_replicate]

theorem halt_notMem_course (h : a.answer = none → l.ends) : Move.halt ∉ a.course l := by
  have huncut (hcut : ¬a.isCut l) : Move.halt ∉ a.flight :=
    halt_notMem_flight fun hnone => hcut (isCut_of_ends hnone (h hnone))
  cases l with
  | unlimited | boundless => simpa [Arrival.course] using huncut (by simp [Arrival.isCut])
  | spent => simp [Arrival.course]
  | brief | after n =>
    unfold Arrival.course
    dsimp only
    split
    next => simp
    next hcut => simpa using huncut hcut

theorem within_ne_never (h : a.answer = none → l.ends) : a.within l ≠ .never := by
  unfold Arrival.within
  split
  next => exact nofun
  next hcut =>
    split
    next hnone => exact absurd (isCut_of_ends hnone (h hnone)) hcut
    next => exact nofun

theorem within_eq_never (hanswer : a.answer = none) (h : ¬l.ends) : a.within l = .never := by
  cases l with
  | unlimited | boundless => simp [Arrival.within, Arrival.isCut, hanswer]
  | spent | brief | after n => exact absurd rfl h

end Web

/-- A scrape whose fetch is bounded ends. -/
theorem Schema.attempt_ends (schema : Schema) (hfetch : c.Bounds (fetch i.url)) :
    ∃ outcome, (schema.attempt c.defaults.settings fetch (some i.url) none).result =
      some outcome := by
  unfold attempt
  split
  next => exact ⟨_, rfl⟩
  next => exact ⟨_, rfl⟩
  next address hurl _ _ =>
    cases hurl
    have hnever := Web.within_ne_never hfetch
    unfold attemptUrl
    dsimp only [Option.getD_some]
    split
    next hend => exact absurd hend hnever
    next => exact ⟨_, rfl⟩
    next => exact ⟨_, rfl⟩
    next => exact ⟨_, rfl⟩
  next => exact ⟨_, rfl⟩

/-- A schema that is there is found. -/
theorem exists_schema {name : String} (h : name ∈ c.schemas.map (·.1)) :
    ∃ found, c.schemas.find? (·.1 = name) = some found := by
  obtain ⟨entry, hentry, hname⟩ := List.mem_map.mp h
  rw [← Option.isSome_iff_exists, List.find?_isSome]
  exact ⟨entry, hentry, by simpa using hname⟩

/-- An item whose schema is there and whose fetch is bounded lands with a result or a failure. -/
theorem attempt_lands (hschema : i.schema ∈ c.schemas.map (·.1)) (hfetch : c.Bounds (fetch i.url)) :
    ∃ a outcome, c.attempt fetch i = some a ∧ a.result = some outcome := by
  obtain ⟨found, hfound⟩ := exists_schema hschema
  obtain ⟨outcome, hresult⟩ := found.2.attempt_ends hfetch
  exact ⟨_, outcome, by rw [Config.attempt, hfound, Option.map_some], hresult⟩

namespace Batch

/-- A keeper that answers to a record for what it is, whatever it has kept before, and never with a
fault that ends the run. -/
structure Keeper.Steady (k : Keeper σ ε) (reached : σ → Prop) (answer : Item → Result → Keeping ε) :
    Prop where
  answers : ∀ place (i : Item) (result : Result), reached place →
    (k.save place i.url (result.recordWith i.schema)).2.2 = answer i result
  stays : ∀ place (i : Item) (result : Result), reached place →
    reached (k.save place i.url (result.recordWith i.schema)).1
  mild : ∀ i result fault, answer i result ≠ .raised fault

/-- The counts of so many items with these results. The items without a result have failed. -/
def Stats.ofResults (items : Nat) (results : List Result) : Stats where
  total := items
  success := results.countP (·.isWhole)
  degraded := results.countP (!·.isWhole)
  failed := items - results.length

/-- A gain counts its result among those that are whole or among those that are not. -/
theorem Run.stats_gain (r : Run σ ε) (n : Nat) (result : Result) :
    (r.gain n result).batch.stats = { r.batch.stats with
      success := r.batch.stats.success + [result].countP (·.isWhole)
      degraded := r.batch.stats.degraded + [result].countP (!·.isWhole) } := by
  cases hwhole : result.isWhole <;> simp [gain, count, hwhole]

section Told

variable {r : Run σ ε} {landed : List Nat} {n total : Nat} {outcomeAt : Nat → Option Result}
  {result : Result}

/-- A run tells of each item that has landed what it came to. -/
structure Told (reached : σ → Prop) (outcomeAt : Nat → Option Result) (total : Nat) (r : Run σ ε)
    (landed : List Nat) : Prop where
  results : r.results = landed.filterMap fun n => (outcomeAt n).map (n, ·)
  stats : r.batch.stats = { Stats.ofResults landed.length (landed.filterMap outcomeAt) with total }
  escape : r.escape = none
  place : reached r.batch.place

theorem told_note (h : Told reached outcomeAt total r landed) (notes : Log) :
    Told reached outcomeAt total (r.note notes) landed :=
  ⟨h.results, h.stats, h.escape, h.place⟩

theorem told_fail (h : Told reached outcomeAt total r landed) (hn : outcomeAt n = none)
    (why : String) : Told reached outcomeAt total (r.fail why) (landed ++ [n]) := by
  refine ⟨?_, ?_, h.escape, h.place⟩
  · simp [Run.fail, Run.count, Run.note, h.results, hn]
  · have hlast : (landed ++ [n]).filterMap outcomeAt = landed.filterMap outcomeAt := by
      simp [hn]
    have hlength := List.length_filterMap_le outcomeAt landed
    simp only [Run.fail, Run.count, Run.note, h.stats, Stats.ofResults, hlast, List.length_append,
      List.length_singleton]
    congr 1
    omega

theorem told_gain (h : Told reached outcomeAt total r landed) (hn : outcomeAt n = some result) :
    Told reached outcomeAt total (r.gain n result) (landed ++ [n]) := by
  refine ⟨?_, ?_, h.escape, h.place⟩
  · simp [Run.gain, Run.count, h.results, hn]
  · have hlast : (landed ++ [n]).filterMap outcomeAt = landed.filterMap outcomeAt ++ [result] := by
      simp [hn]
    rw [Run.stats_gain, h.stats, hlast]
    simp only [Stats.ofResults, List.countP_append, List.length_append, List.length_singleton]
    congr 1
    omega

end Told

section Follow

variable {r : Run σ ε} {landed : List Nat} {n total : Nat} {events : List Event}

/-- The items of a batch with their scrapes. -/
def visitsOf (c : Config) (fetch : String → Web.Arrival) (items : List Item) : List Visit :=
  items.map fun i => ⟨i, c.attempt fetch i⟩

@[simp] theorem length_visitsOf (c : Config) (fetch : String → Web.Arrival) (items : List Item) :
    (visitsOf c fetch items).length = items.length :=
  List.length_map _

/-- What the item of a number comes to on its own. -/
def outcomeAt (c : Config) (fetch : String → Web.Arrival) (answer : Item → Result → Keeping ε)
    (items : List Item) (n : Nat) : Option Result :=
  items[n]?.bind (c.alone? fetch answer)

/-- The items of a batch have schemas, and their fetches are bounded. -/
structure Feasible (c : Config) (fetch : String → Web.Arrival) (items : List Item) : Prop where
  schemas : ∀ i ∈ items, i.schema ∈ c.schemas.map (·.1)
  fetches : ∀ i ∈ items, c.Bounds (fetch i.url)

theorem told_land (hk : k.Steady reached answer) (hitems : Feasible c fetch items)
    (h : Told reached (outcomeAt c fetch answer items) total r landed) (hi : items[n]? = some i) :
    Told reached (outcomeAt c fetch answer items) total (r.land k n ⟨i, c.attempt fetch i⟩)
      (landed ++ [n]) := by
  have hmem := List.mem_of_getElem? hi
  obtain ⟨a, outcome, hattempt, hresult⟩ :=
    attempt_lands (hitems.schemas i hmem) (hitems.fetches i hmem)
  have halone : outcomeAt c fetch answer items n = c.alone? fetch answer i := by
    rw [outcomeAt, hi, Option.bind_some]
  simp only [Config.alone?, hattempt, Option.bind_some, hresult] at halone
  unfold Run.land
  simp only [hattempt, hresult]
  cases outcome with
  | error f => exact told_fail h halone _
  | ok result =>
    have hanswer := hk.answers _ i result h.place
    have hstays := hk.stays _ i result h.place
    have hnoted := fun notes => told_note (r := { r with batch := { r.batch with
      place := (k.save r.batch.place i.url (result.recordWith i.schema)).1 } })
      ⟨h.results, h.stats, h.escape, hstays⟩ notes
    unfold Run.keep
    dsimp only at halone ⊢
    rw [hanswer]
    cases hkeeping : answer i result with
    | kept path =>
      rw [hkeeping] at halone
      exact told_gain (hnoted _) halone
    | refused message =>
      rw [hkeeping] at halone
      exact told_fail (hnoted _) halone _
    | raised fault => exact absurd hkeeping (hk.mild i result fault)

/-- What starts leave as it is and landings keep holds after all events, whatever their order. -/
theorem foldl_follow {P : Run σ ε → List Nat → Prop} {r : Run σ ε}
    (hbegin : ∀ {r landed} v, P r landed → P (r.begin v) landed)
    (hland : ∀ {r landed n i}, P r landed → items[n]? = some i →
      P (r.land k n ⟨i, c.attempt fetch i⟩) (landed ++ [n]))
    (h : P r landed) (hevents : ∀ n ∈ landings events, n < items.length) :
    P (events.foldl (Run.follow k (visitsOf c fetch items)) r) (landed ++ landings events) := by
  induction events generalizing r landed with
  | nil => simpa [landings] using h
  | cons e events ih =>
    rw [List.foldl_cons]
    cases e with
    | started n =>
      rw [Run.follow]
      refine ih ?_ hevents
      cases (visitsOf c fetch items)[n]? with
      | none => exact h
      | some v => exact hbegin v h
    | finished n => exact ih h hevents
    | landed n =>
      have hnumbers : landings (.landed n :: events) = n :: landings events := rfl
      rw [hnumbers] at hevents ⊢
      obtain ⟨i, hi⟩ : ∃ i, items[n]? = some i :=
        ⟨_, List.getElem?_eq_getElem (hevents n List.mem_cons_self)⟩
      have hvisit : (visitsOf c fetch items)[n]? = some ⟨i, c.attempt fetch i⟩ := by
        rw [visitsOf, List.getElem?_map, hi, Option.map_some]
      rw [Run.follow, hvisit, List.append_cons]
      exact ih (hland h hi) fun m hm => hevents m (List.mem_cons_of_mem n hm)

/-- A run tells of all items that have landed what they came to, whatever the order of events. -/
theorem told_foldl (hk : k.Steady reached answer) (hitems : Feasible c fetch items)
    (h : Told reached (outcomeAt c fetch answer items) total r landed)
    (hevents : ∀ n ∈ landings events, n < items.length) :
    Told reached (outcomeAt c fetch answer items) total
      (events.foldl (Run.follow k (visitsOf c fetch items)) r) (landed ++ landings events) := by
  apply foldl_follow _ _ h hevents
  · exact fun v h => ⟨h.results, h.stats, h.escape, h.place⟩
  · exact fun h hi => told_land hk hitems h hi

end Follow

section Close

variable {r : Run σ ε} {landed : List Nat} {events : List Event}

theorem find?_filterMap_number (f : Nat → Option Result) (landed : List Nat) (n : Nat) :
    (landed.filterMap fun m => (f m).map (m, ·)).find? (·.1 = n) =
      if n ∈ landed then (f n).map (n, ·) else none := by
  induction landed with
  | nil => rfl
  | cons m landed ih =>
    by_cases hm : m = n
    · subst hm
      cases hf : f m with
      | none => simp [hf, ih]
      | some result => simp [hf]
    · cases hf : f m with
      | none => simp [hf, ih, Ne.symm hm]
      | some result => simp [hf, ih, hm, Ne.symm hm]

/-- Going through the numbers of the items is going through the items. -/
theorem filterMap_getElem? {α β : Type} (f : α → Option β) (as : List α) :
    (List.range as.length).filterMap (fun n => as[n]?.bind f) = as.filterMap f := by
  have hmap : (List.range as.length).map (fun n => as[n]?.bind f) = as.map f := by
    apply List.ext_getElem
    · simp
    · intro n _ hn
      have hn : n < as.length := by simpa using hn
      simp [List.getElem?_eq_getElem hn]
  have hfilter := congrArg (List.filterMap id) hmap
  rwa [List.filterMap_map, List.filterMap_map] at hfilter

theorem filterMap_outcomeAt (c : Config) (fetch : String → Web.Arrival)
    (answer : Item → Result → Keeping ε) (items : List Item) :
    (List.range items.length).filterMap (outcomeAt c fetch answer items) =
      items.filterMap (c.alone? fetch answer) :=
  filterMap_getElem? _ items

theorem Stats.ofResults_perm {results others : List Result} (h : results.Perm others) (n : Nat) :
    Stats.ofResults n results = Stats.ofResults n others := by
  simp only [ofResults, h.length_eq, h.countP_eq]

/-- The results of a run in the order of its items, once all of them have landed. -/
theorem inOrder_of_told {total : Nat}
    (h : Told reached (outcomeAt c fetch answer items) total r landed)
    (hlanded : landed.Perm (List.range items.length)) :
    r.inOrder items.length = items.filterMap (c.alone? fetch answer) := by
  have hall : ∀ n ∈ List.range items.length,
      (r.results.find? (·.1 = n)).map (·.2) = outcomeAt c fetch answer items n := by
    intro n hn
    rw [h.results, find?_filterMap_number, if_pos (hlanded.mem_iff.mpr hn), Option.map_map]
    exact Option.map_id'
  rw [Run.inOrder, List.filterMap_congr hall, filterMap_outcomeAt]

/-- A run over so many items before anything happens to them. -/
def opening (b : Batch σ) (items : Nat) (events : List Event) : Run σ ε where
  batch := { b with
    stats := { b.stats with total := items }
    log := b.log ++ [.info origin s!"Starting batch processing of {items} items"]
    peak := max b.peak (busiest events) }

/-- The run of a batch over items to which events happen in this order. -/
def through (k : Keeper σ ε) (c : Config) (fetch : String → Web.Arrival) (b : Batch σ)
    (items : List Item) (events : List Event) : Batch σ × Ending ε :=
  (events.foldl (Run.follow k (visitsOf c fetch items)) (b.opening items.length events)).close
    (visitsOf c fetch items)

theorem run_eq_through (hitems : items ≠ []) (b : Batch σ) :
    b.run k c fetch items = b.through k c fetch items
      (schedule c.places ((visitsOf c fetch items).map (·.course))) := by
  rw [run, if_neg (by simpa using hitems)]
  rfl

theorem allLand_visitsOf (hitems : Feasible c fetch items) :
    allLand (visitsOf c fetch items) = true := by
  rw [allLand, List.all_eq_true]
  intro v hv
  obtain ⟨i, hi, rfl⟩ := List.mem_map.mp hv
  obtain ⟨a, outcome, hattempt, hresult⟩ :=
    attempt_lands (hitems.schemas i hi) (hitems.fetches i hi)
  simp [hattempt, hresult]

/-- A run without an escape returns its results once all items have landed. -/
theorem close_of_allLand {visits : List Visit} (hescape : r.escape = none)
    (hall : allLand visits = true) : ∃ notes, r.close visits =
      ((r.note notes).batch, .returned (r.inOrder visits.length)) := by
  rw [Run.close, hescape, hall]
  exact ⟨_, rfl⟩

/-- The results and the counts of a run in which every item lands once. -/
theorem through_eq_alone (hk : k.Steady reached answer) {place : σ} (hplace : reached place)
    (hitems : Feasible c fetch items)
    (hevents : (landings events).Perm (List.range items.length)) :
    ∃ last, through k c fetch { place } items events =
        (last, .returned (items.filterMap (c.alone? fetch answer))) ∧
      last.stats = .ofResults items.length (items.filterMap (c.alone? fetch answer)) := by
  have hbelow : ∀ n ∈ landings events, n < items.length :=
    fun n hn => List.mem_range.mp (hevents.mem_iff.mp hn)
  have hopening : Told reached (outcomeAt c fetch answer items) items.length
      (opening { place } items.length events : Run σ ε) [] := ⟨rfl, rfl, rfl, hplace⟩
  have htold := told_foldl hk hitems hopening hbelow
  rw [List.nil_append] at htold
  have hresults : ((landings events).filterMap (outcomeAt c fetch answer items)).Perm
      (items.filterMap (c.alone? fetch answer)) := by
    rw [← filterMap_outcomeAt]
    exact hevents.filterMap _
  have hstats := htold.stats
  rw [hevents.length_eq, List.length_range, Stats.ofResults_perm hresults] at hstats
  have horder := inOrder_of_told htold hevents
  obtain ⟨notes, hclose⟩ := close_of_allLand htold.escape (allLand_visitsOf hitems)
  rw [length_visitsOf, horder] at hclose
  exact ⟨_, hclose, hstats⟩

end Close

theorem places_pos (c : Config) : 0 < c.places := by
  unfold Config.places
  omega

theorem halt_notMem_attempt {schema : Schema} {settings : Settings} {url markup : Option String}
    (h : (schema.attempt settings fetch url markup).result ≠ none) :
    .halt ∉ (schema.attempt settings fetch url markup).course := by
  unfold Schema.attempt at h ⊢
  split at h
  next => exact List.not_mem_nil
  next => exact List.not_mem_nil
  next address _ _ =>
    apply Web.halt_notMem_course
    intro hanswer
    by_contra hends
    have hnever := Web.within_eq_never hanswer hends
    apply h
    simp only [Schema.attemptUrl, hnever]
  next => exact List.not_mem_nil

/-- Every item of a run that has no end without one lands once. -/
theorem landings_of_allLand (hall : allLand (visitsOf c fetch items) = true) :
    (landings (schedule c.places ((visitsOf c fetch items).map (·.course)))).Perm
      (List.range items.length) := by
  have hcourses : ∀ course ∈ (visitsOf c fetch items).map (·.course), .halt ∉ course := by
    intro course hcourse
    obtain ⟨v, hv, rfl⟩ := List.mem_map.mp hcourse
    have hlands := List.all_eq_true.mp hall v hv
    obtain ⟨i, -, rfl⟩ := List.mem_map.mp hv
    dsimp only [Visit.course] at hlands ⊢
    unfold Config.attempt at hlands ⊢
    cases hentry : c.schemas.find? (·.1 = i.schema) with
    | none => exact List.not_mem_nil
    | some entry =>
      rw [hentry] at hlands
      exact halt_notMem_attempt (Option.isSome_iff_ne_none.mp hlands)
  simpa using landings_schedule (places_pos c) hcourses

/-- Every item of a run lands once. -/
theorem landings_run (hitems : Feasible c fetch items) :
    (landings (schedule c.places ((visitsOf c fetch items).map (·.course)))).Perm
      (List.range items.length) :=
  landings_of_allLand (allLand_visitsOf hitems)

/-- What a batch makes of items is what each of them comes to alone, in the order of the items, and
each is counted once for it. It is the same for all orders in which items start, end and land. -/
theorem run_eq_alone (hk : k.Steady reached answer) {place : σ} (hplace : reached place)
    (hitems : Feasible c fetch items) :
    (∃ last, run k c fetch { place } items =
        (last, .returned (items.filterMap (c.alone? fetch answer))) ∧
      last.stats = .ofResults items.length (items.filterMap (c.alone? fetch answer))) ∧
    ∀ events, (landings events).Perm (List.range items.length) →
      ∃ last, through k c fetch { place } items events =
          (last, .returned (items.filterMap (c.alone? fetch answer))) ∧
        last.stats = .ofResults items.length (items.filterMap (c.alone? fetch answer)) := by
  refine ⟨?_, fun events => through_eq_alone hk hplace hitems⟩
  by_cases hempty : items = []
  · subst hempty
    exact ⟨_, rfl, rfl⟩
  · rw [run_eq_through hempty]
    exact through_eq_alone hk hplace hitems (landings_run hitems)

/-- One of four items has a result: the second hangs, the third is not answered, and the last is
not kept. -/
theorem run_eq_alone_unlucky :
    let c : Config := {
      defaults := { threads := -1, settings := { fetchTimeout := some 1.5 } }
      schemas := [("s", [("at", .source "url")])] }
    let fetch : String → Web.Arrival := fun url =>
      if url = "b" then { answer := none }
      else if url = "c" then { answer := some (.error ⟨.missing, "gone"⟩), turns := 2 }
      else { answer := some (.ok "<p>"), turns := 3 }
    let k : Keeper Nat String := { save := fun kept url _ =>
      (kept + 1, [], if url = "d" then .refused "full" else .kept url) }
    ∃ last, run k c fetch { place := 0 } [⟨"a", "s", false⟩, ⟨"b", "s", false⟩, ⟨"c", "s", false⟩,
          ⟨"d", "s", false⟩] =
        (last, .returned [⟨[("at", .text "a")], [], some "a"⟩]) ∧
      last.stats = { total := 4, success := 1, degraded := 0, failed := 3 } := by
  intro c fetch k
  have hk : k.Steady (fun _ => True)
      fun i _ => if i.url = "d" then .refused "full" else .kept i.url := by
    refine ⟨fun _ _ _ _ => rfl, fun _ _ _ _ => trivial, ?_⟩
    intro i result fault
    split <;> exact nofun
  have hitems : Feasible c fetch [⟨"a", "s", false⟩, ⟨"b", "s", false⟩, ⟨"c", "s", false⟩,
      ⟨"d", "s", false⟩] :=
    ⟨by decide, fun i _ _ => by decide +kernel⟩
  have hlimit : Web.Limit.ofSeconds (some 1.5) = .after 1500000 := by decide +kernel
  have hscrape : ∀ t url, Schema.scrape [("at", .source "url")] { fetchTimeout := t } "<p>"
      (some url) = .ok ⟨[("at", .text url)], [], some url⟩ := by
    intro t url
    cbv
  have hresults : [⟨"a", "s", false⟩, ⟨"b", "s", false⟩, ⟨"c", "s", false⟩,
      ⟨"d", "s", false⟩].filterMap (c.alone? fetch fun i _ =>
        if i.url = "d" then (.refused "full" : Keeping String) else .kept i.url) =
      [⟨[("at", .text "a")], [], some "a"⟩] := by
    simp [c, fetch, Config.alone?, Config.attempt, Schema.attempt, Schema.attemptUrl, hlimit,
      Web.Arrival.within, Web.Arrival.isCut, Schema.scrapeOrFail, hscrape]
  obtain ⟨⟨last, hrun, hstats⟩, -⟩ := run_eq_alone hk trivial hitems
  rw [hresults] at hrun hstats
  exact ⟨last, hrun, hstats⟩

end Batch

end Gleaner
