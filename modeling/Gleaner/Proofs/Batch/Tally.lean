import Gleaner.Command.Batch
import Gleaner.Proofs.Basic
import Gleaner.Proofs.Batch.Filing

/-! What a batch counts. Its results and its counts are told by what the keeper was handed and what
it answered, whatever the order of events and whatever keeper it is. -/

namespace Gleaner

open Batch

variable {σ ε : Type} {c : Config} {fetch : String → Web.Arrival} {i : Item} {items : List Item}
  {k : Keeper σ ε}

namespace Batch

section Ledger

variable {place : σ} {landed later : List Nat} {n : Nat}

/-- A result that a keeper was handed, with the number of its item, and the answer to it. -/
structure Handing (ε : Type) where
  number : Nat
  result : Result
  answer : Keeping ε

/-- The path under which a record was kept, if it was. -/
def Keeping.path? : Keeping ε → Option String
  | .kept path => some path
  | .refused _ | .raised _ => none

/-- The result, if it was kept. -/
def Handing.gain? (h : Handing ε) : Option Result := h.answer.path?.map fun _ => h.result

/-- All that a keeper is handed while the items of these numbers land, one after the other. -/
def ledgerOf (k : Keeper σ ε) (c : Config) (fetch : String → Web.Arrival) (items : List Item)
    (place : σ) : List Nat → List (Handing ε)
  | [] => []
  | n :: rest => match findAt c fetch items n with
    | none => ledgerOf k c fetch items place rest
    | some p =>
      ⟨n, p.2, (k.save place p.1.url (p.2.recordWith p.1.schema)).2.2⟩ ::
        ledgerOf k c fetch items (k.take place p) rest

/-- What a keeper remembers after these landings. -/
def placeAfter (k : Keeper σ ε) (c : Config) (fetch : String → Web.Arrival) (items : List Item)
    (place : σ) (landed : List Nat) : σ :=
  (landed.filterMap (findAt c fetch items)).foldl k.take place

theorem ledgerOf_append (place : σ) (landed later : List Nat) :
    ledgerOf k c fetch items place (landed ++ later) = ledgerOf k c fetch items place landed ++
      ledgerOf k c fetch items (placeAfter k c fetch items place landed) later := by
  induction landed generalizing place with
  | nil => rfl
  | cons n landed ih =>
    cases hn : findAt c fetch items n with
    | none => simp [ledgerOf, placeAfter, hn, ih]
    | some p => simp [ledgerOf, placeAfter, hn, ih]

theorem ledgerOf_none (hn : findAt c fetch items n = none) (place : σ) (landed : List Nat) :
    ledgerOf k c fetch items place (landed ++ [n]) = ledgerOf k c fetch items place landed := by
  rw [ledgerOf_append]
  simp [ledgerOf, hn]

theorem ledgerOf_some {p : Item × Result} (hn : findAt c fetch items n = some p) (place : σ)
    (landed : List Nat) :
    ledgerOf k c fetch items place (landed ++ [n]) = ledgerOf k c fetch items place landed ++
      [⟨n, p.2, (k.save (placeAfter k c fetch items place landed) p.1.url
        (p.2.recordWith p.1.schema)).2.2⟩] := by
  rw [ledgerOf_append]
  simp [ledgerOf, hn]

theorem numbers_ledgerOf (k : Keeper σ ε) (c : Config) (fetch : String → Web.Arrival)
    (items : List Item) (place : σ) (landed : List Nat) :
    ((ledgerOf k c fetch items place landed).map (·.number)).Sublist landed := by
  induction landed generalizing place with
  | nil => exact .slnil
  | cons n landed ih =>
    rw [ledgerOf]
    cases findAt c fetch items n with
    | none => exact (ih place).cons n
    | some p => exact (ih _).cons_cons n

/-- What a ledger tells is what the keeper answered when it was handed the result of the item. -/
theorem exists_save {h : Handing ε} (hmem : h ∈ ledgerOf k c fetch items place landed) :
    ∃ before p, findAt c fetch items h.number = some p ∧ h.result = p.2 ∧
      h.answer = (k.save before p.1.url (p.2.recordWith p.1.schema)).2.2 := by
  induction landed generalizing place with
  | nil => exact absurd hmem List.not_mem_nil
  | cons n landed ih =>
    rw [ledgerOf] at hmem
    cases hn : findAt c fetch items n with
    | none =>
      rw [hn] at hmem
      exact ih hmem
    | some p =>
      rw [hn] at hmem
      rcases List.mem_cons.mp hmem with rfl | hrest
      · exact ⟨place, p, hn, rfl, rfl⟩
      · exact ih hrest

/-- The results of a ledger that were kept. -/
def gains (ledger : List (Handing ε)) : List Result := ledger.filterMap Handing.gain?

/-- What was kept of the item of a number. -/
def keptAt (ledger : List (Handing ε)) (n : Nat) : Option Result :=
  (ledger.find? (·.number = n)).bind Handing.gain?

end Ledger

section Landed

variable {r : Run σ ε} {n : Nat}

/-- A run whose keeper has been handed the result of an item. -/
def Run.handed (k : Keeper σ ε) (r : Run σ ε) (p : Item × Result) (notes : Log) : Run σ ε :=
  { r with batch := { r.batch with place := k.take r.batch.place p } }.note notes

/-- What a keeper answers when it is handed the result of an item. -/
def Run.answer (k : Keeper σ ε) (r : Run σ ε) (p : Item × Result) : Keeping ε :=
  (k.save r.batch.place p.1.url (p.2.recordWith p.1.schema)).2.2

/-- What a run makes of a result is decided by what the keeper answers. -/
theorem Run.keep_eq (k : Keeper σ ε) (r : Run σ ε) (n : Nat) (p : Item × Result) :
    ∃ notes, r.keep k n p.1 p.2 = match r.answer k p with
      | .kept _ => (r.handed k p notes).gain n p.2
      | .refused message =>
        (r.handed k p notes).fail s!"Failed to save result for {p.1.url}: {message}"
      | .raised fault => (r.handed k p notes).stop (.keeper fault) :=
  ⟨_, rfl⟩

/-- All that a landing can make of a run. -/
inductive Landed (k : Keeper σ ε) (c : Config) (fetch : String → Web.Arrival) (items : List Item)
    (r : Run σ ε) (n : Nat) : Run σ ε → Prop
  | unknown (e : Escape ε) : findAt c fetch items n = none → ¬ Feasible c fetch items →
      Landed k c fetch items r n (r.stop e)
  | hung : findAt c fetch items n = none → allLand (visitsOf c fetch items) = false →
      Landed k c fetch items r n r
  | failed (why : String) : findAt c fetch items n = none →
      Landed k c fetch items r n (r.fail why)
  | kept (p : Item × Result) (notes : Log) (path : String) : findAt c fetch items n = some p →
      r.answer k p = .kept path → Landed k c fetch items r n ((r.handed k p notes).gain n p.2)
  | refused (p : Item × Result) (notes : Log) (message why : String) :
      findAt c fetch items n = some p → r.answer k p = .refused message →
      Landed k c fetch items r n ((r.handed k p notes).fail why)
  | raised (p : Item × Result) (notes : Log) (fault : ε) : findAt c fetch items n = some p →
      r.answer k p = .raised fault →
      Landed k c fetch items r n ((r.handed k p notes).stop (.keeper fault))

theorem allLand_eq_false {a : Attempt} (hi : i ∈ items) (ha : c.attempt fetch i = some a)
    (hresult : a.result = none) : allLand (visitsOf c fetch items) = false := by
  rw [allLand, List.all_eq_false]
  exact ⟨_, List.mem_map_of_mem hi, by simp [ha, hresult]⟩

theorem attempt_ne_none (hitems : Feasible c fetch items) (hi : i ∈ items) :
    c.attempt fetch i ≠ none := by
  obtain ⟨a, -, hattempt, -⟩ := attempt_lands (hitems.schemas i hi) (hitems.fetches i hi)
  simp [hattempt]

theorem landed_land (k : Keeper σ ε) (r : Run σ ε) (hi : items[n]? = some i) :
    Landed k c fetch items r n (r.land k n ⟨i, c.attempt fetch i⟩) := by
  have hfind : findAt c fetch items n = (c.resultOf fetch i).map (i, ·) := by
    rw [findAt, hi, Option.bind_some]
  unfold Config.resultOf at hfind
  unfold Run.land
  cases hattempt : c.attempt fetch i with
  | none =>
    rw [hattempt] at hfind
    exact .unknown _ hfind fun hitems =>
      attempt_ne_none hitems (List.mem_of_getElem? hi) hattempt
  | some a =>
    rw [hattempt, Option.bind_some] at hfind
    dsimp only
    cases hresult : a.result with
    | none =>
      rw [hresult] at hfind
      exact .hung hfind (allLand_eq_false (List.mem_of_getElem? hi) hattempt hresult)
    | some outcome =>
      rw [hresult] at hfind
      cases outcome with
      | error f => exact .failed _ hfind
      | ok result =>
        obtain ⟨notes, hkeep⟩ := r.keep_eq k n (i, result)
        dsimp only at hkeep ⊢
        rw [hkeep]
        cases hanswer : r.answer k (i, result) with
        | kept path => exact .kept (i, result) notes path hfind hanswer
        | refused message => exact .refused (i, result) notes message _ hfind hanswer
        | raised fault => exact .raised (i, result) notes fault hfind hanswer

end Landed

section Tallied

variable {b : Batch σ} {r s : Run σ ε} {landed : List Nat} {n : Nat} {events : List Event}
  {p : Item × Result}

/-- A run has so far the results of its ledger, and its counts are those from the start and these.
As long as nothing has ended it, all else that has landed has failed. -/
structure Tallied (k : Keeper σ ε) (c : Config) (fetch : String → Web.Arrival) (items : List Item)
    (b : Batch σ) (r : Run σ ε) (landed : List Nat) : Prop where
  place : r.batch.place = placeAfter k c fetch items b.place landed
  results : r.results = (ledgerOf k c fetch items b.place landed).filterMap fun h =>
    h.gain?.map (h.number, ·)
  total : r.batch.stats.total = items.length
  success : r.batch.stats.success = b.stats.success +
    (gains (ledgerOf k c fetch items b.place landed)).countP (·.isWhole)
  degraded : r.batch.stats.degraded = b.stats.degraded +
    (gains (ledgerOf k c fetch items b.place landed)).countP (!·.isWhole)
  failed : allLand (visitsOf c fetch items) = true → r.escape = none →
    r.batch.stats.failed + (gains (ledgerOf k c fetch items b.place landed)).length =
      b.stats.failed + landed.length
  escape : Feasible c fetch items →
    (∀ h ∈ ledgerOf k c fetch items b.place landed, ∀ fault, h.answer ≠ .raised fault) →
    r.escape = none

theorem placeAfter_append (k : Keeper σ ε) (c : Config) (fetch : String → Web.Arrival)
    (items : List Item) (place : σ) (landed : List Nat) (n : Nat) :
    placeAfter k c fetch items place (landed ++ [n]) = (findAt c fetch items n).elim
      (placeAfter k c fetch items place landed)
      (k.take (placeAfter k c fetch items place landed)) := by
  rw [placeAfter, placeAfter, List.filterMap_append, List.foldl_append]
  cases hn : findAt c fetch items n <;> simp [hn]

/-- A landing from which nothing is kept leaves the results as they are. -/
theorem Tallied.fruitless {more : List (Handing ε)} (h : Tallied k c fetch items b r landed)
    (hledger : ledgerOf k c fetch items b.place (landed ++ [n]) =
      ledgerOf k c fetch items b.place landed ++ more)
    (hmore : more.filterMap Handing.gain? = [])
    (hplace : s.batch.place = placeAfter k c fetch items b.place (landed ++ [n]))
    (hresults : s.results = r.results)
    (hstats : s.batch.stats = { r.batch.stats with failed := s.batch.stats.failed })
    (hfailed : allLand (visitsOf c fetch items) = true → s.escape = none →
      r.escape = none ∧ s.batch.stats.failed = r.batch.stats.failed + 1)
    (hescape : Feasible c fetch items → (∀ h ∈ more, ∀ fault, h.answer ≠ .raised fault) →
      r.escape = none → s.escape = none) :
    Tallied k c fetch items b s (landed ++ [n]) := by
  have hgains : gains (ledgerOf k c fetch items b.place (landed ++ [n])) =
      gains (ledgerOf k c fetch items b.place landed) := by
    rw [hledger, gains, List.filterMap_append, hmore, List.append_nil, gains]
  have hnone : more.filterMap (fun h => h.gain?.map (h.number, ·)) = [] := by
    rw [List.filterMap_eq_nil_iff] at hmore ⊢
    intro h hh
    rw [hmore h hh, Option.map_none]
  exact {
    place := hplace
    results := by rw [hresults, h.results, hledger, List.filterMap_append, hnone, List.append_nil]
    total := by rw [hstats, ← h.total]
    success := by rw [hstats, hgains, ← h.success]
    degraded := by rw [hstats, hgains, ← h.degraded]
    failed := by
      intro hall hescape
      obtain ⟨hbefore, hcount⟩ := hfailed hall hescape
      have htold := h.failed hall hbefore
      rw [hgains, List.length_append, List.length_singleton]
      omega
    escape := by
      intro hitems hmild
      rw [hledger] at hmild
      apply hescape hitems fun h hh => hmild h (List.mem_append_right _ hh)
      exact h.escape hitems fun h hh => hmild h (List.mem_append_left _ hh) }

/-- A landing whose result is kept adds it to the results. -/
theorem Tallied.fruitful (h : Tallied k c fetch items b r landed)
    (hledger : ledgerOf k c fetch items b.place (landed ++ [n]) =
      ledgerOf k c fetch items b.place landed ++ [⟨n, p.2, r.answer k p⟩])
    {path : String} (hanswer : r.answer k p = .kept path)
    (hplace : k.take r.batch.place p = placeAfter k c fetch items b.place (landed ++ [n]))
    (notes : Log) :
    Tallied k c fetch items b ((r.handed k p notes).gain n p.2) (landed ++ [n]) := by
  have hgain : (⟨n, p.2, r.answer k p⟩ : Handing ε).gain? = some p.2 := by
    simp [Handing.gain?, Keeping.path?, hanswer]
  have hgains : gains (ledgerOf k c fetch items b.place (landed ++ [n])) =
      gains (ledgerOf k c fetch items b.place landed) ++ [p.2] := by
    rw [hledger, gains, List.filterMap_append]
    simp [gains, hgain]
  have hstats := Run.stats_gain (r.handed k p notes) n p.2
  exact {
    place := hplace
    results := by
      rw [hledger, List.filterMap_append, ← h.results]
      simp [hgain, Run.gain, Run.count, Run.handed, Run.note]
    total := by
      rw [hstats]
      exact h.total
    success := by
      rw [hstats, hgains, List.countP_append, ← Nat.add_assoc, ← h.success]
      rfl
    degraded := by
      rw [hstats, hgains, List.countP_append, ← Nat.add_assoc, ← h.degraded]
      rfl
    failed := by
      intro hall hescape
      rw [hstats, hgains, List.length_append, List.length_append, ← Nat.add_assoc, ← Nat.add_assoc,
        ← h.failed hall hescape]
      rfl
    escape := by
      intro hitems hmild
      rw [hledger] at hmild
      exact h.escape hitems fun h hh => hmild h (List.mem_append_left _ hh) }

/-- A landing keeps the tally. -/
theorem tallied_landed (h : Tallied k c fetch items b r landed)
    (hland : Landed k c fetch items r n s) : Tallied k c fetch items b s (landed ++ [n]) := by
  have hplace := placeAfter_append k c fetch items b.place landed n
  rw [← h.place] at hplace
  have hledger : ∀ p, findAt c fetch items n = some p →
      ledgerOf k c fetch items b.place (landed ++ [n]) =
        ledgerOf k c fetch items b.place landed ++ [⟨n, p.2, r.answer k p⟩] := by
    intro p hn
    rw [ledgerOf_some hn, ← h.place]
    rfl
  have hsame : findAt c fetch items n = none → ledgerOf k c fetch items b.place (landed ++ [n]) =
      ledgerOf k c fetch items b.place landed ++ [] := by
    intro hn
    rw [ledgerOf_none hn, List.append_nil]
  cases hland with
  | unknown e hn hitems =>
    rw [hn] at hplace
    refine h.fruitless (hsame hn) rfl hplace.symm rfl rfl (fun _ hescape => ?_)
      fun hitems' => absurd hitems' hitems
    simp [Run.stop] at hescape
  | hung hn hfalse =>
    rw [hn] at hplace
    exact h.fruitless (hsame hn) rfl hplace.symm rfl rfl
      (fun hall => absurd hall (by simp [hfalse])) fun _ _ hescape => hescape
  | failed why hn =>
    rw [hn] at hplace
    exact h.fruitless (hsame hn) rfl hplace.symm rfl rfl (fun _ hescape => ⟨hescape, rfl⟩)
      fun _ _ hescape => hescape
  | refused p notes message why hn hanswer =>
    rw [hn] at hplace
    refine h.fruitless (hledger p hn) ?_ hplace.symm rfl rfl (fun _ hescape => ⟨hescape, rfl⟩)
      fun _ _ hescape => hescape
    simp [Handing.gain?, Keeping.path?, hanswer]
  | raised p notes fault hn hanswer =>
    rw [hn] at hplace
    refine h.fruitless (hledger p hn) ?_ hplace.symm rfl rfl (fun _ hescape => ?_)
      fun _ hmild => absurd hanswer (hmild _ List.mem_cons_self fault)
    · simp [Handing.gain?, Keeping.path?, hanswer]
    · simp [Run.stop] at hescape
  | kept p notes path hn hanswer =>
    rw [hn] at hplace
    exact h.fruitful (hledger p hn) hanswer hplace.symm notes

/-- A run keeps the tally, whatever the order of events. -/
theorem tallied_foldl (h : Tallied k c fetch items b r landed)
    (hevents : ∀ n ∈ landings events, n < items.length) :
    Tallied k c fetch items b (events.foldl (Run.follow k (visitsOf c fetch items)) r)
      (landed ++ landings events) := by
  apply foldl_follow _ _ h hevents
  · exact fun v h => ⟨h.place, h.results, h.total, h.success, h.degraded, h.failed, h.escape⟩
  · exact fun h hi => tallied_landed h (landed_land k _ hi)

end Tallied

section Accounted

variable {b after : Batch σ} {r : Run σ ε} {ledger : List (Handing ε)} {order : List Nat} {n : Nat}
  {result : Result} {results : List Result} {ending : Ending ε}

theorem keptAt_cons (h : Handing ε) (ledger : List (Handing ε)) (n : Nat) :
    keptAt (h :: ledger) n = if h.number = n then h.gain? else keptAt ledger n := by
  unfold keptAt
  rw [List.find?_cons]
  by_cases hn : h.number = n <;> simp [hn]

theorem keptAt_of_notMem (hn : n ∉ ledger.map (·.number)) : keptAt ledger n = none := by
  have hnone : ledger.find? (·.number = n) = none := by
    rw [List.find?_eq_none]
    intro h hh
    have hne : h.number ≠ n := fun heq => hn (heq ▸ List.mem_map_of_mem hh)
    simpa using hne
  rw [keptAt, hnone, Option.bind_none]

/-- If no item is handed over twice, the results by number are those of the ledger. -/
theorem find?_results (hnodup : (ledger.map (·.number)).Nodup) (n : Nat) :
    ((ledger.filterMap fun h => h.gain?.map (h.number, ·)).find? (·.1 = n)).map (·.2) =
      keptAt ledger n := by
  induction ledger with
  | nil => rfl
  | cons h ledger ih =>
    rw [List.map_cons, List.nodup_cons] at hnodup
    have hrest := ih hnodup.2
    rw [keptAt_cons]
    by_cases hn : h.number = n
    · rw [if_pos hn]
      cases hgain : h.gain? with
      | some result => simp [hgain, hn]
      | none =>
        rw [List.filterMap_cons_none (by rw [hgain]; rfl), hrest]
        exact keptAt_of_notMem (hn ▸ hnodup.1)
    · rw [if_neg hn, ← hrest]
      cases hgain : h.gain? <;> simp [hgain, hn]

/-- What was kept of an item is what the keeper was handed and kept. -/
theorem keptAt_eq_some (hnodup : (ledger.map (·.number)).Nodup) :
    keptAt ledger n = some result ↔ ∃ path, ⟨n, result, .kept path⟩ ∈ ledger := by
  have hgain : ∀ h : Handing ε, h.gain? = some result ↔
      ∃ path, h = ⟨h.number, result, .kept path⟩ := by
    rintro ⟨m, kept, answer⟩
    cases answer <;> simp [Handing.gain?, Keeping.path?]
  induction ledger with
  | nil => simp [keptAt]
  | cons h ledger ih =>
    rw [List.map_cons, List.nodup_cons] at hnodup
    rw [keptAt_cons]
    by_cases hn : h.number = n
    · subst hn
      have hnot : ∀ path, (⟨h.number, result, .kept path⟩ : Handing ε) ∉ ledger :=
        fun path hmem => hnodup.1 (List.mem_map.mpr ⟨_, hmem, rfl⟩)
      rw [if_pos rfl, hgain]
      simp only [List.mem_cons, hnot, or_false]
      exact exists_congr fun path => eq_comm
    · rw [if_neg hn]
      refine (ih hnodup.2).trans (exists_congr fun path => ?_)
      rw [List.mem_cons, or_iff_right]
      rintro rfl
      exact hn rfl

/-- The results in the order of their items are all that was kept. -/
theorem keptAt_perm {items : Nat} (hnodup : (ledger.map (·.number)).Nodup)
    (hbelow : ∀ h ∈ ledger, h.number < items) :
    ((List.range items).filterMap (keptAt ledger)).Perm (gains ledger) := by
  -- Each handing is found under its own number, as no number comes twice.
  have hfind : ∀ n h, ledger.find? (·.number = n) = some h ↔ h ∈ ledger ∧ h.number = n := by
    intro n h
    constructor
    · intro hfound
      exact ⟨List.mem_of_find?_eq_some hfound, by simpa using List.find?_some hfound⟩
    · rintro ⟨hmem, rfl⟩
      obtain ⟨other, hother⟩ := Option.isSome_iff_exists.mp
        (List.find?_isSome.mpr ⟨h, hmem, by simp⟩ : (ledger.find? (·.number = h.number)).isSome)
      have hnumber : other.number = h.number := by simpa using List.find?_some hother
      rw [hother, List.inj_on_of_nodup_map hnodup (List.mem_of_find?_eq_some hother) hmem hnumber]
  have hall : ((List.range items).filterMap fun n => ledger.find? (·.number = n)).Perm ledger := by
    rw [List.perm_ext_iff_of_nodup _ hnodup.of_map]
    · intro h
      simp only [List.mem_filterMap, List.mem_range, hfind]
      exact ⟨fun ⟨n, _, hmem, _⟩ => hmem, fun hmem => ⟨h.number, hbelow h hmem, hmem, rfl⟩⟩
    · refine List.Nodup.filterMap (fun m n h hm hn => ?_) List.nodup_range
      rw [← ((hfind m h).mp hm).2, ((hfind n h).mp hn).2]
  have hkept := hall.filterMap Handing.gain?
  rwa [List.filterMap_filterMap] at hkept

/-- The ways in which a run of a batch can go, with the order in which items land and with what it
comes to. Without items there is no run; otherwise every item lands once. -/
inductive Goes (k : Keeper σ ε) (c : Config) (fetch : String → Web.Arrival) (b : Batch σ) :
    List Item → List Nat → Batch σ × Ending ε → Prop
  | idle : Goes k c fetch b [] [] (b.run k c fetch [])
  | busy {items : List Item} (events : List Event) : items ≠ [] →
      (landings events).Perm (List.range items.length) →
      Goes k c fetch b items (landings events) (b.through k c fetch items events)

/-- The results and the counts of a run, told by a ledger: what was kept is returned in the order of
the items and counted as it is, and all other items have failed. -/
structure Accounted (ledger : List (Handing ε)) (items : Nat) (before after : Stats)
    (results : List Result) : Prop where
  returned : results = (List.range items).filterMap (keptAt ledger)
  kept : ∀ n result, keptAt ledger n = some result ↔ ∃ path, ⟨n, result, .kept path⟩ ∈ ledger
  success : after.success = before.success + results.countP (·.isWhole)
  degraded : after.degraded = before.degraded + results.countP (!·.isWhole)
  failed : after.failed + results.length = before.failed + items

theorem stats_close (r : Run σ ε) (visits : List Visit) :
    (r.close visits).1.stats = r.batch.stats := by
  unfold Run.close
  split
  · rfl
  · split <;> rfl

theorem close_returned {visits : List Visit} (h : (r.close visits).2 = .returned results) :
    r.escape = none ∧ allLand visits = true ∧ results = r.inOrder visits.length := by
  unfold Run.close at h
  split at h
  next => cases h
  next hescape =>
    split at h
    next => cases h
    next hall => exact ⟨hescape, by simpa using hall, (Ending.returned.inj h).symm⟩

theorem tallied_through (k : Keeper σ ε) (c : Config) (fetch : String → Web.Arrival) (b : Batch σ)
    {events : List Event}
    (hevents : (landings events).Perm (List.range items.length)) :
    Tallied k c fetch items b (events.foldl (Run.follow k (visitsOf c fetch items))
      (b.opening items.length events)) (landings events) := by
  have hopening : Tallied k c fetch items b (b.opening items.length events) [] :=
    ⟨rfl, rfl, rfl, rfl, rfl, fun _ _ => rfl, fun _ _ => rfl⟩
  have hbelow : ∀ n ∈ landings events, n < items.length :=
    fun n hn => List.mem_range.mp (hevents.mem_iff.mp hn)
  simpa using tallied_foldl hopening hbelow

/-- However a run goes and ends, it counts as successes what its keeper kept. -/
theorem Goes.counts {outcome : Batch σ × Ending ε} (h : Goes k c fetch b items order outcome) :
    outcome.1.stats.success = b.stats.success +
        (gains (ledgerOf k c fetch items b.place order)).countP (·.isWhole) ∧
      outcome.1.stats.degraded = b.stats.degraded +
        (gains (ledgerOf k c fetch items b.place order)).countP (!·.isWhole) := by
  cases h with
  | idle => exact ⟨rfl, rfl⟩
  | busy events _ hevents =>
    have htally := tallied_through k c fetch b hevents
    rw [through, stats_close]
    exact ⟨htally.success, htally.degraded⟩

/-- A run over items sets the total, and one without items leaves it. -/
theorem Goes.total {outcome : Batch σ × Ending ε} (h : Goes k c fetch b items order outcome) :
    outcome.1.stats.total = if items = [] then b.stats.total else items.length := by
  cases h with
  | idle => rfl
  | busy events hempty hevents =>
    have htally := tallied_through k c fetch b hevents
    rw [through, stats_close, htally.total, if_neg hempty]

theorem Goes.accounted {outcome : Batch σ × Ending ε} (h : Goes k c fetch b items order outcome)
    (hresults : outcome.2 = .returned results) :
    Accounted (ledgerOf k c fetch items b.place order) items.length b.stats outcome.1.stats
      results := by
  obtain ⟨hsuccess, hdegraded⟩ := h.counts
  cases h with
  | idle =>
    cases hresults
    exact ⟨rfl, fun n result => by simp [keptAt, ledgerOf], rfl, rfl, rfl⟩
  | busy events _ hevents =>
    have htally := tallied_through k c fetch b hevents
    have hnumbers := numbers_ledgerOf k c fetch items b.place (landings events)
    have hnodup := hnumbers.nodup (hevents.nodup_iff.mpr List.nodup_range)
    have hbelow : ∀ h ∈ ledgerOf k c fetch items b.place (landings events),
        h.number < items.length := by
      intro h hh
      have hmem := hnumbers.subset (List.mem_map_of_mem hh)
      exact List.mem_range.mp (hevents.mem_iff.mp hmem)
    obtain ⟨hescape, hall, hinOrder⟩ := close_returned hresults
    have hreturned : results = (List.range items.length).filterMap
        (keptAt (ledgerOf k c fetch items b.place (landings events))) := by
      rw [hinOrder, Run.inOrder, length_visitsOf, htally.results]
      simp only [find?_results hnodup]
    have hperm := hreturned ▸ keptAt_perm hnodup hbelow
    have hfailed := htally.failed hall hescape
    rw [hevents.length_eq, List.length_range, ← hperm.length_eq] at hfailed
    refine ⟨hreturned, fun n result => keptAt_eq_some hnodup, ?_, ?_, ?_⟩
    · rw [hsuccess, hperm.countP_eq]
    · rw [hdegraded, hperm.countP_eq]
    · rw [through, stats_close, hfailed]

/-- A run over items that have schemas and pages, or are cut, returns unless its keeper raises a
fault. -/
theorem Goes.returns {outcome : Batch σ × Ending ε} (h : Goes k c fetch b items order outcome)
    (hitems : Feasible c fetch items)
    (hmild : ∀ h ∈ ledgerOf k c fetch items b.place order, ∀ fault, h.answer ≠ .raised fault) :
    ∃ results, outcome.2 = .returned results := by
  cases h with
  | idle => exact ⟨[], rfl⟩
  | busy events _ hevents =>
    have htally := tallied_through k c fetch b hevents
    obtain ⟨notes, hclose⟩ :=
      close_of_allLand (htally.escape hitems hmild) (allLand_visitsOf hitems)
    rw [through, hclose]
    exact ⟨_, rfl⟩

/-- The run of a batch is one of the ways in which it can go, if all items land. -/
theorem goes_run (b : Batch σ) (hall : allLand (visitsOf c fetch items) = true) :
    ∃ order, Goes k c fetch b items order (b.run k c fetch items) := by
  by_cases hempty : items = []
  · subst hempty
    exact ⟨[], .idle⟩
  · rw [run_eq_through hempty]
    exact ⟨_, .busy _ hempty (landings_of_allLand hall)⟩

/-- A run that returns is one of the ways in which it can go. -/
theorem goes_of_returned (h : (b.run k c fetch items).2 = .returned results) :
    ∃ order, Goes k c fetch b items order (b.run k c fetch items) := by
  by_cases hempty : items = []
  · subst hempty
    exact ⟨[], .idle⟩
  · rw [run_eq_through hempty] at h
    exact goes_run b (close_returned h).2.1

/-- If no item has failed, all have been kept. -/
theorem Accounted.all_kept {items : Nat} {before after : Stats}
    (h : Accounted ledger items before after results) (hfailed : after.failed = before.failed)
    (n : Nat) (hn : n < items) : ∃ result path, ⟨n, result, .kept path⟩ ∈ ledger := by
  have hlength : results.length = (List.range items).length := by
    have hcount := h.failed
    rw [List.length_range]
    omega
  rw [h.returned, List.filterMap_length_eq_length] at hlength
  obtain ⟨result, hkept⟩ := Option.isSome_iff_exists.mp (hlength n (List.mem_range.mpr hn))
  exact ⟨result, (h.kept n result).mp hkept⟩

end Accounted

end Batch

namespace BatchOrder

variable {place : Store × Disk} {stats : Stats} {service : Web.Service} {o : BatchOrder}
  {s : Web.Surroundings} {d : Disk}

theorem failed_of_conclude (h : (conclude place stats).code = .ok 0) : stats.failed = 0 := by
  unfold conclude at h
  dsimp only at h
  split at h
  next => cases h
  next =>
    by_contra hfailed
    rw [if_neg hfailed] at h
    cases h

/-- A command ends well only if its run returns, and nothing has failed in it. -/
theorem fill_returned (h : (fill c service place).code = .ok 0) :
    ∃ results, (Batch.run .ofStore c service.arrival { place } c.items).2 = .returned results ∧
      (Batch.run .ofStore c service.arrival { place } c.items).1.stats.failed = 0 := by
  unfold fill at h
  dsimp only at h
  split at h
  next results hresults => exact ⟨results, hresults, failed_of_conclude h⟩
  next => cases h
  next => cases h

/-- A command that ends well has handed the results of all its items to its store, which has kept
them. -/
theorem fill_kept (h : (fill c service place).code = .ok 0) :
    ∃ order outcome, Goes .ofStore c service.arrival { place } c.items order outcome ∧
      ∀ n < c.items.length, ∃ result path,
        ⟨n, result, .kept path⟩ ∈ ledgerOf .ofStore c service.arrival c.items place order := by
  obtain ⟨results, hresults, hfailed⟩ := fill_returned h
  obtain ⟨order, hgoes⟩ := goes_of_returned hresults
  exact ⟨order, _, hgoes, (hgoes.accounted hresults).all_kept hfailed⟩

/-- A command that does not only tell its items ends well only if it loads its configuration, opens
its store and fills it. -/
theorem run_filled (hdry : o.isDry = false) (h : (o.run s d).code = .ok 0) :
    ∃ name output c place kind, o.config = some name ∧ o.output = some output ∧
      (Load.config d s.web (Path.ofString name)).result = .ok c ∧
      openStore c (Path.ofString output) d = .ok place ∧
      (fill c (s.service { timeout := .decimal c.defaults.timeout, agent := c.defaults.agent } kind)
        place).code = .ok 0 := by
  unfold run at h
  split at h
  next => cases h
  next name hname =>
    dsimp only [Command.Outcome.after] at h
    split at h
    next f hload =>
      unfold Command.Outcome.ofFailure at h
      split at h <;> cases h
    next c hload =>
      unfold runWith at h
      rw [hdry, if_neg Bool.false_ne_true] at h
      split at h
      next => cases h
      next output houtput =>
        unfold scrape at h
        split at h
        next => cases h
        next place hplace =>
          split at h
          next => cases h
          next kind _ => exact ⟨name, output, c, place, kind, hname, houtput, hload, hplace, h⟩

end BatchOrder

namespace Batch

/-- Whatever the keeper and the order of events, a batch counts and returns as successes just the
results that its keeper answered to with a path, be it the empty one; all other items of a run that
returns have failed. The run of a batch is such a run, and returns unless its keeper raises a fault
or an item has no schema or hangs uncut. So a command ends well only if its store answered to the
results of all items with a path. -/
theorem success_means_kept (k : Keeper σ ε) (c : Config) (fetch : String → Web.Arrival)
    (b : Batch σ) (items : List Item) :
    (∀ order outcome, Goes k c fetch b items order outcome →
      let ledger := ledgerOf k c fetch items b.place order
      outcome.1.stats.success = b.stats.success + (gains ledger).countP (·.isWhole) ∧
      outcome.1.stats.degraded = b.stats.degraded + (gains ledger).countP (!·.isWhole) ∧
      (∀ results, outcome.2 = .returned results →
        Accounted ledger items.length b.stats outcome.1.stats results) ∧
      (Feasible c fetch items → (∀ h ∈ ledger, ∀ fault, h.answer ≠ .raised fault) →
        ∃ results, outcome.2 = .returned results)) ∧
    (Feasible c fetch items ∨ (∃ results, (b.run k c fetch items).2 = .returned results) →
      ∃ order, Goes k c fetch b items order (b.run k c fetch items)) ∧
    ∀ (o : BatchOrder) (s : Web.Surroundings) (d : Disk), o.isDry = false →
      (o.run s d).code = .ok 0 →
      ∃ name output c place kind, o.config = some name ∧ o.output = some output ∧
        (Load.config d s.web (Path.ofString name)).result = .ok c ∧
        BatchOrder.openStore c (Path.ofString output) d = .ok place ∧
        let fetch := (s.service
          { timeout := .decimal c.defaults.timeout, agent := c.defaults.agent } kind).arrival
        ∃ order outcome, Goes .ofStore c fetch { place } c.items order outcome ∧
          ∀ n < c.items.length, ∃ result path,
            ⟨n, result, .kept path⟩ ∈ ledgerOf .ofStore c fetch c.items place order := by
  refine ⟨fun order outcome h => ?_, ?_, fun o s d hdry hcode => ?_⟩
  · obtain ⟨hsuccess, hdegraded⟩ := h.counts
    exact ⟨hsuccess, hdegraded, fun results => h.accounted, h.returns⟩
  · rintro (hitems | ⟨results, hreturned⟩)
    · exact goes_run b (allLand_visitsOf hitems)
    · exact goes_of_returned hreturned
  · obtain ⟨name, output, c, place, kind, hname, houtput, hload, hplace, hfill⟩ :=
      BatchOrder.run_filled hdry hcode
    exact ⟨name, output, c, place, kind, hname, houtput, hload, hplace, BatchOrder.fill_kept hfill⟩

/-- A configuration of one page, which tells its address. -/
def onePage : String :=
  "\x7b\"schemas\": \x7b\"s\": \x7b\"at\": \x7b\"meta\": \"url\"\x7d\x7d\x7d, " ++
    "\"items\": [\x7b\"url\": \"http://a.org/x\", \"schema\": \"s\"\x7d]\x7d"

/-- A disk with that configuration, and more. -/
def onePageDisk (more : List (List String × Disk.Entry)) : Disk where
  entries := (["c.json"], .file (Text.octetsOf onePage)) :: more

def onePageWeb : Web.Surroundings where
  web := [("http://a.org/x", .ok { content := Text.octetsOf "<p>" })]

def onePageOrder : BatchOrder := ⟨some "c.json", some "out", false⟩

/-- Of three results the first to be handed over is not kept, and one is kept under no path. The
command for one page keeps its record. -/
theorem success_means_kept_three :
    let c : Config := { schemas := [("s", [("at", .source "url")])] }
    let fetch : String → Web.Arrival := fun _ => { answer := some (.ok "<p>") }
    let k : Keeper Nat String := { save := fun handed url _ => (handed + 1, [],
      if handed = 0 then .refused "full" else if url = "b" then .kept "" else .kept url) }
    let items : List Item := [⟨"a", "s", false⟩, ⟨"b", "s", false⟩, ⟨"c", "s", false⟩]
    let outcome := through k c fetch { place := 0 } items [.landed 2, .landed 0, .landed 1]
    outcome.1.stats.success = 2 ∧ outcome.1.stats.failed = 1 ∧
      (∃ order, Goes k c fetch { place := 0 } items order (run k c fetch { place := 0 } items)) ∧
      ∃ c place kind order result path,
        (Load.config (onePageDisk []) onePageWeb.web (Path.ofString "c.json")).result = .ok c ∧
        ⟨0, result, .kept path⟩ ∈ ledgerOf .ofStore c (onePageWeb.service
          { timeout := .decimal c.defaults.timeout, agent := c.defaults.agent } kind).arrival
          c.items place order := by
  intro c fetch k items outcome
  have hitems : Feasible c fetch items := feasible_of_answered (by decide) fun _ _ => nofun
  obtain ⟨hall, hrun, hcommand⟩ := success_means_kept k c fetch { place := 0 } items
  obtain ⟨hsuccess, -, haccounted, hreturns⟩ :=
    hall _ outcome (.busy [.landed 2, .landed 0, .landed 1] (by decide) (by decide))
  have hgains : (gains (ledgerOf k c fetch items 0 [2, 0, 1])).countP (·.isWhole) = 2 := by
    decide +kernel
  have hkept : ((List.range 3).filterMap (keptAt (ledgerOf k c fetch items 0 [2, 0, 1]))).length =
      2 := by
    decide +kernel
  obtain ⟨results, hreturned⟩ := hreturns hitems fun h hh fault => by
    obtain ⟨handed, p, -, -, hanswer⟩ := exists_save hh
    rw [hanswer]
    dsimp only [k]
    split_ifs <;> exact nofun
  have hresults := haccounted results hreturned
  have hfailed := hresults.failed
  rw [hresults.returned, show items.length = 3 from rfl] at hfailed
  change _ + ((List.range 3).filterMap (keptAt (ledgerOf k c fetch items 0 [2, 0, 1]))).length =
    0 + 3 at hfailed
  refine ⟨hsuccess.trans ?_, by omega, hrun (.inl hitems), ?_⟩
  · change 0 + (gains (ledgerOf k c fetch items 0 [2, 0, 1])).countP (·.isWhole) = 2
    rw [hgains]
  · have hoption : (onePageOrder.run onePageWeb (onePageDisk [])).code.toOption = some 0 := by
      decide +kernel
    obtain ⟨name, output, c, place, kind, hname, -, hload, -, order, -, -, hkept⟩ :=
      hcommand onePageOrder onePageWeb (onePageDisk []) rfl (eq_ok_of_toOption hoption)
    cases hname
    have hone : c.items.length = 1 := by
      have hcount : (Load.config (onePageDisk []) onePageWeb.web
          (Path.ofString "c.json")).result.toOption.map (·.items.length) = some 1 := by
        decide +kernel
      rw [hload] at hcount
      exact Option.some.inj hcount
    obtain ⟨result, path, hmem⟩ := hkept 0 (by omega)
    exact ⟨c, place, kind, order, result, path, hload, hmem⟩

/-- Where a folder is in the way of the file of a page, its record is not written. It is answered to
with the empty path, the page is a success, and the command ends well. -/
theorem success_without_file :
    let way : List (List String × Disk.Entry) :=
      [(["out"], .folder), (["out", "a.org"], .folder), (["out", "a.org", "x.json"], .folder)]
    let c : Config := { schemas := [("s", [("at", .source "url")])] }
    let fetch : String → Web.Arrival := fun _ => { answer := some (.ok "<p>") }
    let items : List Item := [⟨"http://a.org/x", "s", false⟩]
    let place : Store × Disk := (.folders { root := { parts := ["out"] } }, onePageDisk way)
    (ledgerOf .ofStore c fetch items place [0]).map (·.answer.path?) = [some ""] ∧
      (run .ofStore c fetch { place } items).1.stats = { total := 1, success := 1 } ∧
      let told := onePageOrder.run onePageWeb (onePageDisk way)
      (told.code.toOption, told.disk) = (some 0, onePageDisk way) := by
  intro way c fetch items place
  refine ⟨?_, ?_, ?_⟩ <;> decide +kernel

end Batch

end Gleaner
