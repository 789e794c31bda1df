import Gleaner.Proofs.Batch.Tally

/-! The counts of a batch over several runs. What has come of items adds up over all runs, but the
total is that of the last run with items, so the counts balance until there is a second such run. -/

namespace Gleaner.Batch

variable {σ ε : Type} {k : Keeper σ ε} {c : Config} {fetch : String → Web.Arrival} {b : Batch σ}
  {items : List Item} {lists : List (List Item)} {order : List Nat} {results : List Result}
  {outcome : Batch σ × Ending ε}

/-- What becomes of a new batch by runs over these lists of items that all return, each with pages
and an order of events of its own. -/
inductive Worked (k : Keeper σ ε) (c : Config) : List (List Item) → Batch σ → Prop
  | fresh (place : σ) : Worked k c [] { place }
  | run {lists : List (List Item)} {b : Batch σ} (fetch : String → Web.Arrival) {items : List Item}
      {results : List Result} : Worked k c lists b →
      (b.run k c fetch items).2 = .returned results →
      Worked k c (lists ++ [items]) (b.run k c fetch items).1
  | goes {lists : List (List Item)} {b : Batch σ} {fetch : String → Web.Arrival}
      {items : List Item} {order : List Nat} {outcome : Batch σ × Ending ε} {results : List Result} :
      Worked k c lists b → Goes k c fetch b items order outcome → outcome.2 = .returned results →
      Worked k c (lists ++ [items]) outcome.1

/-- How many items have come to a success or a failure. -/
def Stats.settled (s : Stats) : Nat := s.success + s.degraded + s.failed

/-- The lists that hold items. -/
def busyOnes (lists : List (List Item)) : List (List Item) := lists.filter (!·.isEmpty)

/-- Counts as they are after runs over these lists. -/
structure CountsOf (lists : List (List Item)) (s : Stats) : Prop where
  settled : s.settled = (lists.map List.length).sum
  total : s.total = ((busyOnes lists).getLast?.map List.length).getD 0

/-- A run that returns settles each of its items. -/
theorem Goes.settled (h : Goes k c fetch b items order outcome)
    (hresults : outcome.2 = .returned results) :
    outcome.1.stats.settled = b.stats.settled + items.length := by
  have haccounted := h.accounted hresults
  have hsuccess := haccounted.success
  have hdegraded := haccounted.degraded
  have hfailed := haccounted.failed
  have hparts := List.length_eq_countP_add_countP (fun r : Result => r.isWhole) (l := results)
  simp only [Bool.not_eq_true, Bool.decide_eq_false] at hparts
  unfold Stats.settled
  omega

/-- A run that returns keeps the counts those of the lists so far. -/
theorem countsOf_goes (hcounts : CountsOf lists b.stats)
    (h : Goes k c fetch b items order outcome) (hresults : outcome.2 = .returned results) :
    CountsOf (lists ++ [items]) outcome.1.stats where
  settled := by
    rw [h.settled hresults, hcounts.settled]
    simp
  total := by
    rw [h.total, busyOnes, List.filter_append, ← busyOnes]
    cases items with
    | nil => exact hcounts.total.trans (by rw [List.filter_cons_of_neg (by simp)]; simp)
    | cons i items => simp

theorem Worked.countsOf (h : Worked k c lists b) : CountsOf lists b.stats := by
  induction h with
  | fresh place => exact ⟨rfl, rfl⟩
  | run fetch _ hresults ih =>
    obtain ⟨order, hgoes⟩ := goes_of_returned hresults
    exact countsOf_goes ih hgoes hresults
  | goes _ hgoes hresults ih => exact countsOf_goes ih hgoes hresults

theorem sum_busyOnes (lists : List (List Item)) :
    ((busyOnes lists).map List.length).sum = (lists.map List.length).sum := by
  induction lists with
  | nil => rfl
  | cons items lists ih =>
    unfold busyOnes at ih ⊢
    cases items with
    | nil => simpa using ih
    | cons i items => simp [ih]

/-- The last of some positive numbers is their sum only if it is the only one. -/
theorem last_eq_sum {lengths : List Nat} (h : ∀ n ∈ lengths, 0 < n) :
    lengths.getLast?.getD 0 = lengths.sum ↔ lengths.length ≤ 1 := by
  rcases List.eq_nil_or_concat' lengths with rfl | ⟨front, last, rfl⟩
  · simp
  · cases front with
    | nil => simp
    | cons n front =>
      have hn := h n (by simp)
      simp only [List.getLast?_append, List.length_append, List.length_cons, List.sum_append,
        List.sum_cons]
      simp
      omega

theorem CountsOf.balanced_iff {s : Stats} (h : CountsOf lists s) :
    s.total = s.settled ↔ (busyOnes lists).length ≤ 1 := by
  have hpositive : ∀ n ∈ (busyOnes lists).map List.length, 0 < n := by
    intro n hn
    obtain ⟨items, hitems, rfl⟩ := List.mem_map.mp hn
    have hbusy := (List.mem_filter.mp hitems).2
    exact List.length_pos_iff.mpr (by simpa using hbusy)
  have hlast := last_eq_sum hpositive
  rw [sum_busyOnes, List.getLast?_map, List.length_map] at hlast
  rw [h.total, h.settled, hlast]

/-- After each of any runs that return, successes and failures are as many as the items of all runs,
and the total is the number of items of the last run that had any. So they are equal just as long as
no second run has had items. -/
theorem worked_balanced (h : Worked k c lists b) :
    b.stats.success + b.stats.degraded + b.stats.failed = (lists.map List.length).sum ∧
      b.stats.total = ((busyOnes lists).getLast?.map List.length).getD 0 ∧
      (b.stats.total = b.stats.success + b.stats.degraded + b.stats.failed ↔
        (busyOnes lists).length ≤ 1) := by
  have hcounts := h.countsOf
  exact ⟨hcounts.settled, hcounts.total, hcounts.balanced_iff⟩

section Twice

/-- A keeper of everything, and one page for all addresses. -/
def keepsAll : Keeper Unit Empty := { save := fun _ url _ => ((), [], .kept url) }

def oneSchema : Config := { schemas := [("s", [("at", .source "url")])] }

def anyPage : String → Web.Arrival := fun _ => { answer := some (.ok "<p>") }

def oneItem : List Item := [⟨"a", "s", false⟩]

def runOnce (b : Batch Unit) : Batch Unit := (b.run keepsAll oneSchema anyPage oneItem).1

theorem worked_runOnce {b : Batch Unit} (h : Worked keepsAll oneSchema lists b) :
    Worked keepsAll oneSchema (lists ++ [oneItem]) (runOnce b) := by
  have hitems : Feasible oneSchema anyPage oneItem :=
    feasible_of_answered (by decide) fun _ _ => nofun
  obtain ⟨order, hgoes⟩ := goes_run (k := keepsAll) b (allLand_visitsOf hitems)
  obtain ⟨results, hresults⟩ := hgoes.returns hitems fun h hh fault => nomatch fault
  exact .run anyPage h hresults

theorem worked_balanced_once :
    let b := runOnce (({ place := () } : Batch Unit).run keepsAll oneSchema anyPage []).1
    b.stats.total = b.stats.success + b.stats.degraded + b.stats.failed ∧ b.stats.total = 1 := by
  intro b
  have hidle : Worked keepsAll oneSchema [[]]
      (({ place := () } : Batch Unit).run keepsAll oneSchema anyPage []).1 :=
    .run anyPage (.fresh ()) rfl
  obtain ⟨-, htotal, hbalanced⟩ := worked_balanced (worked_runOnce hidle)
  exact ⟨hbalanced.mpr (by decide), htotal⟩

/-- After two runs over one item the total is one, and there are two successes. -/
theorem worked_twice :
    ∃ b, Worked keepsAll oneSchema [oneItem, oneItem] b ∧
      b.stats = { total := 1, success := 2, degraded := 0, failed := 0 } := by
  refine ⟨runOnce (runOnce { place := () }), ?_, ?_⟩
  · exact worked_runOnce (worked_runOnce (.fresh ()))
  · decide +kernel

end Twice

end Gleaner.Batch
