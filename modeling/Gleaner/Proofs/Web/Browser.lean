import Gleaner.Web.Browser

/-! Browsers over a run of steps: which of them are at hand, closed, or left running for good. -/

namespace Gleaner.Web

variable {b : Browser} {pages : List (String × Rendering)} {s : BrowserStep}
  {steps front rest : List BrowserStep} {ds : List (Nat × BrowserEvent)} {n : Nat} {url : String}

/-- What is done in a step, each with the number of the browser that it is done with. -/
def BrowserOutcome.deeds (o : BrowserOutcome) : List (Nat × BrowserEvent) :=
  match o.used with
  | none => []
  | some n => o.events.map fun e => (n, e)

namespace Browser

/-- What is done in a run of steps. -/
def deeds (b : Browser) (pages : List (String × Rendering)) (steps : List BrowserStep) :
    List (Nat × BrowserEvent) :=
  (b.run pages steps).flatMap BrowserOutcome.deeds

/-- What a run of steps leaves behind. -/
def after (b : Browser) (pages : List (String × Rendering)) : List BrowserStep → Browser
  | [] => b
  | s :: rest => (b.step pages s).browser.after pages rest

/-- The browsers that run after a deed, the latest one first. -/
def live (running : List Nat) : Nat × BrowserEvent → List Nat
  | (n, .started) => n :: running
  | (n, .closed) => running.erase n
  | _ => running

/-- The browsers that were started and not closed yet. -/
def running (ds : List (Nat × BrowserEvent)) : List Nat := ds.foldl live []

/-- The browsers that were started, in order. -/
def starts (ds : List (Nat × BrowserEvent)) : List Nat :=
  (ds.filter fun d => d.2 = .started).map Prod.fst

/-- The browsers that were closed, in order. -/
def closings (ds : List (Nat × BrowserEvent)) : List Nat :=
  (ds.filter fun d => d.2 = .closed).map Prod.fst

/-- The browser at hand that another one takes the place of. -/
def overtaken (b : Browser) : BrowserStep → List Nat
  | .enter => b.held.toList
  | _ => []

/-- The browsers at hand that others took the place of, the latest one first. -/
def lost (b : Browser) (pages : List (String × Rendering)) : List BrowserStep → List Nat
  | [] => []
  | s :: rest => (b.step pages s).browser.lost pages rest ++ b.overtaken s

theorem deeds_cons (b : Browser) (pages : List (String × Rendering)) (s : BrowserStep)
    (rest : List BrowserStep) :
    b.deeds pages (s :: rest) =
      (b.step pages s).deeds ++ (b.step pages s).browser.deeds pages rest :=
  List.flatMap_cons

theorem after_append (b : Browser) (front rest : List BrowserStep) :
    b.after pages (front ++ rest) = (b.after pages front).after pages rest := by
  induction front generalizing b with
  | nil => rfl
  | cons s front ih => exact ih (b.step pages s).browser

theorem lost_append (b : Browser) (front rest : List BrowserStep) :
    b.lost pages (front ++ rest) = (b.after pages front).lost pages rest ++ b.lost pages front := by
  induction front generalizing b with
  | nil => exact (List.append_nil _).symm
  | cons s front ih =>
    rw [List.cons_append, lost, ih, lost, List.append_assoc]
    rfl

section Step

/-- A step starts the browser that is at hand after it, closes the one before it, or leaves all as
they are. Those that were lost keep running. -/
theorem live_step (b : Browser) (pages : List (String × Rendering)) (s : BrowserStep)
    (lost : List Nat) : (b.step pages s).deeds.foldl live (b.held.toList ++ lost) =
      (b.step pages s).browser.held.toList ++ (b.overtaken s ++ lost) := by
  cases s with
  | enter => rfl
  | leave =>
    cases h : b.held with
    | none => simp [step, leave, h, BrowserOutcome.deeds, overtaken]
    | some n => simp [step, leave, h, BrowserOutcome.deeds, live, overtaken]
  | fetch url =>
    cases h : b.held with
    | none => simp [step, fetch, h, BrowserOutcome.deeds, overtaken]
    | some n => simp [step, fetch, h, BrowserOutcome.deeds, live, overtaken]

/-- Every browser is started once, in the order of their numbers. -/
theorem starts_step (b : Browser) (pages : List (String × Rendering)) (s : BrowserStep) :
    ∃ k, (b.step pages s).browser.made = b.made + k ∧
      starts (b.step pages s).deeds = List.range' b.made k := by
  cases s with
  | enter => exact ⟨1, rfl, rfl⟩
  | leave =>
    refine ⟨0, ?_⟩
    cases h : b.held <;> simp [step, leave, h, BrowserOutcome.deeds, starts]
  | fetch url =>
    refine ⟨0, ?_⟩
    cases h : b.held <;> simp [step, fetch, h, BrowserOutcome.deeds, starts]

/-- What ran before a step or starts in it is closed in it or runs after it. -/
theorem balance_step (b : Browser) (pages : List (String × Rendering)) (s : BrowserStep)
    (lost : List Nat) :
    (starts (b.step pages s).deeds ++ (b.held.toList ++ lost)).Perm
      (closings (b.step pages s).deeds ++
        ((b.step pages s).browser.held.toList ++ (b.overtaken s ++ lost))) := by
  cases s with
  | enter => exact List.Perm.refl _
  | leave =>
    cases h : b.held <;>
      simp [step, leave, h, BrowserOutcome.deeds, starts, closings, overtaken]
  | fetch url =>
    cases h : b.held <;>
      simp [step, fetch, h, BrowserOutcome.deeds, starts, closings, overtaken]

theorem held_leave (b : Browser) : b.leave.browser.held = none := by
  unfold leave
  split
  next h => exact h
  next => rfl

theorem fetch_of_none (h : b.held = none) :
    b.fetch pages url = ⟨b, .error .notEntered, none, []⟩ := by
  simp only [fetch, h]

/-- A browser at hand is made to render the page, whatever becomes of it. -/
theorem fetch_of_some (h : b.held = some n) :
    (b.fetch pages url).result ≠ .error .notEntered ∧ (b.fetch pages url).browser = b ∧
      (b.fetch pages url).deeds = [(n, .rendered url b.milliseconds)] := by
  simp only [fetch, h]
  refine ⟨?_, trivial, rfl⟩
  split
  next => simp
  split
  next => simp
  next => simp

end Step

section Run

theorem starts_append (ds es : List (Nat × BrowserEvent)) :
    starts (ds ++ es) = starts ds ++ starts es := by
  simp only [starts, List.filter_append, List.map_append]

theorem closings_append (ds es : List (Nat × BrowserEvent)) :
    closings (ds ++ es) = closings ds ++ closings es := by
  simp only [closings, List.filter_append, List.map_append]

theorem live_run (b : Browser) (pages : List (String × Rendering)) (steps : List BrowserStep)
    (lost : List Nat) :
    (b.deeds pages steps).foldl live (b.held.toList ++ lost) =
      (b.after pages steps).held.toList ++ (b.lost pages steps ++ lost) := by
  induction steps generalizing b lost with
  | nil => rfl
  | cons s rest ih =>
    rw [deeds_cons, List.foldl_append, live_step, ih, Browser.lost, List.append_assoc]
    rfl

theorem starts_run (b : Browser) (pages : List (String × Rendering))
    (steps : List BrowserStep) :
    ∃ k, (b.after pages steps).made = b.made + k ∧
      starts (b.deeds pages steps) = List.range' b.made k := by
  induction steps generalizing b with
  | nil => exact ⟨0, rfl, rfl⟩
  | cons s rest ih =>
    obtain ⟨j, hstep, hstarts⟩ := starts_step b pages s
    obtain ⟨k, hrun, hrest⟩ := ih (b.step pages s).browser
    refine ⟨j + k, ?_, ?_⟩
    · rw [after, hrun, hstep, Nat.add_assoc]
    · rw [deeds_cons, starts_append, hstarts, hrest, hstep, List.range'_append_1]

theorem balance_run (b : Browser) (pages : List (String × Rendering)) (steps : List BrowserStep)
    (lost : List Nat) :
    (starts (b.deeds pages steps) ++ (b.held.toList ++ lost)).Perm
      (closings (b.deeds pages steps) ++
        ((b.after pages steps).held.toList ++ (b.lost pages steps ++ lost))) := by
  induction steps generalizing b lost with
  | nil => exact List.Perm.refl _
  | cons s rest ih =>
    rw [List.perm_iff_count]
    intro n
    have hstep := List.perm_iff_count.mp (balance_step b pages s lost) n
    have hrest := List.perm_iff_count.mp
      (ih (b.step pages s).browser (b.overtaken s ++ lost)) n
    simp only [deeds_cons, starts_append, closings_append, after, Browser.lost,
      List.count_append] at hstep hrest ⊢
    omega

/-- None is lost just where every browser is started with none at hand. -/
theorem lost_eq_nil_iff (b : Browser) (steps : List BrowserStep) :
    b.lost pages steps = [] ↔
      ∀ front, front ++ [.enter] <+: steps → (b.after pages front).held = none := by
  induction steps generalizing b with
  | nil => simp [lost]
  | cons s rest ih =>
    rw [lost, List.append_eq_nil_iff, ih]
    constructor
    · rintro ⟨hrest, hfirst⟩ front hfront
      cases front with
      | nil =>
        obtain ⟨rfl, -⟩ := List.cons_prefix_cons.mp hfront
        exact Option.toList_eq_nil_iff.mp hfirst
      | cons s' front =>
        obtain ⟨rfl, htail⟩ := List.cons_prefix_cons.mp hfront
        exact hrest front htail
    · intro h
      refine ⟨fun front hfront => h (s :: front) (List.cons_prefix_cons.mpr ⟨rfl, hfront⟩), ?_⟩
      cases s with
      | enter =>
        exact Option.toList_eq_nil_iff.mpr
          (h [] (List.cons_prefix_cons.mpr ⟨rfl, List.nil_prefix⟩))
      | leave => rfl
      | fetch url => rfl

variable (b pages steps)

/-- What is true of the browsers of one fetcher after some steps. -/
structure Kept : Prop where
  /-- What runs is at hand, or another took its place. -/
  running_eq : running (b.deeds pages steps) =
    (b.after pages steps).held.toList ++ b.lost pages steps
  /-- Only those run after a leave that others took the place of. -/
  running_leave : running (b.deeds pages (steps ++ [.leave])) = b.lost pages steps
  /-- These run on for good. -/
  lost_stays : ∀ front, front <+: steps → b.lost pages front <:+ b.lost pages steps
  /-- There are none just where each is started with none at hand. -/
  lost_iff : b.lost pages steps = [] ↔
    ∀ front, front ++ [.enter] <+: steps → (b.after pages front).held = none
  /-- Each is started once. -/
  starts_eq : starts (b.deeds pages steps) = List.range (b.after pages steps).made
  /-- Each that is started is closed once, or is still running. -/
  balance : (starts (b.deeds pages steps)).Perm
    (closings (b.deeds pages steps) ++ running (b.deeds pages steps))
  fetch_refused : ∀ url, ((b.after pages steps).fetch pages url).result = .error .notEntered ↔
    (b.after pages steps).held = none
  /-- Pages are rendered by the one at hand, which runs. -/
  fetch_held : ∀ url n, (b.after pages steps).held = some n →
    ((b.after pages steps).fetch pages url).deeds =
        [(n, .rendered url (b.after pages steps).milliseconds)] ∧
      n ∈ running (b.deeds pages steps)

variable {b pages steps}

theorem running_of_fresh (h : b.held = none) : running (b.deeds pages steps) =
    (b.after pages steps).held.toList ++ b.lost pages steps := by
  have hlive := live_run b pages steps []
  simp only [h, List.append_nil] at hlive
  exact hlive

/-- One fetcher keeps one browser at a time as long as it is not entered again with one at hand;
one that another takes the place of runs on for good. -/
theorem kept_ofOptions (o : FetcherOptions) (pages : List (String × Rendering))
    (steps : List BrowserStep) : Kept (ofOptions o) pages steps where
  running_eq := running_of_fresh rfl
  running_leave := by
    have hheld : ((ofOptions o).after pages (steps ++ [.leave])).held = none := by
      rw [after_append]
      exact held_leave _
    rw [running_of_fresh rfl, hheld, lost_append]
    rfl
  lost_stays := by
    rintro front ⟨rest, rfl⟩
    exact lost_append (ofOptions o) front rest ▸ List.suffix_append _ _
  lost_iff := lost_eq_nil_iff (ofOptions o) steps
  starts_eq := by
    obtain ⟨k, hmade, hstarts⟩ := starts_run (ofOptions o) pages steps
    have hmade : ((ofOptions o).after pages steps).made = k := hmade.trans (Nat.zero_add k)
    rw [hstarts, hmade, List.range_eq_range']
    rfl
  balance := by
    have hbalance := balance_run (ofOptions o) pages steps []
    rw [running_of_fresh rfl]
    simpa [ofOptions] using hbalance
  fetch_refused := by
    intro url
    cases h : ((ofOptions o).after pages steps).held with
    | none => simp [fetch_of_none h]
    | some n => simp [(fetch_of_some h).1]
  fetch_held := by
    intro url n h
    refine ⟨(fetch_of_some h).2.2, ?_⟩
    rw [running_of_fresh rfl, h]
    exact List.mem_append_left _ List.mem_cons_self

/-- A fetcher that is entered again forgets the browser at hand, which no leave closes. -/
theorem enter_again_leaks :
    running ((ofOptions {}).deeds [] [.enter, .enter]) = [1, 0] ∧
      running ((ofOptions {}).deeds [] [.enter, .enter, .leave]) = [0] ∧
      ((ofOptions {}).after [] [.enter, .enter, .leave]).held = none :=
  ⟨rfl, rfl, rfl⟩

end Run

end Browser

end Gleaner.Web
