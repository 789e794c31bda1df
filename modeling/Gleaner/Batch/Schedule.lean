import Gleaner.Web.Arrival

/-!
The order in which the fetches of a batch go on. There are so many places; who finds one goes on
until it passes its turn to the others, and who finds none waits. A place that becomes free goes to
the one that has waited longest. When nobody has a turn to take, time passes until the first of
those that sleep wake up.
-/

namespace Gleaner.Batch

open Web (Move Course)

/-- What happens to the visitor of a number. -/
inductive Event where
  | started (i : Nat)
  | finished (i : Nat)
  | landed (i : Nat)
  deriving DecidableEq

/-- A visitor, with what is left of its way. -/
structure Visitor where
  number : Nat
  course : Course

/-- Where the turn of a visitor ends. -/
inductive Stop where
  | passed (rest : Course)
  | stalled (n : Nat) (rest : Course)
  | halted
  | landed

/-- Goes along a way for one turn. -/
def advance (i : Nat) : Course → List Event × Stop
  | [] => ([.landed i], .landed)
  | .pass :: rest => ([], .passed rest)
  | .stall n :: rest => ([], .stalled n rest)
  | .halt :: _ => ([], .halted)
  | .start :: rest =>
    let (events, stop) := advance i rest
    (.started i :: events, stop)
  | .finish :: rest =>
    let (events, stop) := advance i rest
    (.finished i :: events, stop)

/-- A visitor that sleeps, with the time at which it wakes up. -/
structure Sleeper where
  due : Nat
  visitor : Visitor

/-- Puts a sleeper behind those that wake up no later. -/
def queue (s : Sleeper) : List Sleeper → List Sleeper
  | [] => [s]
  | t :: rest => if t.due ≤ s.due then t :: queue s rest else s :: t :: rest

/-- All visitors that have not landed, and the places that are free. -/
structure Hall where
  free : Nat
  /-- The time that has passed. -/
  clock : Nat := 0
  /-- Those that have not come in yet. -/
  arriving : List Visitor
  /-- Those that have a place, in the order of their turns. -/
  ready : List Visitor := []
  /-- Those that came in and found no place. -/
  waiting : List Visitor := []
  /-- Those that have a place and sleep, in the order in which they wake up. -/
  stalled : List Sleeper := []

namespace Hall

/-- Gives up a place, to the one that has waited longest. -/
def release (h : Hall) : Hall :=
  match h.waiting with
  | [] => { h with free := h.free + 1 }
  | v :: rest => { h with waiting := rest, ready := h.ready ++ [v] }

/-- Puts a visitor where its turn ended. -/
def settle (h : Hall) (i : Nat) : Stop → Hall
  | .passed rest => { h with ready := h.ready ++ [⟨i, rest⟩] }
  | .stalled n rest => { h with stalled := queue ⟨h.clock + n, ⟨i, rest⟩⟩ h.stalled }
  | .halted => h
  | .landed => h.release

/-- The turn of a visitor that has a place. -/
def turn (h : Hall) (v : Visitor) : List Event × Hall :=
  let (events, stop) := advance v.number v.course
  (events, h.settle v.number stop)

/-- Lets time pass until the first of those that sleep wake up. -/
def wake (h : Hall) (s : Sleeper) (rest : List Sleeper) : Hall :=
  { h with
    clock := s.due
    ready := s.visitor :: (rest.takeWhile (·.due = s.due)).map (·.visitor)
    stalled := rest.dropWhile (·.due = s.due) }

/-- What happens next, unless nothing ever does. -/
def next (h : Hall) : Option (List Event × Hall) :=
  match h.arriving, h.ready, h.stalled with
  | v :: rest, _, _ =>
    match h.free with
    | 0 => some ([], { h with arriving := rest, waiting := h.waiting ++ [v] })
    | n + 1 => some (turn { h with arriving := rest, free := n } v)
  | [], v :: rest, _ => some (turn { h with ready := rest } v)
  | [], [], s :: rest => some ([], h.wake s rest)
  | [], [], [] => none

/-- The weight of the ways that are left to visitors, each with something for where it stands. -/
def load (extra : Nat) : List Visitor → Nat
  | [] => 0
  | v :: vs => 2 * v.course.length + extra + load extra vs

/-- A measure of what is left to happen. -/
def weight (h : Hall) : Nat :=
  load 3 h.arriving + load 2 h.waiting + load 2 (h.stalled.map (·.visitor)) + load 1 h.ready

theorem load_cons (extra : Nat) (v : Visitor) (vs : List Visitor) :
    load extra (v :: vs) = 2 * v.course.length + extra + load extra vs := rfl

theorem load_append (extra : Nat) (vs ws : List Visitor) :
    load extra (vs ++ ws) = load extra vs + load extra ws := by
  induction vs with
  | nil => simp [load]
  | cons v vs ih => simp only [List.cons_append, load_cons, ih]; omega

theorem load_nil (extra : Nat) : load extra [] = 0 := rfl

theorem load_succ (extra : Nat) (vs : List Visitor) :
    load (extra + 1) vs = load extra vs + vs.length := by
  induction vs with
  | nil => rfl
  | cons v vs ih => simp only [load_cons, ih, List.length_cons]; omega

theorem load_queue (extra : Nat) (s : Sleeper) (sleepers : List Sleeper) :
    load extra ((queue s sleepers).map (·.visitor)) =
      2 * s.visitor.course.length + extra + load extra (sleepers.map (·.visitor)) := by
  induction sleepers with
  | nil => rfl
  | cons t rest ih =>
    unfold queue
    split
    · simp only [List.map_cons, load_cons, ih]; omega
    · rfl

theorem advance_passed {i : Nat} {c rest : Course} (h : (advance i c).2 = .passed rest) :
    rest.length < c.length := by
  fun_induction advance i c with
  | case2 => simp_all
  | case5 _ _ _ e ih | case6 _ _ _ e ih =>
    have := ih (by simpa [e] using h)
    simp only [List.length_cons]
    omega
  | _ => simp at h

theorem advance_stalled {i n : Nat} {c rest : Course} (h : (advance i c).2 = .stalled n rest) :
    rest.length < c.length := by
  fun_induction advance i c with
  | case3 => simp_all
  | case5 _ _ _ e ih | case6 _ _ _ e ih =>
    have := ih (by simpa [e] using h)
    simp only [List.length_cons]
    omega
  | _ => simp at h

theorem weight_release (h : Hall) : h.release.weight ≤ h.weight := by
  unfold release
  split
  · exact Nat.le_refl _
  · next v rest hw => simp only [weight, hw, load_append, load_cons, load_nil]; omega

/-- A turn takes weight off its visitor. -/
theorem weight_turn (h : Hall) (v : Visitor) :
    (h.turn v).2.weight < h.weight + (2 * v.course.length + 1) := by
  unfold turn
  cases hs : (advance v.number v.course).2 with
  | passed rest =>
    have := advance_passed hs
    simp only [hs, settle, weight, load_append, load_cons, load_nil]
    omega
  | stalled n rest =>
    have := advance_stalled hs
    simp only [hs, settle, weight, load_queue]
    omega
  | halted => simp only [hs, settle]; omega
  | landed =>
    have := weight_release h
    simp only [hs, settle]
    omega

/-- Who wakes up weighs less than who sleeps. -/
theorem weight_wake {h : Hall} {s : Sleeper} {rest : List Sleeper} (hready : h.ready = [])
    (hstalled : h.stalled = s :: rest) : (h.wake s rest).weight < h.weight := by
  have hparts : load 2 (rest.map (·.visitor)) =
      load 2 ((rest.takeWhile (·.due = s.due)).map (·.visitor)) +
        load 2 ((rest.dropWhile (·.due = s.due)).map (·.visitor)) := by
    rw [← load_append, ← List.map_append, List.takeWhile_append_dropWhile]
  have hawake (vs : List Visitor) : load 2 vs = load 1 vs + vs.length := load_succ 1 vs
  simp only [weight, wake, hready, hstalled, List.map_cons, load_cons, load_nil, hparts,
    hawake ((rest.takeWhile (·.due = s.due)).map (·.visitor))]
  omega

theorem weight_next {h k : Hall} {events : List Event} (e : h.next = some (events, k)) :
    k.weight < h.weight := by
  unfold next at e
  split at e
  · next v rest ha =>
    split at e
    · cases e
      simp only [weight, ha, load_append, load_cons, load_nil]
      omega
    · next n hf =>
      have hw := weight_turn { h with arriving := rest, free := n } v
      rw [Option.some.inj e] at hw
      simp only [weight, ha, load_cons] at hw ⊢
      omega
  · next v rest ha hr =>
    have hw := weight_turn { h with ready := rest } v
    rw [Option.some.inj e] at hw
    simp only [weight, hr, load_cons] at hw ⊢
    omega
  · next v rest ha hr hs =>
    cases e
    exact weight_wake hr hs
  · cases e

/-- All that happens. -/
def events (h : Hall) : List Event :=
  match _e : h.next with
  | none => []
  | some (now, k) => now ++ k.events
termination_by h.weight
decreasing_by exact weight_next _e

end Hall

/-- What happens to visitors that come in together, in order, where there are so many places. -/
def schedule (places : Nat) (courses : List Course) : List Event :=
  ({ free := places, arriving := courses.mapIdx fun i c => ⟨i, c⟩ } : Hall).events

/-- How many fetches are under way after an event, and the most that were so far. -/
def busier : Nat × Nat → Event → Nat × Nat
  | (now, most), .started _ => (now + 1, max most (now + 1))
  | (now, most), .finished _ => (now - 1, most)
  | counts, .landed _ => counts

/-- The most fetches that are under way at a time. -/
def busiest (events : List Event) : Nat := (events.foldl busier (0, 0)).2

end Gleaner.Batch
