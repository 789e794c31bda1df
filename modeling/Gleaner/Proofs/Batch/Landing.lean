import Gleaner.Batch.Schedule
import Mathlib

/-! Whoever comes into a hall with at least one place lands, and lands once, unless somebody halts
on the way. -/

namespace Gleaner.Batch

open Web (Move Course)

variable {places : Nat} {c : Course} {v : Visitor} {h k : Hall} {events : List Event}

/-- The visitor of whom an event says that it landed. -/
def Event.landing? : Event → Option Nat
  | .started _ => none
  | .finished _ => none
  | .landed i => some i

/-- The visitors that land, in order. -/
def landings (events : List Event) : List Nat := events.filterMap Event.landing?

@[simp] theorem landings_append (events later : List Event) :
    landings (events ++ later) = landings events ++ landings later := by
  simp [landings]

/-- A turn ends where the visitor lands, or with a rest of the way that is still to go. -/
theorem advance_cases (i : Nat) (hc : Move.halt ∉ c) :
    (landings (advance i c).1 = [i] ∧ (advance i c).2 = .landed) ∨
      (landings (advance i c).1 = [] ∧ ∃ rest, Move.halt ∉ rest ∧
        ((advance i c).2 = .passed rest ∨ ∃ n, (advance i c).2 = .stalled n rest)) := by
  fun_induction advance i c with
  | case1 => exact .inl ⟨rfl, rfl⟩
  | case2 rest => exact .inr ⟨rfl, rest, fun hrest => hc (List.mem_cons_of_mem _ hrest), .inl rfl⟩
  | case3 n rest =>
    exact .inr ⟨rfl, rest, fun hrest => hc (List.mem_cons_of_mem _ hrest), .inr ⟨n, rfl⟩⟩
  | case4 => exact absurd List.mem_cons_self hc
  | case5 rest events stop hadvance ih | case6 rest events stop hadvance ih =>
    have hrest := ih fun hmem => hc (List.mem_cons_of_mem _ hmem)
    rw [hadvance] at hrest
    exact hrest

theorem perm_queue (s : Sleeper) (sleepers : List Sleeper) :
    (queue s sleepers).Perm (s :: sleepers) := by
  induction sleepers with
  | nil => exact .refl _
  | cons t rest ih =>
    unfold queue
    split
    · exact (ih.cons t).trans (.swap s t rest)
    · exact .refl _

namespace Hall

/-- The visitors that sleep. -/
def asleep (h : Hall) : List Visitor := h.stalled.map (·.visitor)

/-- All that have not landed. Those that wait stand behind those that are ready, whom they join. -/
def crowd (h : Hall) : List Visitor := h.arriving ++ (h.asleep ++ (h.ready ++ h.waiting))

/-- The places that are free or taken. -/
def capacity (h : Hall) : Nat := h.free + h.ready.length + h.stalled.length

/-- So many places are free or taken, nobody waits while one is free, and nobody halts. -/
structure Orderly (places : Nat) (h : Hall) : Prop where
  capacity : h.capacity = places
  waiting : h.waiting ≠ [] → h.free = 0
  ends : ∀ v ∈ h.crowd, Move.halt ∉ v.course

/-- What becomes of a hall when some events happen to one who has a place there: it lands, or goes
on as `w`. -/
inductive Onward (h : Hall) (v : Visitor) (events : List Event) (k : Hall) : Prop where
  | landed : landings events = [v.number] → k.crowd = h.crowd → Onward h v events k
  | kept (w : Visitor) : landings events = [] → w.number = v.number → Move.halt ∉ w.course →
      k.crowd.Perm (w :: h.crowd) → Onward h v events k

/-- The hall after the turn of one who had taken a place out of it. -/
structure Turned (h : Hall) (v : Visitor) (events : List Event) (k : Hall) : Prop where
  capacity : k.capacity = h.capacity + 1
  waiting : (h.waiting ≠ [] → h.free = 0) → k.waiting ≠ [] → k.free = 0
  onward : Onward h v events k

theorem crowd_release (h : Hall) : h.release.crowd = h.crowd := by
  unfold release
  split
  next => rfl
  next v rest hwaiting => simp [crowd, asleep, hwaiting]

theorem capacity_release (h : Hall) : h.release.capacity = h.capacity + 1 := by
  unfold release
  split
  next =>
    simp only [capacity]
    omega
  next v rest hwaiting =>
    simp only [capacity, List.length_append, List.length_singleton]
    omega

theorem waiting_release (hfree : h.waiting ≠ [] → h.free = 0) (hwaiting : h.release.waiting ≠ []) :
    h.release.free = 0 := by
  unfold release at hwaiting ⊢
  split at hwaiting
  next hempty => exact absurd hempty hwaiting
  next v rest hsome => exact hfree (by simp [hsome])

/-- One who wakes up was asleep before, and the others sleep on. -/
theorem asleep_wake {s : Sleeper} {rest : List Sleeper} (hstalled : h.stalled = s :: rest) :
    h.asleep = (h.wake s rest).ready ++ (h.wake s rest).asleep := by
  simp only [asleep, wake, hstalled, List.map_cons, List.cons_append, ← List.map_append,
    List.takeWhile_append_dropWhile]

theorem turned (h : Hall) (hv : Move.halt ∉ v.course) : Turned h v (h.turn v).1 (h.turn v).2 := by
  unfold turn
  rcases advance_cases v.number hv with ⟨hland, hstop⟩ | ⟨hnone, rest, hrest, hstop | ⟨n, hstop⟩⟩
  · simp only [hstop, settle]
    exact ⟨capacity_release h, waiting_release, .landed hland (crowd_release h)⟩
  · simp only [hstop, settle]
    refine ⟨?_, id, .kept ⟨v.number, rest⟩ hnone rfl hrest ?_⟩
    · simp only [capacity, List.length_append, List.length_singleton]
      omega
    · have hmiddle := @List.perm_middle _ (⟨v.number, rest⟩ : Visitor)
        (h.arriving ++ h.asleep ++ h.ready) h.waiting
      simpa only [crowd, asleep, List.append_assoc, List.singleton_append] using hmiddle
  · simp only [hstop, settle]
    have hqueue := perm_queue ⟨h.clock + n, ⟨v.number, rest⟩⟩ h.stalled
    refine ⟨?_, id, .kept ⟨v.number, rest⟩ hnone rfl hrest ?_⟩
    · have hlength := hqueue.length_eq
      simp only [capacity, List.length_cons] at hlength ⊢
      omega
    · have hasleep := ((hqueue.map (·.visitor)).append_right (h.ready ++ h.waiting)).append_left
        h.arriving
      exact hasleep.trans List.perm_middle

/-- One step of a hall in good order. -/
structure Stepped (places : Nat) (h : Hall) (events : List Event) (k : Hall) : Prop where
  orderly : Orderly places k
  lands : (landings events ++ k.crowd.map (·.number)).Perm (h.crowd.map (·.number))

/-- The step of one who takes a turn, where `k` is the hall with the place taken out of it. -/
theorem stepped_turn (hcapacity : k.capacity + 1 = places) (hfree : k.waiting ≠ [] → k.free = 0)
    (hends : ∀ w ∈ h.crowd, Move.halt ∉ w.course) (hcrowd : h.crowd.Perm (v :: k.crowd)) :
    Stepped places h (k.turn v).1 (k.turn v).2 := by
  have hall : ∀ w ∈ v :: k.crowd, Move.halt ∉ w.course :=
    fun w hw => hends w (hcrowd.mem_iff.mpr hw)
  have hnumbers := hcrowd.map (·.number)
  have hturn := turned k (hall v List.mem_cons_self)
  refine ⟨⟨hturn.capacity.trans hcapacity, hturn.waiting hfree, ?_⟩, ?_⟩
  · intro w hw
    cases hturn.onward with
    | landed _ hsame =>
      rw [hsame] at hw
      exact hall w (List.mem_cons_of_mem v hw)
    | kept u _ _ hu hkept =>
      rcases List.mem_cons.mp (hkept.mem_iff.mp hw) with rfl | hw
      · exact hu
      · exact hall w (List.mem_cons_of_mem v hw)
  · cases hturn.onward with
    | landed hland hsame =>
      rw [hland, hsame]
      exact hnumbers.symm
    | kept u hnone hnumber _ hkept =>
      have hmap := hkept.map (·.number)
      rw [List.map_cons, hnumber] at hmap
      rw [hnone]
      exact hmap.trans hnumbers.symm

/-- The step of one who arrives where no place is free. -/
theorem stepped_wait {rest : List Visitor} (hh : Orderly places h)
    (harriving : h.arriving = v :: rest) (hfree : h.free = 0) :
    Stepped places h [] { h with arriving := rest, waiting := h.waiting ++ [v] } := by
  have hcrowd :
      { h with arriving := rest, waiting := h.waiting ++ [v] }.crowd.Perm h.crowd := by
    simpa [crowd, asleep, harriving] using
      @List.perm_append_comm _ (rest ++ (h.asleep ++ (h.ready ++ h.waiting))) [v]
  exact ⟨⟨hh.capacity, fun _ => hfree, fun w hw => hh.ends w (hcrowd.mem_iff.mp hw)⟩,
    hcrowd.map _⟩

/-- The step of those who wake up, where nobody else could go on. -/
theorem stepped_wake {s : Sleeper} {rest : List Sleeper} (hh : Orderly places h)
    (harriving : h.arriving = []) (hready : h.ready = []) (hstalled : h.stalled = s :: rest) :
    Stepped places h [] (h.wake s rest) := by
  have hasleep := asleep_wake hstalled
  have hcrowd : (h.wake s rest).crowd.Perm h.crowd := by
    have hswap : ((h.wake s rest).asleep ++ ((h.wake s rest).ready ++ h.waiting)).Perm
        (h.asleep ++ h.waiting) := by
      rw [hasleep, ← List.append_assoc]
      exact List.perm_append_comm.append_right h.waiting
    have harriving' : (h.wake s rest).arriving = [] := harriving
    rw [crowd, crowd, harriving', harriving, hready]
    exact hswap
  have hcapacity : (h.wake s rest).capacity = h.capacity := by
    have hlength := congrArg List.length hasleep
    have hfree : (h.wake s rest).free = h.free := rfl
    simp only [asleep, List.length_append, List.length_map] at hlength
    simp only [capacity, hfree, hready, List.length_nil]
    omega
  exact ⟨⟨hcapacity.trans hh.capacity, hh.waiting, fun w hw => hh.ends w (hcrowd.mem_iff.mp hw)⟩,
    hcrowd.map _⟩

/-- As long as somebody has not landed, something happens next. -/
theorem next_cases (hplaces : 0 < places) (hh : Orderly places h) :
    (h.next = none ∧ h.crowd = []) ∨
      ∃ events k, h.next = some (events, k) ∧ Stepped places h events k := by
  have hcapacity := hh.capacity
  unfold capacity at hcapacity
  unfold next
  split
  next v rest harriving =>
    split
    next hfree => exact .inr ⟨_, _, rfl, stepped_wait hh harriving hfree⟩
    next n hfree =>
      have hempty : h.waiting = [] := by
        by_contra hwaiting
        have := hh.waiting hwaiting
        omega
      have hcrowd : h.crowd = v :: { h with arriving := rest, free := n }.crowd := by
        simp [crowd, asleep, harriving]
      refine .inr ⟨_, _, rfl, stepped_turn ?_ (absurd hempty) hh.ends (.of_eq hcrowd)⟩
      simp only [capacity]
      omega
  next v rest harriving hready =>
    rw [hready, List.length_cons] at hcapacity
    refine .inr ⟨_, _, rfl, stepped_turn ?_ hh.waiting hh.ends ?_⟩
    · simp only [capacity]
      omega
    · simp only [crowd, harriving, hready]
      exact List.perm_middle
  next s rest harriving hready hstalled =>
    exact .inr ⟨_, _, rfl, stepped_wake hh harriving hready hstalled⟩
  next harriving hready hstalled =>
    simp only [hready, hstalled, List.length_nil] at hcapacity
    have hempty : h.waiting = [] := by
      by_contra hwaiting
      have := hh.waiting hwaiting
      omega
    exact .inl ⟨rfl, by simp [crowd, asleep, harriving, hready, hstalled, hempty]⟩

/-- Everyone lands, and nobody else. -/
theorem landings_events (hplaces : 0 < places) (hh : Orderly places h) :
    (landings h.events).Perm (h.crowd.map (·.number)) := by
  fun_induction events h with
  | case1 h hnone =>
    rcases next_cases hplaces hh with ⟨-, hempty⟩ | ⟨now, k, hnext, -⟩
    · rw [hempty]
      exact .refl []
    · simp [hnone] at hnext
  | case2 h now k hnext ih =>
    rcases next_cases hplaces hh with ⟨hnone, -⟩ | ⟨now', k', hnext', hstep⟩
    · simp [hnone] at hnext
    · rw [hnext] at hnext'
      cases hnext'
      rw [landings_append]
      exact ((ih hstep.orderly).append_left _).trans hstep.lands

end Hall

/-- Where there is a place and nobody halts, everyone who comes in lands once. -/
theorem landings_schedule (hplaces : 0 < places) {courses : List Course}
    (hcourses : ∀ c ∈ courses, Move.halt ∉ c) :
    (landings (schedule places courses)).Perm (List.range courses.length) := by
  have horderly : Hall.Orderly places
      { free := places, arriving := courses.mapIdx fun i c => ⟨i, c⟩ } := by
    refine ⟨rfl, fun hwaiting => absurd rfl hwaiting, ?_⟩
    intro v hv
    obtain ⟨i, hi, rfl⟩ := List.mem_mapIdx.mp (by simpa [Hall.crowd, Hall.asleep] using hv)
    exact hcourses _ (List.getElem_mem hi)
  have hnumbers : (courses.mapIdx fun i c => (⟨i, c⟩ : Visitor)).map (·.number) =
      List.range courses.length := by
    apply List.ext_getElem <;> simp
  have hlands := Hall.landings_events hplaces horderly
  simp only [Hall.crowd, Hall.asleep, List.map_nil, List.append_nil, hnumbers] at hlands
  exact hlands

end Gleaner.Batch
