import Gleaner.Proofs.Batch.Tally

/-! Fetches of a batch without a time limit: they start in the order of their items, and no more of
them are under way than there are places. -/

namespace Gleaner.Batch

open Web (Move Course)

variable {places total i : Nat} {c : Course} {v : Visitor} {h k : Hall} {events later : List Event}

/-- How many fetches have started, and which of them are under way. -/
structure Progress where
  started : Nat := 0
  underway : List Nat := []

namespace Progress

variable {p : Progress}

def take (p : Progress) : Event → Progress
  | .started i => ⟨p.started + 1, i :: p.underway⟩
  | .finished i => ⟨p.started, p.underway.erase i⟩
  | .landed _ => p

def after (p : Progress) (events : List Event) : Progress := events.foldl take p

/-- With so many places for so many fetches in all, a fetch may start when its turn has come and a
place is free. It may end while it is under way, and land once it has started. -/
def Allows (places total : Nat) (p : Progress) : Event → Prop
  | .started i => i = p.started ∧ i < total ∧ p.underway.length < places
  | .finished i => i ∈ p.underway
  | .landed i => i < p.started

/-- Each event may happen when it does. -/
def Follows (places total : Nat) : Progress → List Event → Prop
  | _, [] => True
  | p, e :: events => p.Allows places total e ∧ (p.take e).Follows places total events

theorem follows_append : p.Follows places total (events ++ later) ↔
    p.Follows places total events ∧ (p.after events).Follows places total later := by
  induction events generalizing p with
  | nil => exact (iff_of_eq (true_and _)).symm
  | cons e events ih =>
    rw [List.cons_append, Follows, Follows, ih, and_assoc]
    rfl

/-- No more fetches start than there are, and no more are under way than there are places. -/
structure Within (places total : Nat) (p : Progress) : Prop where
  started : p.started ≤ total
  underway : p.underway.length ≤ places

theorem within_take {e : Event} (hp : p.Within places total) (he : p.Allows places total e) :
    (p.take e).Within places total := by
  cases e with
  | started i =>
    obtain ⟨rfl, hnext, hfree⟩ := he
    exact ⟨hnext, hfree⟩
  | finished i => exact ⟨hp.started, (List.erase_sublist.length_le).trans hp.underway⟩
  | landed i => exact hp

theorem within_after (hp : p.Within places total) (hevents : p.Follows places total events) :
    (p.after events).Within places total := by
  induction events generalizing p with
  | nil => exact hp
  | cons e events ih => exact ih (within_take hp hevents.1) hevents.2

theorem started_le_after (p : Progress) (events : List Event) :
    p.started ≤ (p.after events).started := by
  induction events generalizing p with
  | nil => exact Nat.le_refl _
  | cons e events ih =>
    refine Nat.le_trans ?_ (ih (p := p.take e))
    cases e with
    | started i => exact Nat.le_succ _
    | finished i | landed i => exact Nat.le_refl _

/-- Who lands has started. -/
theorem landing_lt (hevents : p.Follows places total events) (hi : i ∈ landings events) :
    i < (p.after events).started := by
  induction events generalizing p with
  | nil => cases hi
  | cons e events ih =>
    have hrest := ih hevents.2
    cases e with
    | started j | finished j => exact hrest hi
    | landed j =>
      rcases List.mem_cons.mp hi with rfl | hi
      · exact Nat.lt_of_lt_of_le hevents.1 (started_le_after p events)
      · exact hrest hi

/-- The count of those under way never passes the number of places. -/
theorem busier_le {most : Nat} (hevents : p.Follows places total events) (hmost : most ≤ places) :
    (events.foldl busier (p.underway.length, most)).2 ≤ places := by
  induction events generalizing p most with
  | nil => exact hmost
  | cons e events ih =>
    have hrest := hevents.2
    cases e with
    | started i => exact ih hrest (Nat.max_le.mpr ⟨hmost, hevents.1.2.2⟩)
    | finished i =>
      have hlength : (p.take (.finished i)).underway.length = p.underway.length - 1 :=
        List.length_erase_of_mem hevents.1
      rw [List.foldl_cons, busier, ← hlength]
      exact ih hrest hmost
    | landed i => exact ih hrest hmost

theorem busiest_le (hevents : Progress.Follows places total {} events) :
    busiest events ≤ places :=
  busier_le hevents (Nat.zero_le _)

end Progress

/-- The way that is left of a fetch that has started and will end: it passes turns and sleeps. -/
inductive Flying : Course → Prop
  | finish : Flying [.finish]
  | pass {c : Course} (rest : Flying c) : Flying (.pass :: c)
  | stall {c : Course} (n : Nat) (rest : Flying c) : Flying (.stall n :: c)

/-- The whole way of a fetch, which may hang. -/
def Unstarted (c : Course) : Prop := c = [.start, .halt] ∨ ∃ rest, Flying rest ∧ c = .start :: rest

def isFresh (v : Visitor) : Bool := v.course.head? = some .start

theorem isFresh_of_unstarted (hv : Unstarted v.course) : isFresh v = true := by
  rcases hv with hv | ⟨rest, -, hv⟩ <;> simp [isFresh, hv]

theorem isFresh_of_flying (hv : Flying v.course) : isFresh v = false := by
  obtain ⟨number, course⟩ := v
  unfold isFresh
  cases hv <;> rfl

theorem advance_flying (i : Nat) (hc : Flying c) :
    advance i c = ([.finished i, .landed i], .landed) ∨
      ∃ rest, Flying rest ∧
        (advance i c = ([], .passed rest) ∨ ∃ n, advance i c = ([], .stalled n rest)) := by
  cases hc with
  | finish => exact .inl rfl
  | pass hrest => exact .inr ⟨_, hrest, .inl rfl⟩
  | stall n hrest => exact .inr ⟨_, hrest, .inr ⟨n, rfl⟩⟩

namespace Hall

variable {p : Progress} {away : List Nat}

/-- The visitors whose fetches have not started, in the order in which they come to it. -/
def pending (h : Hall) : List Nat :=
  (h.ready.filter isFresh ++ (h.waiting ++ h.arriving)).map (·.number)

/-- The visitors in a hall whose fetches have started. -/
def flying (h : Hall) : List Nat := (h.asleep ++ h.ready.filter (!isFresh ·)).map (·.number)

/-- The fetches that have not started stand in the order of their numbers, and each that is under
way holds a place: a visitor of the hall, or one who is away, taking its turn or hanging. -/
structure InTurn (places total : Nat) (h : Hall) (p : Progress) (away : List Nat) : Prop where
  stalled : ∀ v ∈ h.asleep, Flying v.course
  pending : h.pending = List.range' p.started (total - p.started)
  ready : ∀ v ∈ h.ready, Unstarted v.course ∨ Flying v.course
  others : ∀ v ∈ h.waiting ++ h.arriving, Unstarted v.course
  arriving : h.arriving ≠ [] → ∀ v ∈ h.ready, isFresh v = false
  waiting : h.waiting ≠ [] → h.free = 0
  underway : p.underway.Perm (away ++ h.flying)
  old : ∀ i ∈ p.underway, i < p.started
  capacity : h.capacity + away.length = places

/-- The first of those whose fetches have not started is the next to start. -/
theorem next_pending {n started total : Nat} {rest : List Nat}
    (h : n :: rest = List.range' started (total - started)) :
    n = started ∧ started < total ∧ rest = List.range' (started + 1) (total - (started + 1)) := by
  cases hleft : total - started with
  | zero => simp [hleft] at h
  | succ left =>
    rw [hleft, List.range'_succ, List.cons.injEq] at h
    have hless : total - (started + 1) = left := by omega
    exact ⟨h.1, by omega, by rw [hless]; exact h.2⟩

/-- One who joins those with a place. -/
theorem flying_ready (h : Hall) (hv : isFresh v = false) :
    { h with ready := h.ready ++ [v] }.pending = h.pending ∧
      { h with ready := h.ready ++ [v] }.flying = h.flying ++ [v.number] := by
  simp [pending, flying, asleep, hv]

/-- One whose fetch ends gives its place to the one that has waited longest. -/
theorem inTurn_release (hh : InTurn places total h p (i :: away))
    (harriving : h.arriving ≠ [] → h.waiting = []) :
    InTurn places total h.release ⟨p.started, p.underway.erase i⟩ away := by
  have hcapacity := hh.capacity
  rw [List.length_cons] at hcapacity
  have hunderway : (p.underway.erase i).Perm (away ++ h.flying) := by
    have := hh.underway.erase i
    rwa [List.cons_append, List.erase_cons_head] at this
  have hold : ∀ j ∈ p.underway.erase i, j < p.started :=
    fun j hj => hh.old j (List.mem_of_mem_erase hj)
  unfold release
  split
  next hwaiting =>
    exact ⟨hh.stalled, hh.pending, hh.ready, hh.others, hh.arriving, absurd hwaiting, hunderway,
      hold, by simp only [capacity] at hcapacity ⊢; omega⟩
  next w rest hwaiting =>
    have hw : Unstarted w.course := hh.others w (by simp [hwaiting])
    have hfresh := isFresh_of_unstarted hw
    refine ⟨hh.stalled, ?_, ?_, ?_, ?_, ?_, ?_, hold, ?_⟩
    · rw [← hh.pending]
      simp [pending, hwaiting, hfresh]
    · intro v hv
      rcases List.mem_append.mp hv with hv | hv
      · exact hh.ready v hv
      · exact .inl (List.mem_singleton.mp hv ▸ hw)
    · exact fun v hv => hh.others v (by simp only [hwaiting]; exact List.mem_cons_of_mem w hv)
    · exact fun hmore => absurd (harriving hmore) (by simp [hwaiting])
    · exact fun _ => hh.waiting (by simp [hwaiting])
    · simpa [flying, asleep, hfresh] using hunderway
    · simp only [capacity, List.length_append, List.length_singleton] at hcapacity ⊢
      omega

/-- One whose fetch sleeps keeps its place. -/
theorem inTurn_sleep {rest : Course} (hh : InTurn places total h p (i :: away)) (n : Nat)
    (hrest : Flying rest) : InTurn places total (h.settle i (.stalled n rest)) p away := by
  have hcapacity := hh.capacity
  have hqueue := perm_queue ⟨h.clock + n, ⟨i, rest⟩⟩ h.stalled
  have hasleep : (h.settle i (.stalled n rest)).asleep.Perm (⟨i, rest⟩ :: h.asleep) :=
    hqueue.map Sleeper.visitor
  refine ⟨?_, hh.pending, hh.ready, hh.others, hh.arriving, hh.waiting, ?_, hh.old, ?_⟩
  · intro v hv
    rcases List.mem_cons.mp (hasleep.mem_iff.mp hv) with rfl | hv
    · exact hrest
    · exact hh.stalled v hv
  · have hflying : (h.settle i (.stalled n rest)).flying.Perm (i :: h.flying) :=
      (hasleep.append_right (h.ready.filter (!isFresh ·))).map Visitor.number
    exact hh.underway.trans (List.perm_middle.symm.trans (hflying.symm.append_left away))
  · have hlength := hqueue.length_eq
    simp only [settle, capacity, List.length_cons] at hlength hcapacity ⊢
    omega

/-- The turn of one whose fetch is under way: it ends, sleeps, or goes on later. -/
theorem inTurn_flying (hh : InTurn places total h p (i :: away))
    (harriving : h.arriving ≠ [] → h.waiting = []) (hc : Flying c) :
    p.Follows places total (advance i c).1 ∧
      InTurn places total (h.settle i (advance i c).2) (p.after (advance i c).1) away := by
  have hmem : i ∈ p.underway := hh.underway.mem_iff.mpr List.mem_cons_self
  rcases advance_flying i hc with hturn | ⟨rest, hrest, hturn | ⟨n, hturn⟩⟩
  · rw [hturn]
    exact ⟨⟨hmem, hh.old i hmem, trivial⟩, inTurn_release hh harriving⟩
  · rw [hturn]
    have hflying : isFresh ⟨i, rest⟩ = false := isFresh_of_flying hrest
    obtain ⟨hpending, hmore⟩ := flying_ready h hflying
    have hcapacity := hh.capacity
    refine ⟨trivial, hh.stalled, hpending.trans hh.pending, ?_, hh.others, ?_, hh.waiting, ?_,
      hh.old, ?_⟩
    · intro v hv
      rcases List.mem_append.mp hv with hv | hv
      · exact hh.ready v hv
      · exact .inr (List.mem_singleton.mp hv ▸ hrest)
    · intro harriving v hv
      rcases List.mem_append.mp hv with hv | hv
      · exact hh.arriving harriving v hv
      · exact List.mem_singleton.mp hv ▸ hflying
    · refine hh.underway.trans ?_
      rw [settle, hmore, ← List.append_assoc]
      exact (List.perm_append_singleton i _).symm
    · rw [List.length_cons] at hcapacity
      simp only [settle, capacity, List.length_append, List.length_cons, List.length_nil] at *
      omega
  · rw [hturn]
    exact ⟨trivial, inTurn_sleep hh n hrest⟩

/-- The turn of one whose fetch starts: it ends at once, goes on later, or hangs. -/
theorem inTurn_unstarted (hnext : p.Allows places total (.started v.number))
    (hh : InTurn places total h (p.take (.started v.number)) (v.number :: away))
    (harriving : h.arriving ≠ [] → h.waiting = []) (hv : Unstarted v.course) :
    p.Follows places total (h.turn v).1 ∧
      ∃ away, InTurn places total (h.turn v).2 (p.after (h.turn v).1) away := by
  unfold turn
  rcases hv with hv | ⟨rest, hrest, hv⟩
  · rw [hv]
    exact ⟨⟨hnext, trivial⟩, _, hh⟩
  · rw [hv]
    obtain ⟨hfollows, hafter⟩ := inTurn_flying hh harriving hrest
    exact ⟨⟨hnext, hfollows⟩, away, hafter⟩

/-- The first of those whose fetches have not started takes a place that was free or given to it. -/
theorem inTurn_start {g : Hall} (hh : InTurn places total h p away)
    (hpending : h.pending = v.number :: g.pending) (hflying : g.flying = h.flying)
    (hready : ∀ w ∈ g.ready, w ∈ h.ready)
    (hothers : ∀ w ∈ g.waiting ++ g.arriving, w ∈ h.waiting ++ h.arriving)
    (harriving : g.arriving ≠ [] → h.arriving ≠ []) (hstalled : g.stalled = h.stalled)
    (hwaiting : g.waiting ≠ [] → g.free = 0)
    (hplace : g.capacity + 1 = h.capacity) :
    p.Allows places total (.started v.number) ∧
      InTurn places total g (p.take (.started v.number)) (v.number :: away) := by
  have hcapacity := hh.capacity
  obtain ⟨hnumber, hless, hrest⟩ := next_pending (hpending.symm.trans hh.pending)
  -- those under way are away or among those with a place, one of which is the one that starts
  have hfree : p.underway.length < places := by
    have hlength := hh.underway.length_eq
    have hfew : g.flying.length ≤ g.stalled.length + g.ready.length := by
      have hstarted := List.length_filter_le (!isFresh ·) g.ready
      simp only [flying, asleep, List.length_map, List.length_append]
      omega
    rw [List.length_append, ← hflying] at hlength
    simp only [capacity] at hplace hcapacity
    omega
  refine ⟨⟨hnumber, hnumber ▸ hless, hfree⟩, ?_, hrest,
    fun w hw => hh.ready w (hready w hw), fun w hw => hh.others w (hothers w hw),
    fun hmore w hw => hh.arriving (harriving hmore) w (hready w hw), hwaiting, ?_, ?_, ?_⟩
  · rw [asleep, hstalled]
    exact hh.stalled
  · rw [hflying]
    exact hh.underway.cons v.number
  · intro j hj
    rcases List.mem_cons.mp hj with rfl | hj
    · exact hnumber ▸ Nat.lt_succ_self _
    · exact Nat.lt_succ_of_lt (hh.old j hj)
  · rw [List.length_cons]
    omega

/-- When nobody has a turn to take, the first of those that sleep go on. -/
theorem inTurn_wake {s : Sleeper} {rest : List Sleeper} (hh : InTurn places total h p away)
    (harriving : h.arriving = []) (hready : h.ready = []) (hstalled : h.stalled = s :: rest) :
    InTurn places total (h.wake s rest) p away := by
  have hasleep := asleep_wake hstalled
  have hboth : ∀ v ∈ (h.wake s rest).ready ++ (h.wake s rest).asleep, Flying v.course :=
    fun v hv => hh.stalled v (hasleep ▸ hv)
  have hflying : ∀ v ∈ (h.wake s rest).ready, Flying v.course :=
    fun v hv => hboth v (List.mem_append_left _ hv)
  have hstarted : (h.wake s rest).ready.filter (!isFresh ·) = (h.wake s rest).ready :=
    List.filter_eq_self.mpr fun v hv => by simp [isFresh_of_flying (hflying v hv)]
  have hnone : (h.wake s rest).ready.filter isFresh = [] :=
    List.filter_eq_nil_iff.mpr fun v hv => by simp [isFresh_of_flying (hflying v hv)]
  refine ⟨fun v hv => hboth v (List.mem_append_right _ hv), ?_, fun v hv => .inr (hflying v hv),
    hh.others, absurd harriving, hh.waiting, ?_, hh.old, ?_⟩
  · rw [← hh.pending, pending, pending, hnone, hready]
    rfl
  · have hsame : (h.wake s rest).flying.Perm h.flying := by
      rw [flying, flying, hstarted, hasleep, hready, List.filter_nil, List.append_nil]
      exact List.perm_append_comm.map _
    exact hh.underway.trans (hsame.symm.append_left away)
  · have hcapacity := hh.capacity
    have hlength := congrArg List.length hasleep
    have hfree : (h.wake s rest).free = h.free := rfl
    simp only [asleep, List.length_append, List.length_map] at hlength
    simp only [capacity, hready, List.length_nil] at hcapacity
    simp only [capacity, hfree]
    omega

/-- One who comes in while no place is free waits behind the others. -/
theorem inTurn_wait {rest : List Visitor} (hh : InTurn places total h p away)
    (harriving : h.arriving = v :: rest) (hfree : h.free = 0) :
    InTurn places total { h with arriving := rest, waiting := h.waiting ++ [v] } p away where
  stalled := hh.stalled
  pending := by
    rw [← hh.pending]
    simp [Hall.pending, harriving]
  ready := hh.ready
  others := by
    simpa [harriving] using hh.others
  arriving := fun _ => hh.arriving (by simp [harriving])
  waiting := fun _ => hfree
  underway := hh.underway
  old := hh.old
  capacity := hh.capacity

/-- The first of those with a place, its fetch under way, takes its turn. -/
theorem inTurn_leave {rest : List Visitor} (hh : InTurn places total h p away)
    (harriving : h.arriving = []) (hready : h.ready = v :: rest) (hv : Flying v.course) :
    InTurn places total { h with ready := rest } p (v.number :: away) := by
  have hflying := isFresh_of_flying hv
  have hcapacity := hh.capacity
  refine ⟨hh.stalled, ?_, fun w hw => hh.ready w (hready ▸ List.mem_cons_of_mem v hw),
    hh.others, absurd harriving, hh.waiting, hh.underway.trans ?_, hh.old, ?_⟩
  · rw [← hh.pending]
    simp [pending, hready, hflying]
  · have hcut : h.flying.Perm (v.number :: { h with ready := rest }.flying) := by
      simp [flying, asleep, hready, hflying]
    exact (hcut.append_left away).trans List.perm_middle
  · simp only [capacity, hready, List.length_cons] at hcapacity ⊢
    omega

/-- One who comes in while a place is free is the first of those whose fetches have not started. -/
theorem pending_arriving {rest : List Visitor} {n : Nat} (hh : InTurn places total h p away)
    (harriving : h.arriving = v :: rest) (hfree : h.free = n + 1) :
    h.waiting = [] ∧ h.pending = v.number :: { h with arriving := rest, free := n }.pending := by
  have hwaiting : h.waiting = [] := by
    by_contra hsome
    have := hh.waiting hsome
    omega
  have hready : h.ready.filter isFresh = [] := List.filter_eq_nil_iff.mpr fun w hw => by
    simp [hh.arriving (by simp [harriving]) w hw]
  exact ⟨hwaiting, by simp [pending, harriving, hwaiting, hready]⟩

/-- Whatever happens next may happen, and keeps the order. -/
theorem inTurn_next (hh : InTurn places total h p away) (hnext : h.next = some (events, k)) :
    p.Follows places total events ∧ ∃ away, InTurn places total k (p.after events) away := by
  unfold next at hnext
  split at hnext
  next v rest harriving =>
    split at hnext
    next hfree =>
      cases hnext
      exact ⟨trivial, away, inTurn_wait hh harriving hfree⟩
    next n hfree =>
      obtain ⟨hwaiting, hpending⟩ := pending_arriving hh harriving hfree
      have hothers : ∀ w ∈ h.waiting ++ rest, w ∈ h.waiting ++ h.arriving := by
        intro w hw
        rw [harriving]
        rcases List.mem_append.mp hw with hw | hw
        · exact List.mem_append_left _ hw
        · exact List.mem_append_right _ (List.mem_cons_of_mem v hw)
      obtain ⟨hallows, hstart⟩ := inTurn_start hh hpending rfl (fun _ hw => hw) hothers
        (fun _ => by simp [harriving]) rfl (fun hsome => absurd hwaiting hsome)
        (by simp only [capacity]; omega)
      cases hnext
      exact inTurn_unstarted hallows hstart (fun _ => hwaiting)
        (hh.others v (by simp [harriving]))
  next v rest harriving hready =>
    cases hnext
    rcases hh.ready v (by simp [hready]) with hv | hv
    · have hfresh := isFresh_of_unstarted hv
      obtain ⟨hallows, hstart⟩ := inTurn_start (v := v) (g := { h with ready := rest }) hh
        (by simp [pending, hready, hfresh]) (by simp [flying, asleep, hready, hfresh])
        (fun w hw => hready ▸ List.mem_cons_of_mem v hw) (fun _ hw => hw) id rfl hh.waiting
        (by simp only [capacity, hready, List.length_cons]; omega)
      exact inTurn_unstarted hallows hstart (absurd harriving) hv
    · have hleave := inTurn_leave hh harriving hready hv
      obtain ⟨hfollows, hafter⟩ := inTurn_flying hleave (absurd harriving) hv
      exact ⟨hfollows, away, hafter⟩
  next s rest harriving hready hstalled =>
    cases hnext
    exact ⟨trivial, away, inTurn_wake hh harriving hready hstalled⟩
  next => cases hnext

theorem follows_events (hh : InTurn places total h p away) : p.Follows places total h.events := by
  -- who is away changes with each turn: only one whose fetch hangs never comes back
  fun_induction events h generalizing p away with
  | case1 h hnone => trivial
  | case2 h now k hnext ih =>
    obtain ⟨hnow, away, hafter⟩ := inTurn_next hh hnext
    exact Progress.follows_append.mpr ⟨hnow, ih hafter⟩

end Hall

/-- Fetches start in the order in which they come in, each where a place is free. -/
theorem follows_schedule (places : Nat) {courses : List Course}
    (hcourses : ∀ c ∈ courses, Unstarted c) :
    Progress.Follows places courses.length {} (schedule places courses) := by
  have hnumbers : (courses.mapIdx fun i c => (⟨i, c⟩ : Visitor)).map (·.number) =
      List.range' 0 courses.length := by
    apply List.ext_getElem <;> simp
  have hstart : Hall.InTurn places courses.length
      { free := places, arriving := courses.mapIdx fun i c => ⟨i, c⟩ } {} [] := by
    refine ⟨fun _ hv => absurd hv List.not_mem_nil, hnumbers, fun _ hv => absurd hv List.not_mem_nil, ?_,
      fun _ _ hv => absurd hv List.not_mem_nil, fun hwaiting => absurd rfl hwaiting, .refl [],
      fun _ hi => absurd hi List.not_mem_nil, rfl⟩
    intro v hv
    obtain ⟨i, hi, rfl⟩ := List.mem_mapIdx.mp hv
    exact hcourses _ (List.getElem_mem hi)
  exact Hall.follows_events hstart

section Run

variable {σ ε : Type} {k : Keeper σ ε} {c : Config} {fetch : String → Web.Arrival} {b : Batch σ}
  {items : List Item} {p : Progress} {r : Run σ ε} {base : List String} {courses : List Course}

/-- The items of a batch are ready to be fetched: they have addresses and schemas. -/
structure Fetchable (c : Config) (items : List Item) : Prop where
  addresses : ∀ i ∈ items, i.url ≠ ""
  schemas : ∀ i ∈ items, i.schema ∈ c.schemas.map (·.1)

theorem course_of_fetchable {i : Item} (hitems : Fetchable c items) (hi : i ∈ items) :
    (⟨i, c.attempt fetch i⟩ : Visit).course =
      (fetch i.url).course (.ofSeconds c.defaults.settings.fetchTimeout) := by
  have haddress := hitems.addresses i hi
  obtain ⟨found, hfound⟩ := exists_schema (hitems.schemas i hi)
  rw [Visit.course, Config.attempt, hfound]
  simp only [Option.map_some, Option.getD_some]
  unfold Schema.attempt
  split
  next hnone _ => exact absurd hnone haddress
  next hnone _ => exact absurd hnone haddress
  next => rfl
  next hmarkup _ => exact absurd rfl hmarkup

theorem flying_flight {a : Web.Arrival} (h : a.answer ≠ none) : Flying a.flight := by
  obtain ⟨answer, hanswer⟩ := Option.ne_none_iff_exists'.mp h
  rw [Web.Arrival.flight, hanswer]
  dsimp only
  induction a.turns with
  | zero =>
    split
    · exact .finish
    · exact .stall a.pause (.pass .finish)
  | succ turns ih => exact .pass ih

theorem unstarted_course (a : Web.Arrival) : Unstarted (a.course .unlimited) := by
  cases hanswer : a.answer with
  | none => exact .inl (by simp [Web.Arrival.course, Web.Arrival.flight, hanswer])
  | some answer => exact .inr ⟨_, flying_flight (by simp [hanswer]), rfl⟩

/-- The way of a fetch is the same whether it fails or not. -/
theorem course_congr {a other : Web.Arrival} (hturns : other.turns = a.turns)
    (hpause : other.pause = a.pause) (hanswer : other.answer.isSome = a.answer.isSome) :
    other.course .unlimited = a.course .unlimited := by
  unfold Web.Arrival.course Web.Arrival.flight
  rw [hturns, hpause]
  cases ha : a.answer <;> cases hother : other.answer <;> simp_all

/-- The ways of the items of a batch. -/
def coursesOf (c : Config) (fetch : String → Web.Arrival) (items : List Item) : List Course :=
  (visitsOf c fetch items).map (·.course)

theorem coursesOf_eq (hitems : Fetchable c items) : coursesOf c fetch items =
    items.map fun i => (fetch i.url).course (.ofSeconds c.defaults.settings.fetchTimeout) := by
  rw [coursesOf, visitsOf, List.map_map]
  exact List.map_congr_left fun i hi => course_of_fetchable hitems hi

/-- Ways for the fetches of items, one for each of them. -/
structure Ways (items : List Item) (courses : List Course) : Prop where
  length : courses.length = items.length
  unstarted : ∀ course ∈ courses, Unstarted course

theorem ways_coursesOf (fetch : String → Web.Arrival) (hitems : Fetchable c items)
    (hlimit : c.defaults.settings.fetchTimeout = none) : Ways items (coursesOf c fetch items) where
  length := by rw [coursesOf, List.length_map, length_visitsOf]
  unstarted := by
    rw [coursesOf_eq hitems, hlimit]
    intro course hcourse
    obtain ⟨i, -, rfl⟩ := List.mem_map.mp hcourse
    exact unstarted_course (fetch i.url)

theorem Ways.follows (hways : Ways items courses) (places : Nat) :
    Progress.Follows places items.length {} (schedule places courses) :=
  hways.length ▸ follows_schedule places hways.unstarted

/-- Where all who come in land, every fetch has started. -/
theorem Ways.started_eq (hways : Ways items courses)
    (hlands : (landings (schedule places courses)).Perm (List.range items.length)) :
    (Progress.after {} (schedule places courses)).started = items.length := by
  have hfollows := hways.follows places
  -- fetches start in order, so it is enough that the last one has started: it has landed
  apply Nat.le_antisymm (Progress.within_after ⟨Nat.zero_le _, Nat.zero_le _⟩ hfollows).started
  by_contra hless
  have hlast := hlands.mem_iff.mpr (List.mem_range.mpr (Nat.lt_of_not_le hless))
  exact Nat.lt_irrefl _ (Progress.landing_lt hfollows hlast)

theorem fetched_land (k : Keeper σ ε) (r : Run σ ε) (n : Nat) (v : Visit) :
    (r.land k n v).batch.fetched = r.batch.fetched ∧ (r.land k n v).batch.peak = r.batch.peak := by
  unfold Run.land
  split
  next => exact ⟨rfl, rfl⟩
  split
  next => exact ⟨rfl, rfl⟩
  next => exact ⟨rfl, rfl⟩
  next result _ =>
    unfold Run.keep
    dsimp only
    split
    next =>
      unfold Run.gain Run.count
      split <;> exact ⟨rfl, rfl⟩
    next => exact ⟨rfl, rfl⟩
    next => exact ⟨rfl, rfl⟩

/-- The addresses of the fetches that have started are those of the first items. -/
theorem fetched_follow (k : Keeper σ ε) (hevents : p.Follows places items.length events)
    (hr : r.batch.fetched = base ++ (items.take p.started).map (·.url)) :
    (events.foldl (Run.follow k (visitsOf c fetch items)) r).batch.fetched =
      base ++ (items.take (p.after events).started).map (·.url) := by
  induction events generalizing p r with
  | nil => exact hr
  | cons e events ih =>
    refine ih hevents.2 ?_
    cases e with
    | started i =>
      obtain ⟨rfl, hless, -⟩ := hevents.1
      have hitem := List.getElem?_eq_getElem hless
      have hvisit : (visitsOf c fetch items)[p.started]? =
          some ⟨items[p.started], c.attempt fetch items[p.started]⟩ := by
        rw [visitsOf, List.getElem?_map, hitem, Option.map_some]
      have hbegin : (r.begin ⟨items[p.started], c.attempt fetch items[p.started]⟩).batch.fetched =
          r.batch.fetched ++ [items[p.started].url] := rfl
      rw [Run.follow, hvisit, Option.map_some, Option.getD_some, hbegin, hr, Progress.take,
        List.take_add_one, hitem, List.map_append, List.append_assoc]
      rfl
    | finished i => exact hr
    | landed i =>
      rw [Run.follow]
      cases (visitsOf c fetch items)[i]? with
      | none => exact hr
      | some v => exact (fetched_land k r i v).1.trans hr

theorem peak_follow (k : Keeper σ ε) (visits : List Visit) (r : Run σ ε) :
    (events.foldl (Run.follow k visits) r).batch.peak = r.batch.peak := by
  induction events generalizing r with
  | nil => rfl
  | cons e events ih =>
    refine (ih (r.follow k visits e)).trans ?_
    cases e with
    | started i => rw [Run.follow]; cases visits[i]? <;> rfl
    | finished i => rfl
    | landed i =>
      rw [Run.follow]
      cases visits[i]? with
      | none => rfl
      | some v => exact (fetched_land k r i v).2

theorem fetched_close (r : Run σ ε) (visits : List Visit) :
    (r.close visits).1.fetched = r.batch.fetched ∧ (r.close visits).1.peak = r.batch.peak := by
  unfold Run.close
  split
  next => exact ⟨rfl, rfl⟩
  next => split <;> exact ⟨rfl, rfl⟩

theorem places_eq (c : Config) : (c.places : Int) = max 1 c.defaults.threads := by
  unfold Config.places
  omega

/-- Where every item lands, every item is fetched. -/
theorem fetched_run (hitems : Fetchable c items) (hlimit : c.defaults.settings.fetchTimeout = none)
    (hall : allLand (visitsOf c fetch items) = true) (k : Keeper σ ε) (b : Batch σ) :
    (b.run k c fetch items).1.fetched = b.fetched ++ items.map (·.url) := by
  by_cases hempty : items = []
  · subst hempty
    exact (List.append_nil _).symm
  have hways := ways_coursesOf fetch hitems hlimit
  have hstarted := hways.started_eq (landings_of_allLand hall)
  rw [run_eq_through hempty, through, (fetched_close _ _).1]
  refine (fetched_follow k (hways.follows c.places) (List.append_nil _).symm).trans ?_
  rw [coursesOf] at hstarted
  rw [coursesOf, hstarted, List.take_length]
  rfl

theorem peak_run (hitems : Fetchable c items) (hlimit : c.defaults.settings.fetchTimeout = none)
    (k : Keeper σ ε) (b : Batch σ) : (b.run k c fetch items).1.peak ≤ max b.peak c.places := by
  by_cases hempty : items = []
  · subst hempty
    exact Nat.le_max_left ..
  have hways := ways_coursesOf fetch hitems hlimit
  have hbusiest := Progress.busiest_le (hways.follows c.places)
  rw [run_eq_through hempty, through, (fetched_close _ _).2, peak_follow]
  exact max_le_max (Nat.le_refl _) hbusiest

/-- Where a batch is after its first events: no more fetches are under way than it allows at a
time, and those that have started are those of the first items, in their order. -/
structure Along (c : Config) (items : List Item) (base : List String) (front : List Event)
    (b : Batch σ) : Prop where
  underway : ((Progress.after {} front).underway.length : Int) ≤ max 1 c.defaults.threads
  started : (Progress.after {} front).started ≤ items.length
  fetched : b.fetched = base ++ (items.take (Progress.after {} front).started).map (·.url)

theorem along_front (hways : Ways items courses) (c : Config) (fetch : String → Web.Arrival)
    (k : Keeper σ ε) (r : Run σ ε) {front : List Event}
    (hfront : front <+: schedule c.places courses) : Along c items r.batch.fetched front
      (front.foldl (Run.follow k (visitsOf c fetch items)) r).batch := by
  obtain ⟨rest, hrest⟩ := hfront
  have hfollows := (Progress.follows_append.mp (hrest ▸ hways.follows c.places)).1
  have hwithin := Progress.within_after ⟨Nat.zero_le _, Nat.zero_le _⟩ hfollows
  refine ⟨?_, hwithin.started, fetched_follow k hfollows (List.append_nil _).symm⟩
  rw [← places_eq]
  exact_mod_cast hwithin.underway

/-- A batch without a time limit fetches its items in their order, each once, however long each
takes and whatever comes of it, also where items have one address. When the run returns, or when no
fetch hangs, all have been fetched. The order of events does not depend on which of them fail. -/
theorem run_in_turn (hitems : Fetchable c items) (hlimit : c.defaults.settings.fetchTimeout = none)
    (fetch : String → Web.Arrival) (k : Keeper σ ε) (b : Batch σ) :
    (∀ courses, Ways items courses →
      (∀ front, front <+: schedule c.places courses →
        Along c items b.fetched front (front.foldl (Run.follow k (visitsOf c fetch items))
          (b.opening items.length (schedule c.places courses))).batch) ∧
      ((∀ course ∈ courses, Move.halt ∉ course) →
        (Progress.after {} (schedule c.places courses)).started = items.length)) ∧
    Ways items (coursesOf c fetch items) ∧
    (items ≠ [] → b.run k c fetch items =
      b.through k c fetch items (schedule c.places (coursesOf c fetch items))) ∧
    (b.run k c fetch items).1.peak ≤ max b.peak c.places ∧
    (∀ results, (b.run k c fetch items).2 = .returned results →
      (b.run k c fetch items).1.fetched = b.fetched ++ items.map (·.url)) ∧
    ((∀ i ∈ items, (fetch i.url).answer ≠ none) →
      (b.run k c fetch items).1.fetched = b.fetched ++ items.map (·.url)) ∧
    ∀ other : String → Web.Arrival,
      (∀ i ∈ items, (other i.url).turns = (fetch i.url).turns ∧
        (other i.url).pause = (fetch i.url).pause ∧
        (other i.url).answer.isSome = (fetch i.url).answer.isSome) →
      schedule c.places (coursesOf c other items) =
        schedule c.places (coursesOf c fetch items) := by
  refine ⟨fun courses hways => ⟨fun _ => ?_, fun hends => ?_⟩,
    ways_coursesOf fetch hitems hlimit, fun hempty => run_eq_through hempty b,
    peak_run hitems hlimit k b, ?_, ?_, ?_⟩
  · exact along_front hways c fetch k (b.opening items.length (schedule c.places courses))
  · exact hways.started_eq (hways.length ▸ landings_schedule (places_pos c) hends)
  · intro results hresults
    by_cases hempty : items = []
    · subst hempty
      exact (List.append_nil _).symm
    · rw [run_eq_through hempty] at hresults
      exact fetched_run hitems hlimit (close_returned hresults).2.1 k b
  · intro hanswers
    have hfeasible := feasible_of_answered hitems.schemas hanswers
    exact fetched_run hitems hlimit (allLand_visitsOf hfeasible) k b
  · intro other hsame
    rw [coursesOf_eq hitems, coursesOf_eq hitems, hlimit]
    exact congrArg (schedule c.places)
      (List.map_congr_left fun i hi =>
        course_congr (hsame i hi).1 (hsame i hi).2.1 (hsame i hi).2.2)

/-- Two at a time, one of three fetches fails. -/
theorem run_in_turn_two :
    let c : Config := {
      defaults := { threads := 2, settings := { fetchTimeout := none } }
      schemas := [("s", [("at", .source "url")])] }
    let fetch : String → Web.Arrival := fun url =>
      if url = "a" then { answer := some (.error ⟨.missing, "gone"⟩), turns := 2 }
      else { answer := some (.ok "<p>"), turns := 3 }
    let k : Keeper Unit Empty := { save := fun _ url _ => ((), [], .kept url) }
    let last := (({ place := () } : Batch Unit).run k c fetch
      [⟨"a", "s", false⟩, ⟨"b", "s", false⟩, ⟨"c", "s", false⟩]).1
    last.peak ≤ 2 ∧ last.fetched = ["a", "b", "c"] := by
  intro c fetch k last
  have hitems : Fetchable c [⟨"a", "s", false⟩, ⟨"b", "s", false⟩, ⟨"c", "s", false⟩] :=
    ⟨by decide, by decide⟩
  obtain ⟨-, -, -, hpeak, -, hall, -⟩ := run_in_turn hitems rfl fetch k { place := () }
  exact ⟨hpeak, hall (by decide)⟩

end Run

end Gleaner.Batch
