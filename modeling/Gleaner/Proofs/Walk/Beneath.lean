import Gleaner.Proofs.Route
import Gleaner.Proofs.Walk.Visit

/-! Visits beneath a trail. Where names are distinct, those beneath a field or an item are the
visits of its own walk, with the trail put before theirs. -/

namespace Gleaner

namespace Trail

variable {a b name : String} {step : Step} {t u : Trail} {i : Nat}

theorem onto_ne_empty (hb : b ≠ "") : step.onto b ≠ "" := by
  cases step <;> simp [Step.onto, Route.field, Route.item, hb]

theorem onto_append (hb : b ≠ "") : step.onto (a ++ b) = a ++ step.onto b := by
  cases step <;> simp [Step.onto, Route.field, Route.item, hb, String.append_assoc]

theorem foldl_onto_append (hb : b ≠ "") (u : Trail) :
    u.foldl Step.onto (a ++ b) = a ++ u.foldl Step.onto b :=
  Route.foldl_append (f := Step.onto) (fun _ _ => onto_ne_empty) (fun _ _ _ => onto_append) hb u

/-- Below a trail that is written, a trail is written after a point. An empty name would leave no
trace at the root, and one between two points below it. -/
theorem route_append_field (ht : t.route ≠ "") (hname : name ≠ "") (u : Trail) :
    route (t ++ .field name :: u) = t.route ++ "." ++ route (.field name :: u) := by
  have hstart : Step.onto t.route (.field name) = (t.route ++ ".") ++ name := by
    simp [Step.onto, Route.field, ht]
  have hroot : Step.onto "" (.field name) = name := by
    simp [Step.onto, Route.field]
  have hname' : route (.field name :: u) = u.foldl Step.onto name := by
    rw [route, List.foldl_cons, hroot]
  rw [route_append, List.foldl_cons, hstart, foldl_onto_append hname, hname']

theorem route_field_ne_empty (hname : name ≠ "") : route (t ++ [.field name]) ≠ "" := by
  rw [route_field, Route.field]
  split
  · exact hname
  · simp [hname]

theorem route_item_ne_empty : route (t ++ [.item i]) ≠ "" := by
  simp [Route.item]

end Trail

namespace Visit

/-- The visit with a trail before its own. -/
def below (t : Trail) (v : Visit) : Visit := { v with trail := t ++ v.trail }

def isBeneath (t : Trail) (v : Visit) : Bool :=
  t.isPrefixOf v.trail && t.length < v.trail.length

variable {t u : Trail} {v : Visit}

theorem isBeneath_iff : v.isBeneath t ↔ ∃ step u, v.trail = t ++ step :: u := by
  simp only [isBeneath, Bool.and_eq_true, List.isPrefixOf_iff_prefix, decide_eq_true_eq]
  constructor
  · rintro ⟨⟨w, hw⟩, hlt⟩
    cases w with
    | nil => simp [← hw] at hlt
    | cons step u => exact ⟨step, u, hw.symm⟩
  · rintro ⟨step, u, h⟩
    rw [h]
    exact ⟨List.prefix_append _ _, by simp⟩

theorem isBeneath_of_append (h : v.isBeneath (t ++ u)) : v.isBeneath t := by
  obtain ⟨step, w, hw⟩ := isBeneath_iff.mp h
  rw [isBeneath_iff, hw]
  cases u with
  | nil => exact ⟨step, w, by simp⟩
  | cons first u => exact ⟨first, u ++ step :: w, by simp⟩

/-- What is beneath the continuation of a trail is beneath the trail. -/
theorem filter_isBeneath_append (vs : List Visit) (t u : Trail) :
    vs.filter (·.isBeneath (t ++ u)) =
      (vs.filter (·.isBeneath t)).filter (·.isBeneath (t ++ u)) := by
  rw [List.filter_filter]
  congr 1
  funext v
  cases h : v.isBeneath (t ++ u) with
  | false => rfl
  | true => simp [isBeneath_of_append h]

theorem isBeneath_step {step other : Trail.Step} {u : Trail} (hv : v.trail = t ++ other :: u)
    (h : v.isBeneath (t ++ [step])) : other = step := by
  obtain ⟨_, w, hw⟩ := isBeneath_iff.mp h
  rw [hv, List.append_assoc, List.append_cancel_left_eq] at hw
  exact (List.cons.inj hw).1

end Visit

namespace Schema

mutual

/-- No name of a field is empty, and no two fields of a record have one name. -/
def WellNamed : List (String × Node) → Prop
  | [] => True
  | (name, node) :: rest =>
    name ≠ "" ∧ name ∉ rest.map (·.1) ∧ node.WellNamed ∧ WellNamed rest

def Node.WellNamed : Node → Prop
  | .source _ => True
  | .primitive _ => True
  | .array _ item => Schema.WellNamed item
  | .nested fields => Schema.WellNamed fields

end

theorem WellNamed.of_mem {fields : List (String × Node)} {name : String} {node : Node}
    (h : WellNamed fields) (hmem : (name, node) ∈ fields) : name ≠ "" ∧ node.WellNamed := by
  induction fields with
  | nil => cases hmem
  | cons field rest ih =>
    obtain ⟨hname, _, hnode, hrest⟩ := h
    rcases List.mem_cons.mp hmem with rfl | hmem
    · exact ⟨hname, hnode⟩
    · exact ih hrest hmem

mutual

theorem visits_append (s : Settings) (d : Document) (t u : Trail)
    (fields : List (String × Node)) :
    visits s d (t ++ u) fields = (visits s d u fields).map (Visit.below t) := by
  cases fields with
  | nil => rfl
  | cons field rest =>
    obtain ⟨name, node⟩ := field
    have hnode := visitsIn_append s d t (u ++ [.field name]) node
    have hrest := visits_append s d t u rest
    simp only [visits, List.append_assoc, hnode, hrest, List.map_append, List.map_cons]
    rfl

theorem visitsIn_append (s : Settings) (d : Document) (t u : Trail) (node : Node) :
    visitsIn s d (t ++ u) node = (visitsIn s d u node).map (Visit.below t) := by
  cases node with
  | source name => rfl
  | primitive p => rfl
  | nested fields => exact visits_append s d t u fields
  | array selector item =>
    have hitem := fun page i => visits_append s page t (u ++ [.item i]) item
    simp only [visitsIn, List.append_assoc, hitem, List.map_flatMap]

end

mutual

theorem trail_of_mem_visits {s : Settings} {d : Document} {t : Trail}
    {fields : List (String × Node)} {v : Visit} (h : v ∈ visits s d t fields) :
    ∃ name ∈ fields.map (·.1), ∃ u, v.trail = t ++ .field name :: u := by
  cases fields with
  | nil => cases h
  | cons field rest =>
    obtain ⟨name, node⟩ := field
    rcases List.mem_append.mp h with h | h
    · obtain ⟨step, u, hu⟩ := trail_of_mem_visitsIn h
      exact ⟨name, by simp, step :: u, by simp [hu]⟩
    · rcases List.mem_cons.mp h with rfl | h
      · exact ⟨name, by simp, [], rfl⟩
      · obtain ⟨other, hother, u, hu⟩ := trail_of_mem_visits h
        exact ⟨other, List.mem_cons_of_mem _ hother, u, hu⟩

theorem trail_of_mem_visitsIn {s : Settings} {d : Document} {t : Trail} {node : Node} {v : Visit}
    (h : v ∈ visitsIn s d t node) : ∃ step u, v.trail = t ++ step :: u := by
  cases node with
  | source name => cases h
  | primitive p => cases h
  | nested fields =>
    have hv : v ∈ visits s d t fields := h
    obtain ⟨name, _, u, hu⟩ := trail_of_mem_visits hv
    exact ⟨_, u, hu⟩
  | array selector item =>
    obtain ⟨page, _, hv⟩ := List.mem_flatMap.mp h
    obtain ⟨name, _, u, hu⟩ := trail_of_mem_visits hv
    exact ⟨.item page.2, .field name :: u, by simp [hu]⟩

end

section Beneath

variable {s : Settings} {d : Document} {t : Trail} {name : String} {node : Node}
  {fields item : List (String × Node)}

theorem filter_visitsIn_self (node : Node) :
    (visitsIn s d t node).filter (·.isBeneath t) = visitsIn s d t node := by
  rw [List.filter_eq_self]
  intro v hv
  exact Visit.isBeneath_iff.mpr (trail_of_mem_visitsIn hv)

theorem filter_visitsIn_other {step other : Trail.Step} (hne : other ≠ step) (node : Node) :
    (visitsIn s d (t ++ [other]) node).filter (·.isBeneath (t ++ [step])) = [] := by
  rw [List.filter_eq_nil_iff]
  intro v hv hb
  obtain ⟨first, u, hu⟩ := trail_of_mem_visitsIn hv
  exact hne (Visit.isBeneath_step (by simpa using hu) hb)

theorem filter_visits_other (hname : name ∉ fields.map (·.1)) :
    (visits s d t fields).filter (·.isBeneath (t ++ [.field name])) = [] := by
  rw [List.filter_eq_nil_iff]
  intro v hv hb
  obtain ⟨other, hother, u, hu⟩ := trail_of_mem_visits hv
  cases Visit.isBeneath_step hu hb
  exact hname hother

/-- The visits beneath a field are those of its node. -/
theorem filter_visits_field (h : WellNamed fields) (hmem : (name, node) ∈ fields) :
    (visits s d t fields).filter (·.isBeneath (t ++ [.field name])) =
      visitsIn s d (t ++ [.field name]) node := by
  induction fields with
  | nil => cases hmem
  | cons field rest ih =>
    obtain ⟨other, first⟩ := field
    obtain ⟨_, hother, _, hrest⟩ := h
    have hself : ∀ o, (⟨t ++ [.field other], first, o⟩ : Visit).isBeneath (t ++ [.field name]) =
        false := by
      intro o
      simp [Visit.isBeneath]
    rw [visits, List.filter_append, List.filter_cons, hself]
    rcases List.mem_cons.mp hmem with heq | hmem
    · cases heq
      rw [filter_visitsIn_self, filter_visits_other hother]
      simp
    · have hne : other ≠ name := by
        rintro rfl
        exact hother (List.mem_map_of_mem hmem)
      rw [filter_visitsIn_other (by simpa using hne), ih hrest hmem]
      simp

theorem filter_items_later {k m : Nat} (hkm : k < m) (pages : List Document) :
    ((pages.zipIdx m).flatMap fun page => visits s page.1 (t ++ [.item page.2]) item).filter
      (·.isBeneath (t ++ [.item k])) = [] := by
  rw [List.filter_eq_nil_iff]
  intro v hv hb
  obtain ⟨page, hpage, hv⟩ := List.mem_flatMap.mp hv
  obtain ⟨name, _, u, hu⟩ := trail_of_mem_visits hv
  have hstep := Visit.isBeneath_step (t := t) (u := .field name :: u) (by simpa using hu) hb
  have hle := List.le_snd_of_mem_zipIdx hpage
  cases hstep
  omega

theorem filter_items (item : List (String × Node)) {pages : List Document} {page : Document}
    {i : Nat} (h : pages[i]? = some page) (k : Nat) :
    ((pages.zipIdx k).flatMap fun page => visits s page.1 (t ++ [.item page.2]) item).filter
        (·.isBeneath (t ++ [.item (k + i)])) =
      visits s page (t ++ [.item (k + i)]) item := by
  have hown : ∀ page k, (visits s page (t ++ [.item k]) item).filter
      (·.isBeneath (t ++ [.item k])) = visits s page (t ++ [.item k]) item :=
    fun page k => filter_visitsIn_self (.nested item)
  induction pages generalizing i k with
  | nil => cases h
  | cons first rest ih =>
    rw [List.zipIdx_cons, List.flatMap_cons, List.filter_append]
    cases i with
    | zero =>
      cases h
      rw [Nat.add_zero, hown, filter_items_later (Nat.lt_succ_self k), List.append_nil]
    | succ i =>
      have hne : Trail.Step.item k ≠ .item (k + (i + 1)) := by
        simp
      have hfirst := filter_visitsIn_other (s := s) (d := first) (t := t) hne (.nested item)
      rw [visitsIn] at hfirst
      rw [hfirst, List.nil_append, show k + (i + 1) = k + 1 + i by omega]
      exact ih h (k + 1)

/-- The visits beneath an item are those of the walk of its page. -/
theorem filter_visitsIn_item (item : List (String × Node)) {selector : String} {page : Document}
    {i : Nat} (h : (itemPages s d selector).1[i]? = some page) :
    (visitsIn s d t (.array selector item)).filter (·.isBeneath (t ++ [.item i])) =
      visits s page (t ++ [.item i]) item := by
  have hitems := filter_items (s := s) (t := t) item h 0
  rwa [Nat.zero_add] at hitems

end Beneath

end Schema

end Gleaner
