import Gleaner.Proofs.Walk.Beneath
import Gleaner.Proofs.Walk.Distinct

/-! Routes tell fields apart. Where no name is empty or has a joint in it, a route can be cut into
its steps in one way only, so that it says which field it leads to and in which items. -/

namespace Gleaner

namespace Trail

variable {a b x y : List Char} {root name : String} {step other : Step} {t u : Trail}

/-- The characters that routes have between names. -/
def joints : List Char := ['.', '[', ']']

/-- A name that shows where it starts and where it ends. -/
structure IsPlain (name : String) : Prop where
  not_empty : name ≠ ""
  jointless : ∀ c ∈ joints, c ∉ name.toList

def Step.Plain : Step → Prop
  | field name => IsPlain name
  | item _ => True

/-- A step as it is written after others. -/
def Step.written : Step → List Char
  | field name => '.' :: name.toList
  | item i => '[' :: ((toString i).toList ++ [']'])

theorem toList_onto (hroot : root ≠ "") :
    (step.onto root).toList = root.toList ++ step.written := by
  cases step with
  | field name => simp [Step.onto, Route.field, hroot, Step.written]
  | item i => simp [Step.onto, Route.item, Step.written]

theorem toList_foldl_onto (hroot : root ≠ "") (t : Trail) :
    (t.foldl Step.onto root).toList = root.toList ++ t.flatMap Step.written := by
  induction t generalizing root with
  | nil => simp
  | cons step t ih =>
    rw [List.foldl_cons, ih (onto_ne_empty hroot), toList_onto hroot, List.flatMap_cons,
      List.append_assoc]

/-- A route is its steps as they are written, without the point at its start. -/
theorem toList_route (hname : name ≠ "") (t : Trail) :
    '.' :: (route (.field name :: t)).toList = (Step.field name :: t).flatMap Step.written := by
  have hstart : Step.onto "" (.field name) = name := by simp [Step.onto, Route.field]
  rw [route, List.foldl_cons, hstart, toList_foldl_onto hname, List.flatMap_cons]
  rfl

/-- A text without joints before one that starts with a joint shows where it ends. -/
theorem append_inj_of_joints (ha : ∀ c ∈ joints, c ∉ a) (hb : ∀ c ∈ joints, c ∉ b)
    (hx : ∀ c ∈ x.head?, c ∈ joints) (hy : ∀ c ∈ y.head?, c ∈ joints) (h : a ++ x = b ++ y) :
    a = b ∧ x = y := by
  induction a generalizing b with
  | nil =>
    cases b with
    | nil => exact ⟨rfl, h⟩
    | cons c b =>
      have hc : c ∈ joints := hx c (by rw [← List.nil_append x, h]; rfl)
      exact absurd List.mem_cons_self (hb c hc)
  | cons c a ih =>
    cases b with
    | nil =>
      have hc : c ∈ joints := hy c (by rw [← List.nil_append y, ← h]; rfl)
      exact absurd List.mem_cons_self (ha c hc)
    | cons d b =>
      obtain ⟨rfl, hrest⟩ := List.cons.inj h
      have ha' : ∀ c ∈ joints, c ∉ a := fun c hc hmem => ha c hc (List.mem_cons_of_mem _ hmem)
      have hb' : ∀ c ∈ joints, c ∉ b := fun c hc hmem => hb c hc (List.mem_cons_of_mem _ hmem)
      obtain ⟨rfl, rfl⟩ := ih ha' hb' hrest
      exact ⟨rfl, rfl⟩

theorem notMem_index (i : Nat) : ∀ c ∈ joints, c ∉ (toString i).toList := by
  intro c hc hmem
  rw [Nat.toString_eq_ofList_toDigits, String.toList_ofList] at hmem
  have hdigit := Nat.isDigit_of_mem_toDigits (by decide) (by decide) hmem
  simp only [joints, List.mem_cons, List.not_mem_nil, or_false] at hc
  rcases hc with rfl | rfl | rfl <;> cases hdigit

theorem index_injective {i j : Nat} (h : (toString i).toList = (toString j).toList) : i = j := by
  rw [Nat.toString_eq_ofList_toDigits, Nat.toString_eq_ofList_toDigits, String.toList_ofList,
    String.toList_ofList] at h
  rw [← Nat.ofDigitChars_ten_toDigits (n := i), h, Nat.ofDigitChars_ten_toDigits]

/-- The first of the steps that are written can be told from the others. -/
theorem written_append_inj (hstep : step.Plain) (hother : other.Plain)
    (hx : ∀ c ∈ x.head?, c ∈ joints) (hy : ∀ c ∈ y.head?, c ∈ joints)
    (h : step.written ++ x = other.written ++ y) : step = other ∧ x = y := by
  cases step with
  | field name =>
    cases other with
    | field name' =>
      obtain ⟨hname, hrest⟩ :=
        append_inj_of_joints hstep.jointless hother.jointless hx hy (List.cons.inj h).2
      exact ⟨congrArg Step.field (String.toList_inj.mp hname), hrest⟩
    | item j => exact absurd (List.cons.inj h).1 (by decide)
  | item i =>
    cases other with
    | field name' => exact absurd (List.cons.inj h).1 (by decide)
    | item j =>
      have hinner : (toString i).toList ++ (']' :: x) = (toString j).toList ++ (']' :: y) := by
        simpa [Step.written] using h
      have hclose : ∀ z : List Char, ∀ c ∈ (']' :: z).head?, c ∈ joints := by
        simp [joints]
      obtain ⟨hindex, hrest⟩ :=
        append_inj_of_joints (notMem_index i) (notMem_index j) (hclose x) (hclose y) hinner
      exact ⟨congrArg Step.item (index_injective hindex), (List.cons.inj hrest).2⟩

theorem head?_written (t : Trail) : ∀ c ∈ (t.flatMap Step.written).head?, c ∈ joints := by
  cases t with
  | nil => simp
  | cons step t => cases step <;> simp [Step.written, joints]

theorem written_injective (ht : ∀ step ∈ t, step.Plain) (hu : ∀ step ∈ u, step.Plain)
    (h : t.flatMap Step.written = u.flatMap Step.written) : t = u := by
  have hne : ∀ (step : Step) rest, [] ≠ step.written ++ rest := by
    intro step rest
    cases step <;> simp [Step.written]
  induction t generalizing u with
  | nil =>
    cases u with
    | nil => rfl
    | cons other u => exact absurd h (hne other _)
  | cons step t ih =>
    cases u with
    | nil => exact absurd h.symm (hne step _)
    | cons other u =>
      obtain ⟨hstep, hsteps⟩ := List.forall_mem_cons.mp ht
      obtain ⟨hother, hothers⟩ := List.forall_mem_cons.mp hu
      obtain ⟨rfl, hrest⟩ := written_append_inj hstep hother (head?_written t) (head?_written u) h
      rw [ih hsteps hothers hrest]

/-- Trails to fields that are written alike are the same. -/
theorem route_injective {first second : String} (ht : ∀ step ∈ Step.field first :: t, step.Plain)
    (hu : ∀ step ∈ Step.field second :: u, step.Plain)
    (h : route (.field first :: t) = route (.field second :: u)) :
    Step.field first :: t = Step.field second :: u := by
  have hfirst : IsPlain first := ht _ List.mem_cons_self
  have hsecond : IsPlain second := hu _ List.mem_cons_self
  refine written_injective ht hu ?_
  rw [← toList_route hfirst.not_empty, ← toList_route hsecond.not_empty, h]

end Trail

namespace Schema

mutual

/-- The names of the fields in a schema, at every depth. -/
def namesIn : List (String × Node) → List String
  | [] => []
  | (name, node) :: rest => name :: (node.namesIn ++ namesIn rest)

def Node.namesIn : Node → List String
  | .source _ => []
  | .primitive _ => []
  | .array _ item => Schema.namesIn item
  | .nested fields => Schema.namesIn fields

end

/-- The node that a trail leads to from a node, in whichever items. -/
def Node.at? : Node → Trail → Option Node
  | node, [] => some node
  | .nested fields, .field name :: t => (fields.lookup name).bind (·.at? t)
  | .array _ item, .item _ :: .field name :: t => (item.lookup name).bind (·.at? t)
  | _, _ :: _ => none

variable {s : Settings} {d : Document} {t u : Trail} {v w : Visit} {name : String} {node : Node}
  {fields item : List (String × Node)}

section Fields

theorem namesIn_of_lookup (h : fields.lookup name = some node) :
    name ∈ namesIn fields ∧ ∀ other ∈ node.namesIn, other ∈ namesIn fields := by
  induction fields with
  | nil => cases h
  | cons field rest ih =>
    obtain ⟨first, node'⟩ := field
    rw [namesIn]
    by_cases hname : name = first
    · subst hname
      rw [List.lookup_cons_self] at h
      cases h
      exact ⟨List.mem_cons_self, fun other hother =>
        List.mem_cons_of_mem _ (List.mem_append_left _ hother)⟩
    · rw [List.lookup_cons, beq_false_of_ne hname] at h
      obtain ⟨hmem, hinner⟩ := ih h
      exact ⟨List.mem_cons_of_mem _ (List.mem_append_right _ hmem), fun other hother =>
        List.mem_cons_of_mem _ (List.mem_append_right _ (hinner other hother))⟩

theorem plain_field {leaf : Node} (hnames : ∀ name ∈ namesIn fields, Trail.IsPlain name)
    (hbelow : ∀ node : Node, (∀ name ∈ node.namesIn, Trail.IsPlain name) → node.at? t = some leaf →
      ∀ step ∈ t, step.Plain)
    (h : (fields.lookup name).bind (·.at? t) = some leaf) :
    ∀ step ∈ Trail.Step.field name :: t, step.Plain := by
  obtain ⟨node, hlookup, hleaf⟩ := Option.bind_eq_some_iff.mp h
  obtain ⟨hname, hinner⟩ := namesIn_of_lookup hlookup
  have hrest := hbelow node (fun other hother => hnames other (hinner other hother)) hleaf
  exact List.forall_mem_cons.mpr ⟨hnames name hname, hrest⟩

/-- A trail that leads to a node goes through names of the schema. -/
theorem plain_of_at? {leaf : Node} (hnames : ∀ name ∈ node.namesIn, Trail.IsPlain name)
    (h : node.at? t = some leaf) : ∀ step ∈ t, step.Plain := by
  fun_induction Node.at? node t with
  | case1 node => exact nofun
  | case2 fields name t ih => exact plain_field hnames ih h
  | case3 selector item i name t ih =>
    exact List.forall_mem_cons.mpr ⟨trivial, plain_field hnames ih h⟩
  | case4 => cases h

end Fields

section Visits

mutual

/-- A visit is to the node that its trail leads to. -/
theorem at?_of_mem_visits {fields : List (String × Node)} (h : Distinct fields) {s : Settings}
    {d : Document} {t : Trail} {v : Visit} (hv : v ∈ visits s d t fields) :
    ∃ u, v.trail = t ++ u ∧ (Node.nested fields).at? u = some v.node := by
  cases fields with
  | nil => cases hv
  | cons field rest =>
    obtain ⟨name, node⟩ := field
    obtain ⟨hname, hnode, hrest⟩ := h
    have hfirst : ∀ u,
        (Node.nested ((name, node) :: rest)).at? (.field name :: u) = node.at? u := by
      intro u
      rw [Node.at?, List.lookup_cons_self]
      rfl
    rcases List.mem_append.mp hv with hv | hv
    · obtain ⟨u, htrail, hu⟩ := at?_of_mem_visitsIn hnode hv
      exact ⟨.field name :: u, by simp [htrail], by rw [hfirst, hu]⟩
    rcases List.mem_cons.mp hv with rfl | hv
    · exact ⟨[.field name], rfl, by rw [hfirst, Node.at?]⟩
    · obtain ⟨u, htrail, hu⟩ := at?_of_mem_visits hrest hv
      obtain ⟨other, hother, w, hw⟩ := trail_of_mem_visits hv
      rw [htrail, List.append_cancel_left_eq] at hw
      subst hw
      have hne : other ≠ name := fun heq => hname (heq ▸ hother)
      refine ⟨.field other :: w, htrail, ?_⟩
      rw [Node.at?, List.lookup_cons, beq_false_of_ne hne, ← hu, Node.at?]

theorem at?_of_mem_visitsIn {node : Node} (h : node.Distinct) {s : Settings} {d : Document}
    {t : Trail} {v : Visit} (hv : v ∈ visitsIn s d t node) :
    ∃ u, v.trail = t ++ u ∧ node.at? u = some v.node := by
  cases node with
  | source name => cases hv
  | primitive p => cases hv
  | nested fields => exact at?_of_mem_visits h hv
  | array selector item =>
    obtain ⟨page, -, hv⟩ := List.mem_flatMap.mp hv
    obtain ⟨u, htrail, hu⟩ := at?_of_mem_visits h hv
    obtain ⟨name, -, w, hw⟩ := trail_of_mem_visits hv
    rw [htrail, List.append_cancel_left_eq] at hw
    subst hw
    refine ⟨.item page.2 :: .field name :: w, by simp [htrail], ?_⟩
    rw [← hu, Node.at?, Node.at?]

end

mutual

/-- No two visits are to the same place. -/
theorem nodup_visits {fields : List (String × Node)} (h : Distinct fields) (s : Settings)
    (d : Document) (t : Trail) : ((visits s d t fields).map (·.trail)).Nodup := by
  cases fields with
  | nil => exact List.nodup_nil
  | cons field rest =>
    obtain ⟨name, node⟩ := field
    obtain ⟨hname, hnode, hrest⟩ := h
    have hinner : ∀ a ∈ (visitsIn s d (t ++ [.field name]) node).map (·.trail),
        ∃ step u, a = t ++ .field name :: step :: u := by
      rw [List.forall_mem_map]
      intro v hv
      obtain ⟨step, u, hu⟩ := trail_of_mem_visitsIn hv
      exact ⟨step, u, by simp [hu]⟩
    have hothers : ∀ a ∈ (visits s d t rest).map (·.trail),
        ∃ other u, other ≠ name ∧ a = t ++ .field other :: u := by
      rw [List.forall_mem_map]
      intro v hv
      obtain ⟨other, hother, u, hu⟩ := trail_of_mem_visits hv
      exact ⟨other, u, fun heq => hname (heq ▸ hother), hu⟩
    rw [visits, List.map_append, List.map_cons, List.nodup_append, List.nodup_cons]
    refine ⟨nodup_visitsIn hnode s d _, ⟨fun hmem => ?_, nodup_visits hrest s d t⟩, ?_⟩
    · obtain ⟨other, u, hne, heq⟩ := hothers _ hmem
      rw [List.append_cancel_left_eq] at heq
      exact hne (Trail.Step.field.inj (List.cons.inj heq).1).symm
    · rintro a ha b hb rfl
      obtain ⟨step, u, rfl⟩ := hinner a ha
      rcases List.mem_cons.mp hb with heq | hmem
      · rw [List.append_cancel_left_eq] at heq
        cases (List.cons.inj heq).2
      · obtain ⟨other, w, hne, heq⟩ := hothers _ hmem
        rw [List.append_cancel_left_eq] at heq
        exact hne (Trail.Step.field.inj (List.cons.inj heq).1).symm

theorem nodup_visitsIn {node : Node} (h : node.Distinct) (s : Settings) (d : Document)
    (t : Trail) : ((visitsIn s d t node).map (·.trail)).Nodup := by
  cases node with
  | source name => exact List.nodup_nil
  | primitive p => exact List.nodup_nil
  | nested fields => exact nodup_visits h s d t
  | array selector item =>
    have hindices : (itemPages s d selector).1.zipIdx.Pairwise fun p q => p.2 ≠ q.2 := by
      rw [← List.pairwise_map (f := Prod.snd), List.zipIdx_map_snd]
      exact List.nodup_range'
    rw [visitsIn, List.map_flatMap, List.nodup_flatMap]
    refine ⟨fun page _ => nodup_visits h s page.1 _, hindices.imp fun {p q} hne => ?_⟩
    intro a ha hb
    obtain ⟨v, hv, rfl⟩ := List.mem_map.mp ha
    obtain ⟨w, hw, heq⟩ := List.mem_map.mp hb
    obtain ⟨_, -, _, hv⟩ := trail_of_mem_visits hv
    obtain ⟨_, -, _, hw⟩ := trail_of_mem_visits hw
    rw [hv, hw, List.append_assoc, List.append_assoc, List.append_cancel_left_eq] at heq
    exact hne (Trail.Step.item.inj (List.cons.inj heq).1).symm

end

end Visits

section Routes

variable {schema : Schema} {markup : String} {url : Option String} {q : Settings} {e : Document}

theorem trail_of_visit (h : Distinct schema) (hnames : ∀ name ∈ namesIn schema, Trail.IsPlain name)
    (hv : v ∈ visits s d [] schema) : (Node.nested schema).at? v.trail = some v.node ∧
      ∃ name t, v.trail = .field name :: t ∧ ∀ step ∈ Trail.Step.field name :: t, step.Plain := by
  obtain ⟨u, hu, hnode⟩ := at?_of_mem_visits h hv
  obtain ⟨name, -, t, ht⟩ := trail_of_mem_visits hv
  rw [List.nil_append] at hu ht
  rw [← hu] at hnode
  have hbelow : ∀ name ∈ (Node.nested schema).namesIn, Trail.IsPlain name := hnames
  have hplain := plain_of_at? hbelow hnode
  rw [ht] at hplain
  exact ⟨hnode, name, t, ht, hplain⟩

/-- Visits that are written alike are to the same field of the schema, in the same items, whatever
the pages are. -/
theorem visit_of_route (h : Distinct schema) (hnames : ∀ name ∈ namesIn schema, Trail.IsPlain name)
    (hv : v ∈ visits s d [] schema) (hw : w ∈ visits q e [] schema)
    (hroute : v.trail.route = w.trail.route) : v.trail = w.trail ∧ v.node = w.node := by
  obtain ⟨hvnode, first, t, ht, hplain⟩ := trail_of_visit h hnames hv
  obtain ⟨hwnode, second, u, hu, hplain'⟩ := trail_of_visit h hnames hw
  have htrail : v.trail = w.trail := by
    rw [ht, hu] at hroute ⊢
    exact Trail.route_injective hplain hplain' hroute
  rw [htrail, hwnode] at hvnode
  exact ⟨htrail, (Option.some.inj hvnode).symm⟩

theorem nodup_routes (h : Distinct schema) (hnames : ∀ name ∈ namesIn schema, Trail.IsPlain name)
    (s : Settings) (d : Document) :
    ((visits s d [] schema).map fun v => v.trail.route).Nodup := by
  have htrails := nodup_visits h s d []
  have hroutes : ∀ t ∈ (visits s d [] schema).map (·.trail),
      ∀ u ∈ (visits s d [] schema).map (·.trail), t.route = u.route → t = u := by
    simp only [List.forall_mem_map]
    intro v hv w hw hroute
    exact (visit_of_route h hnames hv hw hroute).1
  have hmap := htrails.map_on hroutes
  rwa [List.map_map] at hmap

theorem routes_sublist (vs : List Visit) :
    ((Visit.warnings vs).map (·.route)).Sublist (vs.map fun v => v.trail.route) := by
  induction vs with
  | nil => exact List.Sublist.slnil
  | cons v vs ih =>
    rw [Visit.warnings_cons, List.map_append, List.map_cons]
    cases hv : v.outcome with
    | ok value => simpa [Visit.warning?, hv] using ih.cons _
    | error m => simpa [Visit.warning?, hv] using ih

/-- No two visits of a scrape have one route, so no two warnings have, and a route says which field
of the schema it leads to, and in which items. -/
theorem scrape_unambiguous (h : Distinct schema)
    (hnames : ∀ name ∈ namesIn schema, Trail.IsPlain name)
    (hd : Document.ofMarkup markup url s.parser .asWritten = .ok d) :
    ∃ r, schema.scrape s markup url = .ok r ∧ r.warnings = Visit.warnings (visits s d [] schema) ∧
      (r.warnings.map (·.route)).Nodup ∧
      ((visits s d [] schema).map fun v => v.trail.route).Nodup ∧
      ∀ q e, ∀ v ∈ visits s d [] schema, ∀ w ∈ visits q e [] schema,
        v.trail.route = w.trail.route → v.trail = w.trail ∧ v.node = w.node := by
  have hroutes := nodup_routes h hnames s d
  refine ⟨_, scrape_eq hd schema, rfl, hroutes.sublist (routes_sublist _), hroutes, ?_⟩
  intro q e v hv w hw hroute
  exact visit_of_route h hnames hv hw hroute

/-- Lists in a record, with fields that cannot be read. -/
def broken : Schema := [("diet", .nested [("foods", .array "li" [
  ("kind", .primitive ⟨"b", .absent, some (.source "("), .string⟩)])])]

theorem scrape_unambiguous_items : Distinct broken ∧
    (∀ name ∈ namesIn broken, Trail.IsPlain name) ∧
    ∃ d r, Document.ofMarkup "<li></li><li></li>" none "html.parser" .asWritten = .ok d ∧
      broken.scrape {} "<li></li><li></li>" none = .ok r ∧
      r.warnings.map (·.route) = ["diet.foods[0].kind", "diet.foods[1].kind"] ∧
      (r.warnings.map (·.route)).Nodup ∧
      ∀ q e, ∀ v ∈ visits {} d [] broken, ∀ w ∈ visits q e [] broken,
        v.trail.route = w.trail.route → v.trail = w.trail ∧ v.node = w.node := by
  have h : Distinct broken := by simp [broken, Distinct, Node.Distinct]
  have hnames : ∀ name ∈ namesIn broken, Trail.IsPlain name := by
    have hall : ∀ name ∈ namesIn broken,
        name ≠ "" ∧ (Trail.joints.all fun c => !name.toList.contains c) = true := by decide
    intro name hname
    obtain ⟨hne, hjoints⟩ := hall name hname
    exact ⟨hne, by simpa using hjoints⟩
  have hd : Document.ofMarkup "<li></li><li></li>" none "html.parser" .asWritten =
      .ok ⟨[.element "li" [] [], .element "li" [] []], none, "html.parser"⟩ := by cbv
  have hroutes : (broken.scrape {} "<li></li><li></li>" none).toOption.map
      (fun r => r.warnings.map (·.route)) =
        some ["diet.foods[0].kind", "diet.foods[1].kind"] := by decide +kernel
  obtain ⟨r, hr, -, hnodup, -, hsame⟩ := scrape_unambiguous (s := {}) h hnames hd
  rw [hr] at hroutes
  exact ⟨h, hnames, _, r, hd, hr, Option.some.inj hroutes, hnodup, hsame⟩

end Routes

end Schema

end Gleaner
