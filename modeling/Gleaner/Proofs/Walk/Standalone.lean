import Gleaner.Proofs.Walk.Account
import Gleaner.Proofs.Walk.Beneath

/-! Parts of a result as scrapes of their own: an item of a list is what its element yields by
itself, and a nested record is what its schema yields alone on the same page. -/

namespace Gleaner

/-- The part of a value at the end of a trail. -/
def Datum.at? : Datum → Trail → Option Datum
  | v, [] => some v
  | .record fields, .field name :: t => (fields.lookup name).bind (·.at? t)
  | .items vs, .item i :: t => vs[i]?.bind (·.at? t)
  | _, _ :: _ => none

namespace Datum

theorem at?_text (x : String) (step : Trail.Step) (t : Trail) :
    (text x).at? (step :: t) = none := by
  cases step <;> rfl

theorem at?_number (x : Float) (step : Trail.Step) (t : Trail) :
    (number x).at? (step :: t) = none := by
  cases step <;> rfl

theorem at?_truth (b : Bool) (step : Trail.Step) (t : Trail) :
    (truth b).at? (step :: t) = none := by
  cases step <;> rfl

/-- No trail goes on from a value of a type. -/
theorem HasType.at?_cons {type : Field.FieldType} {v : Datum} (h : v.HasType type)
    (step : Trail.Step) (t : Trail) : v.at? (step :: t) = none := by
  cases type with
  | number =>
    obtain ⟨x, rfl⟩ := h
    exact at?_number x step t
  | boolean =>
    obtain ⟨b, rfl⟩ := h
    exact at?_truth b step t
  | string =>
    obtain ⟨x, rfl⟩ := h
    exact at?_text x step t

end Datum

/-- The warning of a field further below. -/
def Warning.under (start : String) (w : Warning) : Warning := { w with route := start ++ w.route }

theorem Document.parser_of_ofMarkup {markup parser : String} {location : Option String}
    {rule : Markup.WordRule} {d : Document} (h : ofMarkup markup location parser rule = .ok d) :
    d.parser = parser := by
  rw [ofMarkup] at h
  split at h
  · cases h
  · split at h
    · cases h
    · cases h
      rfl

namespace Schema

/-- `Reaches s d fields t e node` says that the trail `t` from the record of `fields` on the page
`d` leads to the field with the node `node`, which is read on the page `e`. -/
inductive Reaches (s : Settings) :
    Document → List (String × Node) → Trail → Document → Node → Prop where
  | here {d : Document} {fields : List (String × Node)} {name : String} {node : Node} :
      (name, node) ∈ fields → Reaches s d fields [.field name] d node
  | nested {d e : Document} {fields inner : List (String × Node)} {name : String} {t : Trail}
      {node : Node} :
      (name, .nested inner) ∈ fields → Reaches s d inner t e node →
      Reaches s d fields (.field name :: t) e node
  | item {d page e : Document} {fields item : List (String × Node)} {name selector : String}
      {i : Nat} {t : Trail} {node : Node} :
      (name, .array selector item) ∈ fields → (itemPages s d selector).1[i]? = some page →
      Reaches s page item t e node →
      Reaches s d fields (.field name :: .item i :: t) e node

section Reach

variable {s : Settings} {d e : Document} {location : Option String} {t : Trail} {node : Node}
  {name selector : String} {fields item : List (String × Node)} {v : Datum}

theorem lookup_recordOf_none (hname : name ∉ fields.map (·.1)) :
    (recordOf s d fields).lookup name = none := by
  induction fields with
  | nil => rfl
  | cons field rest ih =>
    obtain ⟨other, first⟩ := field
    simp only [List.map_cons, List.mem_cons, not_or] at hname
    have hne : (name == other) = false := beq_false_of_ne hname.1
    rw [recordOf]
    cases outcomeOf s d first with
    | error m => exact ih hname.2
    | ok v =>
      change List.lookup name ((other, v) :: recordOf s d rest) = none
      rw [List.lookup_cons, hne]
      exact ih hname.2

/-- A record has at a name what comes of its field. -/
theorem lookup_recordOf (h : WellNamed fields) (hmem : (name, node) ∈ fields) :
    (recordOf s d fields).lookup name = (outcomeOf s d node).toOption := by
  induction fields with
  | nil => cases hmem
  | cons field rest ih =>
    obtain ⟨other, first⟩ := field
    obtain ⟨_, hother, _, hrest⟩ := h
    rw [recordOf]
    rcases List.mem_cons.mp hmem with heq | htail
    · cases heq
      have hnone := lookup_recordOf_none (s := s) (d := d) hother
      cases outcomeOf s d node with
      | error m => exact hnone
      | ok v => simp [Except.toOption]
    · have hne : (name == other) = false := by
        apply beq_false_of_ne
        rintro rfl
        exact hother (List.mem_map_of_mem htail)
      cases outcomeOf s d first with
      | error m => exact ih hrest htail
      | ok v =>
        change List.lookup name ((other, v) :: recordOf s d rest) = _
        rw [List.lookup_cons, hne]
        exact ih hrest htail

/-- What is found at a field has come of its node. -/
theorem outcomeOf_of_lookup (h : WellNamed fields) (hmem : (name, node) ∈ fields)
    (hv : (recordOf s d fields).lookup name = some v) : outcomeOf s d node = .ok v := by
  rw [lookup_recordOf h hmem] at hv
  cases ho : outcomeOf s d node with
  | error m => simp [ho, Except.toOption] at hv
  | ok w => simpa [ho, Except.toOption] using hv

theorem itemPages_of_outcomeOf (h : outcomeOf s d (.array selector item) = .ok v) :
    ∃ pages, itemPages s d selector = (pages, none) ∧
      v = .items (pages.map fun page => .record (recordOf s page item)) := by
  rcases hpages : itemPages s d selector with ⟨pages, _ | m⟩
  · rw [outcomeOf_array_of_none hpages] at h
    cases h
    exact ⟨pages, rfl, rfl⟩
  · rw [outcomeOf_array_of_some hpages] at h
    cases h

/-- What a result has at a trail is what comes of the node there on its page. -/
theorem Reaches.outcomeOf (h : Reaches s d fields t e node) (hn : WellNamed fields)
    (hv : (Datum.record (recordOf s d fields)).at? t = some v) :
    outcomeOf s e node = .ok v := by
  induction h with
  | here hmem =>
    apply outcomeOf_of_lookup hn hmem
    simpa [Datum.at?] using hv
  | nested hmem _ ih =>
    obtain ⟨w, hw, hv⟩ := Option.bind_eq_some_iff.mp hv
    have how := outcomeOf_of_lookup hn hmem hw
    rw [Schema.outcomeOf] at how
    cases how
    exact ih (hn.of_mem hmem).2 hv
  | item hmem hpage _ ih =>
    obtain ⟨w, hw, hv⟩ := Option.bind_eq_some_iff.mp hv
    obtain ⟨pages, hpages, rfl⟩ := itemPages_of_outcomeOf (outcomeOf_of_lookup hn hmem hw)
    rw [hpages] at hpage
    obtain ⟨x, hx, hv⟩ := Option.bind_eq_some_iff.mp hv
    rw [List.getElem?_map, hpage] at hx
    cases hx
    exact ih (hn.of_mem hmem).2 hv

/-- No trail that leads to a field is empty. -/
theorem Reaches.ne_nil (h : Reaches s d fields t e node) : t ≠ [] := by
  cases h <;> simp

/-- A record that a result has holds what comes of the fields that are reached in it. -/
theorem Reaches.at?_eq {u : Trail} (h : Reaches s d fields u e node) (hn : WellNamed fields)
    (hu : u = t ++ [.field name]) (hv : (Datum.record (recordOf s d fields)).at? t = some v) :
    (Datum.record (recordOf s d fields)).at? u = (Schema.outcomeOf s e node).toOption := by
  induction h generalizing t with
  | @here d fields other node hmem =>
    rw [Datum.at?, lookup_recordOf hn hmem]
    cases Schema.outcomeOf s d node <;> rfl
  | @nested d e fields inner other u node hmem hinner ih =>
    have hlookup : (recordOf s d fields).lookup other = some (.record (recordOf s d inner)) := by
      rw [lookup_recordOf hn hmem, Schema.outcomeOf]
      rfl
    rw [Datum.at?, hlookup, Option.bind_some]
    cases t with
    | nil => exact absurd (List.cons.inj hu).2 hinner.ne_nil
    | cons step t =>
      obtain ⟨rfl, rfl⟩ := List.cons.inj hu
      rw [Datum.at?, hlookup, Option.bind_some] at hv
      exact ih (hn.of_mem hmem).2 rfl hv
  | @item d page e fields item other selector i u node hmem hpage hinner ih =>
    -- the list is there, since the trail to the record goes through one of its items
    obtain ⟨t, rfl, rfl⟩ : ∃ rest, t = .field other :: .item i :: rest ∧
        u = rest ++ [.field name] := by
      match t with
      | [] => exact absurd (List.cons.inj hu).2 (by simp)
      | [first] => exact absurd (List.cons.inj (List.cons.inj hu).2).2 hinner.ne_nil
      | first :: second :: rest =>
        simp only [List.cons_append, List.cons.injEq] at hu
        exact ⟨rest, by rw [hu.1, hu.2.1], hu.2.2⟩
    obtain ⟨w, hw, hv⟩ := Option.bind_eq_some_iff.mp hv
    obtain ⟨pages, hpages, rfl⟩ := itemPages_of_outcomeOf (outcomeOf_of_lookup hn hmem hw)
    rw [hpages] at hpage
    have hrecord : (pages.map fun page => Datum.record (recordOf s page item))[i]? =
        some (.record (recordOf s page item)) := by
      rw [List.getElem?_map, hpage, Option.map_some]
    rw [Datum.at?, hrecord, Option.bind_some] at hv
    rw [Datum.at?, hw, Option.bind_some, Datum.at?, hrecord, Option.bind_some]
    exact ih (hn.of_mem hmem).2 rfl hv

/-- What is visited at a field, and beneath it, is visited on the walk of the record. -/
theorem subset_visits {start : Trail} (hmem : (name, node) ∈ fields) :
    visitsIn s d (start ++ [.field name]) node ++
      [⟨start ++ [.field name], node, Schema.outcomeOf s d node⟩] ⊆ visits s d start fields := by
  induction fields with
  | nil => cases hmem
  | cons field rest ih =>
    obtain ⟨other, first⟩ := field
    intro v hv
    rw [visits, List.append_cons]
    rcases List.mem_cons.mp hmem with heq | hmem
    · cases heq
      exact List.mem_append_left _ hv
    · exact List.mem_append_right _ (ih hmem hv)

/-- Every field that is reached is visited. -/
theorem Reaches.mem_visits (h : Reaches s d fields t e node) (start : Trail) :
    ⟨start ++ t, node, Schema.outcomeOf s e node⟩ ∈ visits s d start fields := by
  induction h generalizing start with
  | here hmem => exact subset_visits hmem (List.mem_append_right _ List.mem_cons_self)
  | @nested d e fields inner name t node hmem _ ih =>
    have hinner := ih (start ++ [.field name])
    rw [List.append_assoc, List.singleton_append] at hinner
    exact subset_visits hmem (List.mem_append_left _ hinner)
  | @item d page e fields item name selector i t node hmem hpage _ ih =>
    have hinner := ih (start ++ [.field name] ++ [.item i])
    simp only [List.append_assoc, List.singleton_append] at hinner
    refine subset_visits hmem (List.mem_append_left _ ?_)
    rw [visitsIn, List.mem_flatMap]
    exact ⟨(page, i), List.mk_mem_zipIdx_iff_getElem?.mpr hpage, by rwa [List.append_assoc]⟩

theorem Reaches.wellNamed (h : Reaches s d fields t e node) (hn : WellNamed fields) :
    node.WellNamed := by
  induction h with
  | here hmem => exact (hn.of_mem hmem).2
  | nested hmem _ ih => exact ih (hn.of_mem hmem).2
  | item hmem _ _ ih => exact ih (hn.of_mem hmem).2

theorem mem_of_lookup (hv : (recordOf s d fields).lookup name = some v) :
    ∃ node, (name, node) ∈ fields := by
  by_contra hnone
  have hname : name ∉ fields.map (·.1) := by
    intro hname
    obtain ⟨⟨_, node⟩, hmem, rfl⟩ := List.mem_map.mp hname
    exact hnone ⟨node, hmem⟩
  rw [lookup_recordOf_none hname] at hv
  cases hv

/-- Every field that a result has is reached by its trail. -/
theorem exists_reaches {s : Settings} {d : Document} {fields : List (String × Node)}
    {name : String} {v : Datum} (t : Trail) (hn : WellNamed fields)
    (hv : (Datum.record (recordOf s d fields)).at? (t ++ [.field name]) = some v) :
    ∃ e node, Reaches s d fields (t ++ [.field name]) e node := by
  match t with
  | [] =>
    obtain ⟨w, hw, _⟩ := Option.bind_eq_some_iff.mp hv
    obtain ⟨node, hmem⟩ := mem_of_lookup hw
    exact ⟨d, node, .here hmem⟩
  | .item i :: rest => cases hv
  | .field first :: rest =>
    obtain ⟨w, hw, hv⟩ := Option.bind_eq_some_iff.mp hv
    change w.at? (rest ++ [.field name]) = some v at hv
    obtain ⟨node, hmem⟩ := mem_of_lookup hw
    have how := outcomeOf_of_lookup hn hmem hw
    have hrest : rest ++ [.field name] ≠ [] := by simp
    cases node with
    | source text =>
      obtain ⟨step, u, hu⟩ := List.exists_cons_of_ne_nil hrest
      cases how
      rw [hu, resolveSource, Datum.at?_text] at hv
      cases hv
    | primitive p =>
      obtain ⟨step, u, hu⟩ := List.exists_cons_of_ne_nil hrest
      rw [Schema.outcomeOf] at how
      rw [hu, (p.hasType_of_resolve how).at?_cons] at hv
      cases hv
    | nested inner =>
      cases how
      obtain ⟨e, node, h⟩ := exists_reaches rest (hn.of_mem hmem).2 hv
      exact ⟨e, node, .nested hmem h⟩
    | array selector item =>
      obtain ⟨pages, hpages, rfl⟩ := itemPages_of_outcomeOf how
      match rest with
      | [] => cases hv
      | .field second :: rest => cases hv
      | .item i :: rest =>
        obtain ⟨x, hx, hv⟩ := Option.bind_eq_some_iff.mp hv
        rw [List.getElem?_map] at hx
        obtain ⟨page, hpage, rfl⟩ := Option.map_eq_some_iff.mp hx
        have hpage' : (itemPages s d selector).1[i]? = some page := by rw [hpages, hpage]
        obtain ⟨e, node, h⟩ := exists_reaches rest (hn.of_mem hmem).2 hv
        exact ⟨e, node, .item hmem hpage' h⟩

/-- The route to a field is not empty. -/
theorem Reaches.route_ne_empty (h : Reaches s d fields t e node) (hn : WellNamed fields) :
    t.route ≠ "" := by
  have hlast : ∃ start name, name ≠ "" ∧ t = start ++ [.field name] := by
    induction h with
    | @here d fields name node hmem => exact ⟨[], name, (hn.of_mem hmem).1, rfl⟩
    | nested hmem _ ih =>
      obtain ⟨start, name, hname, rfl⟩ := ih (hn.of_mem hmem).2
      exact ⟨_ :: start, name, hname, rfl⟩
    | item hmem _ _ ih =>
      obtain ⟨start, name, hname, rfl⟩ := ih (hn.of_mem hmem).2
      exact ⟨_ :: _ :: start, name, hname, rfl⟩
  obtain ⟨start, name, hname, rfl⟩ := hlast
  exact Trail.route_field_ne_empty hname

/-- The visits beneath a trail are those of the node that it leads to. -/
theorem Reaches.filter_visits (h : Reaches s d fields t e node) (hn : WellNamed fields)
    (start : Trail) :
    (visits s d start fields).filter (·.isBeneath (start ++ t)) =
      visitsIn s e (start ++ t) node := by
  induction h generalizing start with
  | here hmem => exact filter_visits_field hn hmem
  | @nested d e fields inner name t node hmem _ ih =>
    have hfield := filter_visits_field (s := s) (d := d) (t := start) hn hmem
    have hinner := ih (hn.of_mem hmem).2 (start ++ [.field name])
    rw [show start ++ .field name :: t = start ++ [.field name] ++ t by simp,
      Visit.filter_isBeneath_append, hfield]
    exact hinner
  | @item d page e fields item name selector i t node hmem hpage _ ih =>
    have hfield := filter_visits_field (s := s) (d := d) (t := start) hn hmem
    have hitem := filter_visitsIn_item (t := start ++ [.field name]) item hpage
    have hinner := ih (hn.of_mem hmem).2 (start ++ [.field name] ++ [.item i])
    have hsplit := Visit.filter_isBeneath_append (visits s d start fields)
      (start ++ [.field name]) [.item i]
    rw [show start ++ .field name :: .item i :: t =
        start ++ [.field name] ++ [.item i] ++ t by simp,
      Visit.filter_isBeneath_append, hsplit, hfield, hitem]
    exact hinner

/-- The pages of elements are those of the elements in order, as far as there are pages. -/
theorem pagesOf_getElem? {found : List Markup.Place} {pages : List Document} {i : Nat}
    {page : Document} (h : (pagesOf d location found).1 = pages) (hpage : pages[i]? = some page) :
    ∃ p, found[i]? = some p ∧ d.rescope p location = .ok page := by
  induction found generalizing pages i with
  | nil =>
    cases h
    cases hpage
  | cons p rest ih =>
    rw [pagesOf] at h
    cases hp : d.rescope p location with
    | error f =>
      rw [hp] at h
      cases h
      cases hpage
    | ok first =>
      rw [hp] at h
      cases h
      cases i with
      | zero =>
        cases hpage
        exact ⟨p, rfl, hp⟩
      | succ i => exact ih rfl hpage

theorem length_pagesOf {found : List Markup.Place} {pages : List Document}
    (h : pagesOf d location found = (pages, none)) : pages.length = found.length := by
  induction found generalizing pages with
  | nil =>
    cases h
    rfl
  | cons p rest ih =>
    rw [pagesOf] at h
    split at h
    · cases h
    · obtain ⟨rfl, hstop⟩ := Prod.mk.inj h
      simp [ih (Prod.ext rfl hstop)]

theorem Reaches.parser (h : Reaches s d fields t e node) : e.parser = d.parser := by
  induction h with
  | here => rfl
  | nested _ _ ih => exact ih
  | @item d page e fields item name selector i t node _ hpage _ ih =>
    cases hq : d.query selector with
    | error r =>
      rw [itemPages_of_error hq] at hpage
      cases hpage
    | ok found =>
      rw [itemPages_of_ok hq] at hpage
      obtain ⟨p, _, hp⟩ := pagesOf_getElem? rfl hpage
      exact ih.trans (Document.parser_of_ofMarkup hp)

/-- The warnings of a walk below a trail are those of the walk at the root, further below. -/
theorem warnings_visits_below (ht : t.route ≠ "") (hn : WellNamed fields) :
    Visit.warnings (visits s d t fields) =
      (Visit.warnings (visits s d [] fields)).map (Warning.under (t.route ++ ".")) := by
  have happend := visits_append s d t [] fields
  rw [List.append_nil] at happend
  rw [happend, Visit.warnings, Visit.warnings, List.filterMap_map, List.map_filterMap]
  apply List.filterMap_congr
  intro v hv
  obtain ⟨name, hname, u, hu⟩ := trail_of_mem_visits hv
  obtain ⟨⟨_, node⟩, hmem, rfl⟩ := List.mem_map.mp hname
  have hroute := Trail.route_append_field ht (hn.of_mem hmem).1 u
  cases ho : v.outcome with
  | ok w => simp [Visit.warning?, Visit.below, ho]
  | error m =>
    rw [List.nil_append] at hu
    simp [Visit.warning?, Visit.below, Warning.under, ho, hu, hroute]

end Reach

section Parts

variable {s : Settings} {d e : Document} {schema item fields : Schema} {t : Trail}
  {selector : String} {v : Datum}

/-- The items of a list that a result has, each beside the scrape of its element. -/
theorem Reaches.items_standalone (h : Reaches s d schema t e (.array selector item))
    (hn : WellNamed schema) (hs : d.parser = s.parser)
    (hv : (Datum.record (recordOf s d schema)).at? t = some v) :
    ∃ found vs, e.query selector = .ok found ∧ v = .items vs ∧ vs.length = found.length ∧
      ∀ i p, found[i]? = some p → ∃ r,
        Schema.scrape item s p.render (itemLocation s e) = .ok r ∧ vs[i]? = some (.record r.data) ∧
        Visit.warnings ((visits s d [] schema).filter (·.isBeneath (t ++ [.item i]))) =
          r.warnings.map (Warning.under (Route.item t.route i ++ ".")) := by
  have hitem : WellNamed item := h.wellNamed hn
  obtain ⟨pages, hpages, rfl⟩ := itemPages_of_outcomeOf (h.outcomeOf hn hv)
  cases hq : e.query selector with
  | error r =>
    rw [itemPages_of_error hq] at hpages
    cases hpages
  | ok found =>
    have hfound := hpages
    rw [itemPages_of_ok hq] at hfound
    have hlength := length_pagesOf hfound
    refine ⟨found, _, rfl, rfl, by simpa using hlength, ?_⟩
    intro i p hp
    have hi : i < pages.length := hlength ▸ (List.getElem?_eq_some_iff.mp hp).1
    have hpage : pages[i]? = some pages[i] := List.getElem?_eq_getElem hi
    obtain ⟨q, hq', hrescope⟩ := pagesOf_getElem? (congrArg Prod.fst hfound) hpage
    cases hp.symm.trans hq'
    rw [Document.rescope, h.parser.trans hs] at hrescope
    refine ⟨_, scrape_eq hrescope item, by simp [hpage], ?_⟩
    have hvisits := h.filter_visits hn []
    have hpages' : (itemPages s e selector).1[i]? = some pages[i] := by rw [hpages, hpage]
    have hbelow := warnings_visits_below (s := s) (d := pages[i])
      (Trail.route_item_ne_empty (t := t) (i := i)) hitem
    rw [Visit.filter_isBeneath_append, ← List.nil_append t, hvisits, List.nil_append,
      filter_visitsIn_item _ hpages', hbelow, Trail.route_item]

/-- A list that is missing where its record is there has a warning of its own. -/
theorem Reaches.list_missing {name : String}
    (h : Reaches s d schema (t ++ [.field name]) e (.array selector item)) (hn : WellNamed schema)
    (hv : (Datum.record (recordOf s d schema)).at? t = some v)
    (hmissing : (Datum.record (recordOf s d schema)).at? (t ++ [.field name]) = none) :
    ∃ m, ⟨Trail.route (t ++ [.field name]), m⟩ ∈ Visit.warnings (visits s d [] schema) := by
  have hvisit := h.mem_visits []
  rw [h.at?_eq hn rfl hv] at hmissing
  cases ho : Schema.outcomeOf s e (.array selector item) with
  | ok v => simp [ho, Except.toOption] at hmissing
  | error m =>
    rw [ho] at hvisit
    exact ⟨m, List.mem_filterMap.mpr ⟨_, hvisit, rfl⟩⟩

/-- A nested record is there with the record that it is a field of, and is the walk of its fields
alone. -/
theorem Reaches.nested_standalone {name : String}
    (h : Reaches s d schema (t ++ [.field name]) e (.nested fields)) (hn : WellNamed schema)
    (hv : (Datum.record (recordOf s d schema)).at? t = some v) :
    (Datum.record (recordOf s d schema)).at? (t ++ [.field name]) =
        some (.record (walkFields s e "" fields).value) ∧
      Visit.warnings ((visits s d [] schema).filter (·.isBeneath (t ++ [.field name]))) =
        (walkFields s e "" fields).warnings.map
          (Warning.under (Trail.route (t ++ [.field name]) ++ ".")) := by
  have hfields : WellNamed fields := h.wellNamed hn
  have hwalk := walkFields_eq s e [] fields
  rw [Trail.route_nil] at hwalk
  have hvisits := h.filter_visits hn []
  rw [List.nil_append] at hvisits
  rw [h.at?_eq hn rfl hv, hwalk, hvisits, visitsIn, Schema.outcomeOf]
  exact ⟨rfl, warnings_visits_below (h.route_ne_empty hn) hfields⟩

end Parts

/-- Every field of a result is reached by its trail. Where it is a list, each item is the result of
a scrape of the text of its element, and the warnings recorded for the item are those of that
scrape, further below; a list that is missing has a warning of its own. A nested record is there
wherever the record is that it is a field of, and it is the walk of its fields alone on the same
page. -/
structure Standalone (s : Settings) (d : Document) (schema : Schema) (r : Result) : Prop where
  reached : ∀ t name v, (Datum.record r.data).at? (t ++ [.field name]) = some v →
    ∃ e node, Reaches s d schema (t ++ [.field name]) e node
  items : ∀ t e selector item v, Reaches s d schema t e (.array selector item) →
    (Datum.record r.data).at? t = some v →
    ∃ found vs, e.query selector = .ok found ∧ v = .items vs ∧ vs.length = found.length ∧
      ∀ i p, found[i]? = some p → ∃ q,
        Schema.scrape item s p.render (if s.propagates then e.location else none) = .ok q ∧
        vs[i]? = some (.record q.data) ∧
        Visit.warnings ((visits s d [] schema).filter (·.isBeneath (t ++ [.item i]))) =
          q.warnings.map (Warning.under (Route.item t.route i ++ "."))
  missing : ∀ t name e selector item v,
    Reaches s d schema (t ++ [.field name]) e (.array selector item) →
    (Datum.record r.data).at? t = some v →
    (Datum.record r.data).at? (t ++ [.field name]) = none →
    ∃ m, ⟨Trail.route (t ++ [.field name]), m⟩ ∈ r.warnings
  nested : ∀ t name e fields v, Reaches s d schema (t ++ [.field name]) e (.nested fields) →
    (Datum.record r.data).at? t = some v →
    (Datum.record r.data).at? (t ++ [.field name]) =
        some (.record (walkFields s e "" fields).value) ∧
      Visit.warnings ((visits s d [] schema).filter (·.isBeneath (t ++ [.field name]))) =
        (walkFields s e "" fields).warnings.map
          (Warning.under (Trail.route (t ++ [.field name]) ++ "."))

/-- The parts of the result of a scrape are scrapes of their own. -/
theorem scrape_standalone {s : Settings} {markup : String} {url : Option String} {d : Document}
    {schema : Schema} (hd : Document.ofMarkup markup url s.parser .asWritten = .ok d)
    (hn : WellNamed schema) :
    ∃ r, schema.scrape s markup url = .ok r ∧ r.warnings = Visit.warnings (visits s d [] schema) ∧
      Standalone s d schema r := by
  have hs : d.parser = s.parser := Document.parser_of_ofMarkup hd
  refine ⟨_, scrape_eq hd schema, rfl, ?_, ?_, ?_, ?_⟩
  · intro t name v hv
    exact exists_reaches t hn hv
  · intro t e selector item v h hv
    exact h.items_standalone hn hs hv
  · intro t name e selector item v h hv
    exact h.list_missing hn hv
  · intro t name e fields v h hv
    exact h.nested_standalone hn hv

/-- A nested record, and lists within the items of a list. -/
def shelf : Schema := [
  ("page", .nested [("at", .source "url")]),
  ("lists", .array "ul" [("items", .array "li" [("at", .source "url")])])]

theorem scrape_standalone_lists :
    ∃ d, Document.ofMarkup "<ul><li><b>x</b></li></ul>" (some "u") "html.parser" .asWritten =
        .ok d ∧
      WellNamed shelf ∧
      ∃ r, shelf.scrape { propagates := true } "<ul><li><b>x</b></li></ul>" (some "u") = .ok r ∧
        r.data = [("page", .record [("at", .text "u")]),
          ("lists", .items [.record [("items", .items [.record [("at", .text "u")]])]])] ∧
        r.warnings = Visit.warnings (visits { propagates := true } d [] shelf) ∧
        Standalone { propagates := true } d shelf r := by
  let item : Markup.Node := .element "li" [] [.element "b" [] [.text .plain "x"]]
  let list : Markup.Node := .element "ul" [] [item]
  let page : Document := ⟨[list], some "u", "html.parser"⟩
  have hd : Document.ofMarkup "<ul><li><b>x</b></li></ul>" (some "u") "html.parser" .asWritten =
      .ok page := by cbv
  have hn : WellNamed shelf := by
    simp [shelf, WellNamed, Node.WellNamed]
  let ul : Markup.Place := .mk ⟨"ul", [], [item]⟩ [] [] (some (.whole [list]))
  let li : Markup.Place := .mk ⟨"li", [], [.element "b" [] [.text .plain "x"]]⟩ [] [] (some ul)
  have hul : page.query "ul" = .ok [ul] := by cbv
  have hli : page.query "li" = .ok [li] := by cbv
  have hlist : ul.render = "<ul><li><b>x</b></li></ul>" := by decide +kernel
  have hitem : li.render = "<li><b>x</b></li>" := by decide +kernel
  have hown : Document.ofMarkup "<li><b>x</b></li>" (some "u") "html.parser" .asWritten =
      .ok ⟨[item], some "u", "html.parser"⟩ := by cbv
  have hlists : itemPages { propagates := true } page "ul" = ([page], none) := by
    simp [itemPages_of_ok hul, itemLocation, pagesOf, Document.rescope, hlist, page, hd]
  have hitems : itemPages { propagates := true } page "li" =
      ([⟨[item], some "u", "html.parser"⟩], none) := by
    simp [itemPages_of_ok hli, itemLocation, pagesOf, Document.rescope, hitem, page, hown]
  have hlower : Text.lower "url" = addressName := by decide +kernel
  obtain ⟨r, hr, hwarnings, hparts⟩ := scrape_standalone (s := { propagates := true }) hd hn
  refine ⟨_, hd, hn, r, hr, ?_, hwarnings, hparts⟩
  obtain rfl := Except.ok.inj ((scrape_eq (s := { propagates := true }) hd shelf).symm.trans hr)
  simp [shelf, recordOf, outcomeOf, hlists, hitems, resolveSource, hlower, Except.toOption, page]

end Schema

end Gleaner
