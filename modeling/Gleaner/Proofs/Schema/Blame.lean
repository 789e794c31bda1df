import Gleaner.Proofs.Basic
import Gleaner.Proofs.Route
import Gleaner.Proofs.Schema.Grammar

/-! Where a schema is wrong. The places of a schema have an order, in which an array comes before
its item schema with its spelling and after it with the rest. A schema that is refused is refused
at its first place that is not sound on its own. -/

namespace Gleaner

/-- A value in which no key is empty, as far as it may be a schema. -/
inductive Raw.Named : Raw → Prop where
  | map {entries : List (Key × Raw)} (names : ∀ e ∈ entries, e.1 ≠ .str "")
      (values : ∀ e ∈ entries, Named e.2) : Named (.map entries)
  | other {v : Raw} (h : ∀ entries, v ≠ .map entries) : Named v

theorem Raw.plain_map {entries : List (Key × Raw)} : Raw.Plain (.map entries) ↔
    (∀ e ∈ entries, ∃ name, e.1 = .str name) ∧ ∀ e ∈ entries, e.2.Plain := by
  constructor
  · rintro (_ | _ | _ | _ | _ | _ | ⟨named, values⟩)
    exact ⟨named, values⟩
  · exact fun h => .map h.1 h.2

theorem Raw.named_map {entries : List (Key × Raw)} : Raw.Named (.map entries) ↔
    (∀ e ∈ entries, e.1 ≠ .str "") ∧ ∀ e ∈ entries, e.2.Named := by
  constructor
  · rintro (⟨names, values⟩ | h)
    · exact ⟨names, values⟩
    · exact absurd rfl (h entries)
  · exact fun h => .map h.1 h.2

namespace Schema

open Shape

/-- A step into a schema: to a field of a record, or to the items of an array. -/
inductive Step where
  | field (name : String)
  | items

/-- The names on the way, the first one given, with the brackets of the items that they lead to. -/
def segments (first : String) : List Step → List String
  | [] => [first]
  | .items :: trail => segments (first ++ "[]") trail
  | .field name :: trail => first :: segments name trail

/-- The names on the way, joined by points. A root without a name is not among them. -/
def routeFrom (root : String) (trail : List Step) : String :=
  ".".intercalate ((segments root trail).filter (· ≠ ""))

/-- What is looked at in a schema at a time. -/
inductive Part where
  /-- What stands for a node or a schema, and is no mapping. -/
  | other (v : Raw)
  | record (entries : Entries)
  | source (entries : Entries)
  | primitive (entries : Entries)
  /-- The spelling of the item schema of an array. -/
  | spelling (entries : Entries)
  /-- What an array has beside its item schema. -/
  | array (entries : Entries)

/-- Whether a part is sound, whatever is beneath it. -/
def Part.Sound : Part → Prop
  | other _ => False
  | record entries => ∀ name ∈ instructions, ∀ v, Value.lookup? entries name = some v → Raw.isMap v
  | source entries => Keyed entries ["meta"] ∧
      ∃ name, Value.lookup? entries "meta" = some (.str name)
  | primitive entries => ∃ key ∈ ["pattern", "regex"],
      Keyed entries ["selector", "attribute", key, "type"] ∧
      (∃ selector, Value.lookup? entries "selector" = some (.str selector)) ∧
      (∃ attributes, AttributesOf (Value.lookup? entries "attribute") attributes) ∧
      (∃ pattern, PatternOf (Value.lookup? entries key) pattern) ∧
      ∃ type, TypeOf (Value.lookup? entries "type") type
  | spelling entries => ∃ key ∈ ["itemSchema", "item_schema"], Value.lookup? entries key = none
  | array entries => Keyed entries ["selector", "itemSchema", "item_schema"] ∧
      ∃ selector, Value.lookup? entries "selector" = some (.str selector)

/-- A part of a schema, and the way there. -/
structure Place where
  trail : List Step
  part : Part

def Place.below (step : Step) (p : Place) : Place := { p with trail := step :: p.trail }

/-- The kind that a mapping is meant to have, by the first of these names under which it gives
something. -/
def meant (entries : Entries) : Kind :=
  if (Value.given? entries "meta").isSome then .source
  else if (Value.given? entries "itemSchema").isSome || (Value.given? entries "item_schema").isSome
    then .array
  else if (Value.given? entries "selector").isSome then .primitive
  else .nested

mutual

/-- The places of a node, in order. -/
def nodePlaces : Raw → List Place
  | .map entries => match meant entries with
    | .source => [⟨[], .source entries⟩]
    | .primitive => [⟨[], .primitive entries⟩]
    | .nested => ⟨[], .record entries⟩ :: fieldPlaces entries
    | .array => ⟨[], .spelling entries⟩ ::
        ((itemPlaces entries).map (Place.below .items) ++ [⟨[], .array entries⟩])
  | v => [⟨[], .other v⟩]

/-- The places of a schema, in order. -/
def schemaPlaces : Raw → List Place
  | .map entries => fieldPlaces entries
  | v => [⟨[], .other v⟩]

def fieldPlaces : List (Key × Raw) → List Place
  | [] => []
  | (.str name, v) :: rest => (nodePlaces v).map (Place.below (.field name)) ++ fieldPlaces rest
  | _ :: rest => fieldPlaces rest

/-- The places of the item schema among the entries. -/
def itemPlaces : List (Key × Raw) → List Place
  | [] => []
  | (key, v) :: rest =>
    if Form.item.any fun name => key.same (.str name) then schemaPlaces v else itemPlaces rest

end

section Routes

variable {a b name root : String} {step : Step} {trail : List Step}

def Step.onto (route : String) : Step → String
  | field name => Route.field route name
  | items => Route.items route

theorem Step.onto_ne_empty (hb : b ≠ "") : step.onto b ≠ "" := by
  cases step <;> simp [Step.onto, Route.field, Route.items, hb]

theorem Step.onto_append (hb : b ≠ "") : step.onto (a ++ b) = a ++ step.onto b := by
  cases step <;> simp [Step.onto, Route.field, Route.items, hb, String.append_assoc]

/-- A route goes on after a point from a root that has a name. -/
theorem foldl_onto_field (hroot : root ≠ "") (hname : name ≠ "") (trail : List Step) :
    (Step.field name :: trail).foldl Step.onto root =
      root ++ "." ++ trail.foldl Step.onto name := by
  have hstart : Step.onto root (.field name) = root ++ "." ++ name := by
    simp [Step.onto, Route.field, hroot]
  rw [List.foldl_cons, hstart]
  exact Route.foldl_append (f := Step.onto) (fun _ _ => Step.onto_ne_empty)
    (fun _ _ _ => Step.onto_append) hname trail

theorem filter_segments_ne_nil (hroot : root ≠ "") :
    (segments root trail).filter (· ≠ "") ≠ [] := by
  induction trail generalizing root with
  | nil => simp [segments, hroot]
  | cons step trail ih =>
    cases step with
    | items => exact ih (by simp)
    | field name => simp [segments, hroot]

theorem foldl_onto_of_ne_empty (hroot : root ≠ "")
    (hnames : ∀ name, .field name ∈ trail → name ≠ "") :
    trail.foldl Step.onto root = routeFrom root trail := by
  induction trail generalizing root with
  | nil => simp [routeFrom, segments, hroot]
  | cons step trail ih =>
    have hrest : ∀ name, .field name ∈ trail → name ≠ "" :=
      fun name hmem => hnames name (List.mem_cons_of_mem step hmem)
    cases step with
    | items =>
      rw [List.foldl_cons, routeFrom, segments]
      exact ih (Step.onto_ne_empty hroot) hrest
    | field name =>
      have hname := hnames name List.mem_cons_self
      rw [foldl_onto_field hroot hname, ih hname hrest, routeFrom, routeFrom, segments,
        List.filter_cons_of_pos (by simpa using hroot),
        String.intercalate_cons_of_ne_nil (filter_segments_ne_nil hname)]

/-- Step by step the route is written that a trail has as a whole. -/
theorem foldl_onto (hnames : ∀ name, .field name ∈ trail → name ≠ "") :
    trail.foldl Step.onto root = routeFrom root trail := by
  by_cases hroot : root = ""
  · subst hroot
    cases trail with
    | nil => rfl
    | cons step trail =>
      have hrest : ∀ name, .field name ∈ trail → name ≠ "" :=
        fun name hmem => hnames name (List.mem_cons_of_mem step hmem)
      cases step with
      | items =>
        have hitems : trail.foldl Step.onto "[]" = routeFrom "[]" trail :=
          foldl_onto_of_ne_empty (by decide) hrest
        exact hitems
      | field name =>
        have hfield : trail.foldl Step.onto name = routeFrom name trail :=
          foldl_onto_of_ne_empty (hnames name List.mem_cons_self) hrest
        exact hfield
  · exact foldl_onto_of_ne_empty hroot hnames

end Routes

/-- Reading, from any root, comes to the same: it yields a value where all places are sound, and
otherwise fails at the first that is not. -/
inductive Blames {β : Type} (places : List Place) (read : String → Except Refusal β) : Prop where
  | sound (b : β) (all : ∀ p ∈ places, p.part.Sound) (reads : ∀ root, read root = .ok b)
  | fault (before : List Place) (p : Place) (after : List Place) (fault : Fault)
      (order : places = before ++ p :: after) (first : ∀ q ∈ before, q.part.Sound)
      (unsound : ¬ p.part.Sound)
      (refuses : ∀ root, read root = .error ⟨p.trail.foldl Step.onto root, fault⟩)

section Reading

variable {β γ : Type} {ps qs : List Place} {part : Part} {fault : Fault} {entries : Entries}
  {read f : String → Except Refusal β} {g : β → String → Except Refusal γ}
  {h : String → Except Refusal γ}

theorem Blames.first (hnot : ¬ part.Sound) (hread : ∀ root, read root = .error ⟨root, fault⟩) :
    Blames (⟨[], part⟩ :: ps) read :=
  .fault [] ⟨[], part⟩ ps fault rfl nofun hnot hread

theorem Blames.cons (hsound : part.Sound) (hrest : Blames ps read) :
    Blames (⟨[], part⟩ :: ps) read := by
  cases hrest with
  | sound b hall hread => exact .sound b (List.forall_mem_cons.mpr ⟨hsound, hall⟩) hread
  | fault before p after fault horder hfirst hnot hread =>
    exact .fault (⟨[], part⟩ :: before) p after fault (by rw [horder, List.cons_append])
      (List.forall_mem_cons.mpr ⟨hsound, hfirst⟩) hnot hread

theorem Blames.below (hread : Blames ps read) (step : Step) :
    Blames (ps.map (Place.below step)) fun root => read (step.onto root) := by
  cases hread with
  | sound b hall hread =>
    refine .sound b ?_ fun root => hread _
    simpa [Place.below] using hall
  | fault before p after fault horder hfirst hnot hread =>
    refine .fault (before.map (Place.below step)) (p.below step) (after.map (Place.below step))
      fault (by simp [horder]) ?_ hnot fun root => hread _
    simpa [Place.below] using hfirst

theorem Blames.map (hread : Blames ps read) (f : β → γ) :
    Blames ps fun root => (read root).map f := by
  cases hread with
  | sound b hall hread => exact .sound (f b) hall fun root => by rw [hread]; rfl
  | fault before p after fault horder hfirst hnot hread =>
    exact .fault before p after fault horder hfirst hnot fun root => by rw [hread]; rfl

/-- What is read of one part after the other has the places of both, in this order. -/
theorem Blames.append (hf : Blames ps f) (hg : ∀ b, Blames qs (g b))
    (herror : ∀ root r, f root = .error r → h root = .error r)
    (hok : ∀ root b, f root = .ok b → h root = g b root) : Blames (ps ++ qs) h := by
  cases hf with
  | fault before p after fault horder hfirst hnot hread =>
    exact .fault before p (after ++ qs) fault (by simp [horder]) hfirst hnot
      fun root => herror root _ (hread root)
  | sound b hall hread =>
    cases hg b with
    | sound c hothers hrest =>
      exact .sound c (List.forall_mem_append.mpr ⟨hall, hothers⟩)
        fun root => (hok root b (hread root)).trans (hrest root)
    | fault before p after fault horder hfirst hnot hrest =>
      exact .fault (ps ++ before) p after fault (by simp [horder])
        (List.forall_mem_append.mpr ⟨hall, hfirst⟩) hnot
        fun root => (hok root b (hread root)).trans (hrest root)

/-- A form is one part, sound just if it is read. -/
theorem blames_invalid {kind : Kind} {c : Checked β} (h : (∃ b, c = .ok b) ↔ part.Sound) :
    Blames [⟨[], part⟩] fun root => invalid root kind c := by
  cases c with
  | ok b => exact .sound b (by simpa using h.mp ⟨b, rfl⟩) fun root => rfl
  | error cs =>
    refine .first (fun hsound => ?_) fun root => rfl
    obtain ⟨b, hb⟩ := h.mpr hsound
    cases hb

theorem sourceOf_isOk (h : Raw.Plain (.map entries)) :
    (∃ node, sourceOf entries = .ok node) ↔ (Part.source entries).Sound := by
  simp only [sourceOf_eq_ok h, Part.Sound]
  constructor
  · rintro ⟨node, name, hkeys, hv, -⟩
    exact ⟨hkeys, name, hv⟩
  · rintro ⟨hkeys, name, hv⟩
    exact ⟨_, name, hkeys, hv, rfl⟩

theorem primitiveOf_isOk (h : Raw.Plain (.map entries)) :
    (∃ node, primitiveOf entries = .ok node) ↔ (Part.primitive entries).Sound := by
  simp only [primitiveOf_eq_ok h, Part.Sound]
  constructor
  · rintro ⟨node, p, -, key, hkey, hkeys, hs, ha, hp, ht⟩
    exact ⟨key, hkey, hkeys, ⟨_, hs⟩, ⟨_, ha⟩, ⟨_, hp⟩, _, ht⟩
  · rintro ⟨key, hkey, hkeys, ⟨selector, hs⟩, ⟨attributes, ha⟩, ⟨pattern, hp⟩, type, ht⟩
    exact ⟨_, ⟨selector, attributes, pattern, type⟩, rfl, key, hkey, hkeys, hs, ha, hp, ht⟩

theorem spelling_iff : (Part.spelling entries).Sound ↔ bothItems entries = false := by
  cases h : Value.lookup? entries "itemSchema" <;> simp [Part.Sound, bothItems, Form.item, h]

theorem arrayOf_isOk {item : Schema} {key : String} {v : Raw} (h : Raw.Plain (.map entries))
    (hkey : key ∈ Form.item) (hv : Value.lookup? entries key = some v)
    (hboth : bothItems entries = false) :
    (∃ node, arrayOf entries item = .ok node) ↔ (Part.array entries).Sound := by
  have hkeyed : Keyed entries ["selector", key] ↔
      Keyed entries ["selector", "itemSchema", "item_schema"] := by
    constructor
    · intro hkeys e he
      obtain ⟨name, hname, heq⟩ := hkeys e he
      refine ⟨name, ?_, heq⟩
      rcases List.mem_cons.mp hname with rfl | hname
      · exact List.mem_cons_self
      · exact List.mem_cons_of_mem _ (List.mem_singleton.mp hname ▸ hkey)
    · intro hkeys e he
      obtain ⟨name, hname, heq⟩ := hkeys e he
      refine ⟨name, ?_, heq⟩
      rcases List.mem_cons.mp hname with rfl | hname
      · exact List.mem_cons_self
      · by_cases hne : name = key
        · simp [hne]
        · have hnone := lookup?_other_item hboth hv name hname hkey hne
          exact absurd heq (Value.lookup?_eq_none.mp hnone e he)
  simp only [arrayOf_eq_ok h hkey hv hboth, Part.Sound, hkeyed]
  constructor
  · rintro ⟨node, selector, -, hkeys, hs⟩
    exact ⟨hkeys, selector, hs⟩
  · rintro ⟨hkeys, selector, hs⟩
    exact ⟨_, selector, rfl, hkeys, hs⟩

end Reading

section Kinds

variable {entries : Entries}

theorem kindOf_eq : kindOf entries = match meant entries with
    | .nested => match instructions.filter fun name => !isField entries name with
      | [] => .ok .nested
      | keys => .error keys
    | kind => .ok kind := by
  have hsource : gives entries Form.source = (Value.given? entries "meta").isSome := by
    simp [gives, Form.source]
  have hitem : gives entries Form.item = ((Value.given? entries "itemSchema").isSome ||
      (Value.given? entries "item_schema").isSome) := by
    simp [gives, Form.item]
  have hselector : gives entries Form.selector = (Value.given? entries "selector").isSome := by
    simp [gives, Form.selector]
  rw [kindOf, meant, hsource, hitem, hselector]
  generalize (Value.given? entries "meta").isSome = a
  generalize ((Value.given? entries "itemSchema").isSome ||
    (Value.given? entries "item_schema").isSome) = b
  generalize (Value.given? entries "selector").isSome = c
  cases a <;> cases b <;> cases c <;> rfl

theorem record_iff : (Part.record entries).Sound ↔
    (instructions.filter fun name => !isField entries name) = [] := by
  rw [List.filter_eq_nil_iff]
  refine forall₂_congr fun name _ => ?_
  cases hv : Value.lookup? entries name with
  | none => simp [isField, hv]
  | some v => simp [isField, hv]

end Kinds

section Places

variable {entries : Entries}

theorem blames_other {β : Type} {v : Raw} {fault : Fault} :
    Blames [⟨[], .other v⟩] fun root => (.error ⟨root, fault⟩ : Except Refusal β) :=
  .first (fun hsound => hsound) fun _ => rfl

theorem blames_fields (hnamed : ∀ e ∈ entries, ∃ name, e.1 = .str name)
    (hnodes : ∀ e ∈ entries, Blames (nodePlaces e.2) fun root => readNode root e.2) :
    Blames (fieldPlaces entries) fun root => readFields root entries := by
  induction entries with
  | nil => exact .sound [] nofun fun _ => rfl
  | cons e rest ih =>
    obtain ⟨⟨name, hname⟩, hkeys⟩ := List.forall_mem_cons.mp hnamed
    obtain ⟨hnode, hothers⟩ := List.forall_mem_cons.mp hnodes
    obtain ⟨k, v⟩ := e
    cases hname
    have hrest := ih hkeys hothers
    refine (hnode.below (.field name)).append (fun node => hrest.map ((name, node) :: ·)) ?_ ?_
    · intro root r hread
      rw [Step.onto] at hread
      rw [readFields, hread]
    · intro root node hread
      rw [Step.onto] at hread
      rw [readFields, hread]
      cases readFields root rest <;> rfl

theorem blames_item (hschemas : ∀ e ∈ entries, Blames (schemaPlaces e.2)
    fun root => readSchema root e.2) :
    Blames (itemPlaces entries) fun root => readItem root entries := by
  induction entries with
  | nil => exact .sound [] nofun fun _ => rfl
  | cons e rest ih =>
    obtain ⟨hfirst, hothers⟩ := List.forall_mem_cons.mp hschemas
    obtain ⟨key, v⟩ := e
    simp only [itemPlaces, readItem]
    split
    next => exact hfirst
    next => exact ih hothers

/-- The item schema of an array is looked at before the rest of the array. -/
theorem blames_array (h : Raw.Plain (.map entries)) (hmeant : meant entries = .array)
    (hitem : Blames (itemPlaces entries) fun root => readItem root entries) :
    Blames (nodePlaces (.map entries)) fun root => readNode root (.map entries) := by
  have hkind : kindOf entries = .ok .array := by rw [kindOf_eq, hmeant]
  simp only [nodePlaces, hmeant, readNode, hkind]
  cases hboth : bothItems entries with
  | true =>
    have hnot : ¬ (Part.spelling entries).Sound := by simp [spelling_iff, hboth]
    exact .first hnot fun _ => rfl
  | false =>
    obtain ⟨key, hkey, v, hv⟩ := lookup?_item_of_kindOf hkind
    have hrest : ∀ item, Blames [⟨[], .array entries⟩]
        fun root => invalid root .array (arrayOf entries item) :=
      fun item => blames_invalid (arrayOf_isOk h hkey hv hboth)
    refine .cons (spelling_iff.mpr hboth) ((hitem.below .items).append hrest ?_ ?_)
    · intro root r hread
      rw [Step.onto] at hread
      simp [hread]
    · intro root item hread
      rw [Step.onto] at hread
      simp [hread]

theorem blames_map (h : Raw.Plain (.map entries))
    (hfields : Blames (fieldPlaces entries) fun root => readFields root entries)
    (hitem : Blames (itemPlaces entries) fun root => readItem root entries) :
    Blames (nodePlaces (.map entries)) fun root => readNode root (.map entries) := by
  cases hmeant : meant entries with
  | array => exact blames_array h hmeant hitem
  | source =>
    simp only [nodePlaces, readNode, kindOf_eq, hmeant]
    exact blames_invalid (sourceOf_isOk h)
  | primitive =>
    simp only [nodePlaces, readNode, kindOf_eq, hmeant]
    exact blames_invalid (primitiveOf_isOk h)
  | nested =>
    simp only [nodePlaces, readNode, kindOf_eq, hmeant]
    cases hkeys : instructions.filter fun name => !isField entries name with
    | nil => exact .cons (record_iff.mpr hkeys) (hfields.map Node.nested)
    | cons key keys =>
      have hnot : ¬ (Part.record entries).Sound := by simp [record_iff, hkeys]
      exact .first hnot fun _ => rfl

/-- Reading goes through the places of a schema in their order. -/
theorem blames_read {raw : Raw} (plain : raw.Plain) :
    Blames (nodePlaces raw) (fun root => readNode root raw) ∧
      Blames (schemaPlaces raw) fun root => readSchema root raw := by
  induction plain with
  | map named values ih =>
    have hfields := blames_fields named fun e he => (ih e he).1
    have hitem := blames_item fun e he => (ih e he).2
    exact ⟨blames_map (.map named values) hfields hitem, hfields⟩
  | null | bool | int | float | str | list => exact ⟨blames_other, blames_other⟩

end Places

section Names

variable {entries : Entries} {trail : List Step} {p : Place}

/-- No name on the way is empty. -/
def IsNamed (trail : List Step) : Prop := ∀ name, .field name ∈ trail → name ≠ ""

theorem isNamed_nil : IsNamed [] := nofun

theorem isNamed_items (h : IsNamed trail) : IsNamed (.items :: trail) := by
  intro name hmem
  simpa using h name (by simpa using hmem)

theorem isNamed_field {name : String} (hname : name ≠ "") (h : IsNamed trail) :
    IsNamed (.field name :: trail) := by
  intro other hmem
  rcases List.mem_cons.mp hmem with heq | hmem
  · exact Step.field.inj heq ▸ hname
  · exact h other hmem

theorem isNamed_fieldPlaces (hnames : ∀ e ∈ entries, e.1 ≠ .str "")
    (hnodes : ∀ e ∈ entries, ∀ p ∈ nodePlaces e.2, IsNamed p.trail) :
    ∀ p ∈ fieldPlaces entries, IsNamed p.trail := by
  induction entries with
  | nil => exact nofun
  | cons e rest ih =>
    obtain ⟨hname, hothers⟩ := List.forall_mem_cons.mp hnames
    obtain ⟨hnode, hrest⟩ := List.forall_mem_cons.mp hnodes
    obtain ⟨k, v⟩ := e
    cases k with
    | str name =>
      rw [fieldPlaces, List.forall_mem_append, List.forall_mem_map]
      refine ⟨fun p hp => isNamed_field ?_ (hnode p hp), ih hothers hrest⟩
      exact fun hempty => hname (congrArg Key.str hempty)
    | _ => exact ih hothers hrest

theorem isNamed_itemPlaces (hschemas : ∀ e ∈ entries, ∀ p ∈ schemaPlaces e.2, IsNamed p.trail) :
    ∀ p ∈ itemPlaces entries, IsNamed p.trail := by
  induction entries with
  | nil => exact nofun
  | cons e rest ih =>
    obtain ⟨hfirst, hothers⟩ := List.forall_mem_cons.mp hschemas
    rw [itemPlaces]
    split
    next => exact hfirst
    next => exact ih hothers

theorem isNamed_nodePlaces (hfields : ∀ p ∈ fieldPlaces entries, IsNamed p.trail)
    (hitem : ∀ p ∈ itemPlaces entries, IsNamed p.trail) :
    ∀ p ∈ nodePlaces (.map entries), IsNamed p.trail := by
  rw [nodePlaces]
  split
  next => simp [isNamed_nil]
  next => simp [isNamed_nil]
  next => exact List.forall_mem_cons.mpr ⟨isNamed_nil, hfields⟩
  next =>
    have hbelow : ∀ p ∈ (itemPlaces entries).map (Place.below .items), IsNamed p.trail :=
      List.forall_mem_map.mpr fun p hp => isNamed_items (hitem p hp)
    refine List.forall_mem_cons.mpr ⟨isNamed_nil, List.forall_mem_append.mpr ⟨hbelow, ?_⟩⟩
    exact List.forall_mem_singleton.mpr isNamed_nil

/-- The ways in a value without empty keys have no empty names. -/
theorem isNamed_places {raw : Raw} (named : raw.Named) :
    (∀ p ∈ nodePlaces raw, IsNamed p.trail) ∧ ∀ p ∈ schemaPlaces raw, IsNamed p.trail := by
  induction named with
  | map names _ ih =>
    have hfields := isNamed_fieldPlaces names fun e he => (ih e he).1
    have hitem := isNamed_itemPlaces fun e he => (ih e he).2
    exact ⟨isNamed_nodePlaces hfields hitem, hfields⟩
  | @other v hnot =>
    cases v with
    | map entries => exact absurd rfl (hnot entries)
    | _ => simp [nodePlaces, schemaPlaces, isNamed_nil]

end Names

theorem Refusal.message_eq {r : Refusal} (h : r.route ≠ "") :
    r.message = r.route ++ ": " ++ r.fault.message := by
  simp [Refusal.message, h]

/-- A refusal below a name. -/
def Refusal.under (name : String) (r : Refusal) : Refusal :=
  ⟨if r.route = "" then name else name ++ "." ++ r.route, r.fault⟩

theorem start_of_mem_fieldPlaces {entries : Entries} {p : Place} (h : p ∈ fieldPlaces entries) :
    ∃ name trail, p.trail = .field name :: trail := by
  induction entries with
  | nil => cases h
  | cons e rest ih =>
    obtain ⟨k, v⟩ := e
    cases k with
    | str name =>
      rw [fieldPlaces, List.mem_append] at h
      rcases h with h | h
      · obtain ⟨q, -, rfl⟩ := List.mem_map.mp h
        exact ⟨name, q.trail, rfl⟩
      · exact ih h
    | _ => exact ih h

/-- The way to a place of a schema starts with a field, if it is not the schema itself. -/
theorem start_of_mem_schemaPlaces {raw : Raw} {p : Place} (h : p ∈ schemaPlaces raw) :
    p.trail = [] ∨ ∃ name trail, p.trail = .field name :: trail := by
  cases raw with
  | map entries => exact .inr (start_of_mem_fieldPlaces h)
  | _ =>
    rw [List.mem_singleton.mp h]
    exact .inl rfl

theorem foldl_onto_under {p : Place} {raw : Raw} {name : String} {fault : Fault}
    (named : raw.Named) (hp : p ∈ schemaPlaces raw) (hname : name ≠ "") :
    (⟨p.trail.foldl Step.onto name, fault⟩ : Refusal) =
      Refusal.under name ⟨p.trail.foldl Step.onto "", fault⟩ := by
  have hnames := (isNamed_places named).2 p hp
  rcases start_of_mem_schemaPlaces hp with htrail | ⟨first, trail, htrail⟩
  · rw [htrail]
    rfl
  · rw [htrail] at hnames ⊢
    have hfirst := hnames first List.mem_cons_self
    have hroot : (Step.field first :: trail).foldl Step.onto "" = trail.foldl Step.onto first := rfl
    have hne : trail.foldl Step.onto first ≠ "" :=
      Route.foldl_ne_empty (f := Step.onto) (fun _ _ => Step.onto_ne_empty) hfirst trail
    rw [foldl_onto_field hname hfirst, hroot, Refusal.under, if_neg hne]

/-- A schema that is read under a name is read as it is without one, but for the routes. -/
theorem readSchema_under {raw : Raw} (plain : raw.Plain) (named : raw.Named) {name : String}
    (hname : name ≠ "") :
    readSchema name raw = (readSchema "" raw).mapError (Refusal.under name) := by
  cases (blames_read plain).2 with
  | sound schema hall hread =>
    rw [hread, hread]
    rfl
  | fault before p after fault horder hfirst hnot hread =>
    have hmem : p ∈ schemaPlaces raw := by simp [horder]
    rw [hread, hread, foldl_onto_under named hmem hname]
    rfl

/-- A schema is read just if all of its places are sound. One that is refused is refused with the
route of the first place that is not, before which all are sound, and with a message that starts
with this route, unless it is empty. -/
theorem readSchema_blames {raw : Raw} (plain : raw.Plain) (named : raw.Named) (root : String) :
    ((∃ schema, readSchema root raw = .ok schema) ↔ ∀ p ∈ schemaPlaces raw, p.part.Sound) ∧
      ∀ r, readSchema root raw = .error r → ∃ before p after,
        schemaPlaces raw = before ++ p :: after ∧ (∀ q ∈ before, q.part.Sound) ∧
        ¬ p.part.Sound ∧ r.route = routeFrom root p.trail ∧
        (r.route ≠ "" → (r.route ++ ": ").toList <+: r.message.toList) := by
  cases (blames_read plain).2 with
  | sound schema hall hread =>
    refine ⟨iff_of_true ⟨schema, hread root⟩ hall, fun r hr => ?_⟩
    rw [hread root] at hr
    cases hr
  | fault before p after fault horder hfirst hnot hread =>
    have hmem : p ∈ schemaPlaces raw := by simp [horder]
    refine ⟨iff_of_false ?_ fun hall => hnot (hall p hmem), fun r hr => ?_⟩
    · rintro ⟨schema, hschema⟩
      rw [hread root] at hschema
      cases hschema
    · rw [hread root] at hr
      cases hr
      refine ⟨before, p, after, horder, hfirst, hnot, ?_, fun hroute => ?_⟩
      · exact foldl_onto ((isNamed_places named).2 p hmem)
      · rw [Refusal.message_eq hroute]
        simp only [String.toList_append]
        exact List.prefix_append _ _

/-- Links with a fault in their items, a key that a list does not have, and what is no node. -/
def brokenLinks : Raw := .map [
  (.str "title", .map [(.str "selector", .str "h1")]),
  (.str "links", .map [(.str "type", .str "number"), (.str "selector", .str "a"),
    (.str "itemSchema", .map [(.str "page", .map [(.str "meta", .str "url")]),
      (.str "rank", .int 5)])]),
  (.str "rest", .null)]

theorem readSchema_blames_item : brokenLinks.Plain ∧ brokenLinks.Named ∧
    ∃ r before p after, readSchema "s" brokenLinks = .error r ∧ r.route = "s.links[].rank" ∧
      schemaPlaces brokenLinks = before ++ p :: after ∧ (∀ q ∈ before, q.part.Sound) ∧
      ¬ p.part.Sound ∧ r.route = routeFrom "s" p.trail := by
  have hplain : brokenLinks.Plain := by
    simp [brokenLinks, Raw.plain_map, Raw.Plain.str, Raw.Plain.int, Raw.Plain.null]
  have hnamed : brokenLinks.Named := by
    simp [brokenLinks, Raw.named_map, Raw.Named.other]
  obtain ⟨before, p, after, horder, hfirst, hnot, hroute, -⟩ :=
    (readSchema_blames hplain hnamed "s").2 _ rfl
  exact ⟨hplain, hnamed, _, before, p, after, rfl, rfl, horder, hfirst, hnot, hroute⟩

end Schema

end Gleaner
