import Gleaner.Proofs.Walk.Visit

/-! Fields do not see each other: a node put in place of another changes nothing of a result but
what is at or beneath its position. -/

namespace Gleaner

/-- Changes what stands under a name. -/
def atName {β : Type} (name : String) (f : β → β) (entries : List (String × β)) :
    List (String × β) :=
  entries.map fun e => if e.1 = name then (e.1, f e.2) else e

section AtName

variable {β : Type} {name other : String} {f : β → β} {b : β} {rest : List (String × β)}

@[simp] theorem atName_cons_self :
    atName name f ((name, b) :: rest) = (name, f b) :: atName name f rest := by
  simp [atName]

theorem atName_cons_ne (h : other ≠ name) :
    atName name f ((other, b) :: rest) = (other, b) :: atName name f rest := by
  simp [atName, h]

/-- What is put together of what each entry gives is the same after a change under a name, given
that this is so for a single entry of that name. -/
theorem congr_atName {γ : Type} (g : List (String × β) → List γ)
    (hcons : ∀ e rest, g (e :: rest) = g [e] ++ g rest)
    (hname : ∀ b, g [(name, f b)] = g [(name, b)]) (entries : List (String × β)) :
    g (atName name f entries) = g entries := by
  induction entries with
  | nil => rfl
  | cons e rest ih =>
    obtain ⟨other, b⟩ := e
    by_cases h : other = name
    · subst h
      rw [atName_cons_self, hcons, hname, ih, ← hcons]
    · rw [atName_cons_ne h, hcons, ih, ← hcons]

end AtName

/-- The names that a trail goes through, whatever the items. -/
def Trail.names (t : Trail) : List String :=
  t.filterMap fun
    | .field name => some name
    | .item _ => none

@[simp] theorem Trail.names_field (t : Trail) (name : String) :
    names (t ++ [.field name]) = names t ++ [name] := by
  simp [names]

@[simp] theorem Trail.names_item (t : Trail) (i : Nat) : names (t ++ [.item i]) = names t := by
  simp [names]

namespace Visit

/-- Whether a visit is at or beneath a position in the schema, in any item. -/
def isWithin (position : List String) (v : Visit) : Bool := position.isPrefixOf v.trail.names

/-- The warnings of the visits that are neither at a position nor beneath it. -/
def warningsOff (position : List String) (vs : List Visit) : List Warning :=
  warnings (vs.filter fun v => !v.isWithin position)

@[simp] theorem warningsOff_append (position : List String) (vs ws : List Visit) :
    warningsOff position (vs ++ ws) = warningsOff position vs ++ warningsOff position ws := by
  simp [warningsOff]

theorem warningsOff_flatMap {α : Type} (position : List String) (f : α → List Visit)
    (as : List α) :
    warningsOff position (as.flatMap f) = as.flatMap fun a => warningsOff position (f a) := by
  simp [warningsOff, List.filter_flatMap, warnings_flatMap]

theorem warningsOff_singleton {position : List String} {v : Visit}
    (h : v.isWithin position = false) : warningsOff position [v] = v.warning?.toList := by
  simp [warningsOff, h, warnings_cons]

end Visit

namespace Datum

/-- Changes a record, or every record of a list. -/
def mapRecords (f : List (String × Datum) → List (String × Datum)) : Datum → Datum
  | .record fields => .record (f fields)
  | .items vs => .items (vs.map fun
    | .record fields => .record (f fields)
    | v => v)
  | v => v

end Datum

/-- A record without what is at or beneath a position, in every object and every item. -/
def without : List String → List (String × Datum) → List (String × Datum)
  | [], fields => fields
  | [name], fields => fields.filter (·.1 ≠ name)
  | name :: second :: rest, fields =>
    atName name (Datum.mapRecords (without (second :: rest))) fields

theorem without_append (name : String) (rest : List String) (fields more : List (String × Datum)) :
    without (name :: rest) (fields ++ more) =
      without (name :: rest) fields ++ without (name :: rest) more := by
  cases rest with
  | nil => exact List.filter_append ..
  | cons second rest => exact List.map_append

namespace Schema

/-- A node with a new one at a position beneath it. -/
def Node.replaceAt (new : Node) : List String → Node → Node
  | [], _ => new
  | name :: rest, .nested fields => .nested (atName name (Node.replaceAt new rest) fields)
  | name :: rest, .array selector item =>
    .array selector (atName name (Node.replaceAt new rest) item)
  | _ :: _, node => node

/-- A schema with a new node at a position: a field, or a field in the schema of a field. -/
def replaceAt (new : Node) (name : String) (rest : List String) (schema : Schema) : Schema :=
  atName name (Node.replaceAt new rest) schema

variable {s : Settings} {new : Node}

theorem recordOf_cons (d : Document) (name : String) (node : Node)
    (rest : List (String × Node)) :
    recordOf s d ((name, node) :: rest) =
      ((outcomeOf s d node).toOption.map (name, ·)).toList ++ recordOf s d rest := rfl

/-- What comes of a node above a position is the same but for what is at the position, given that
this is so for records. -/
theorem outcomeOf_replaceAt {name : String} {rest : List String}
    {f : List (String × Datum) → List (String × Datum)}
    (hrecord : ∀ d fields, f (recordOf s d (atName name (Node.replaceAt new rest) fields)) =
      f (recordOf s d fields)) (d : Document) (node : Node) :
    (outcomeOf s d (Node.replaceAt new (name :: rest) node)).map (Datum.mapRecords f) =
      (outcomeOf s d node).map (Datum.mapRecords f) := by
  cases node with
  | source text => rfl
  | primitive p => rfl
  | nested fields => simp [Node.replaceAt, outcomeOf, Except.map, Datum.mapRecords, hrecord]
  | array selector item =>
    rcases hpages : itemPages s d selector with ⟨pages, _ | m⟩
    · simp [Node.replaceAt, outcomeOf_array_of_none hpages, Except.map, Datum.mapRecords, hrecord]
    · simp [Node.replaceAt, outcomeOf_array_of_some hpages, Except.map]

theorem without_recordOf_cons (name : String) (rest : List String) (d : Document)
    (field : String × Node) (fields : List (String × Node)) :
    without (name :: rest) (recordOf s d (field :: fields)) =
      without (name :: rest) (recordOf s d [field]) ++
        without (name :: rest) (recordOf s d fields) := by
  rw [← without_append, recordOf_cons, recordOf_cons d field.1 field.2 []]
  simp [recordOf]

/-- The records of a schema and of one with a new node are the same but for what is at the
position of the node. -/
theorem without_recordOf (new : Node) (name : String) (rest : List String) (d : Document)
    (fields : List (String × Node)) :
    without (name :: rest) (recordOf s d (atName name (Node.replaceAt new rest) fields)) =
      without (name :: rest) (recordOf s d fields) := by
  induction rest generalizing name d fields with
  | nil =>
    refine congr_atName (fun fields => without _ (recordOf s d fields))
      (without_recordOf_cons name _ d) (fun node => ?_) fields
    simp only [recordOf_cons, without]
    cases outcomeOf s d node <;> cases outcomeOf s d (Node.replaceAt new [] node) <;>
      simp [Except.toOption, recordOf]
  | cons second rest ih =>
    refine congr_atName (fun fields => without _ (recordOf s d fields))
      (without_recordOf_cons name _ d) (fun node => ?_) fields
    have hnode := outcomeOf_replaceAt (ih second) d node
    simp only [recordOf_cons, without]
    cases ho : outcomeOf s d node <;>
      cases hr : outcomeOf s d (Node.replaceAt new (second :: rest) node) <;>
      simp_all [Except.map, Except.toOption, atName]

theorem visits_cons (d : Document) (t : Trail) (name : String) (node : Node)
    (rest : List (String × Node)) :
    visits s d t ((name, node) :: rest) =
      visitsIn s d (t ++ [.field name]) node ++
        [⟨t ++ [.field name], node, outcomeOf s d node⟩] ++ visits s d t rest := by
  simp [visits]

mutual

theorem isWithin_of_mem_visits {s : Settings} {d : Document} {t : Trail}
    {fields : List (String × Node)} {v : Visit} (h : v ∈ visits s d t fields) :
    v.isWithin t.names := by
  cases fields with
  | nil => cases h
  | cons field rest =>
    obtain ⟨name, node⟩ := field
    rcases List.mem_append.mp h with h | h
    · have hnode := isWithin_of_mem_visitsIn h
      simp only [Visit.isWithin, Trail.names_field, List.isPrefixOf_iff_prefix] at hnode ⊢
      exact (List.prefix_append _ _).trans hnode
    · rcases List.mem_cons.mp h with rfl | h
      · simp [Visit.isWithin]
      · exact isWithin_of_mem_visits h

theorem isWithin_of_mem_visitsIn {s : Settings} {d : Document} {t : Trail} {node : Node}
    {v : Visit} (h : v ∈ visitsIn s d t node) : v.isWithin t.names := by
  cases node with
  | source text => cases h
  | primitive p => cases h
  | nested fields =>
    have hv : v ∈ visits s d t fields := h
    exact isWithin_of_mem_visits hv
  | array selector item =>
    obtain ⟨page, _, hv⟩ := List.mem_flatMap.mp h
    have hitem := isWithin_of_mem_visits hv
    rwa [Trail.names_item] at hitem

end

section Warnings

variable {d : Document} {t : Trail} {name : String} {node : Node} {fields : List (String × Node)}

theorem warningsOff_visits_cons (position : List String) (d : Document) (t : Trail)
    (field : String × Node) (fields : List (String × Node)) :
    Visit.warningsOff position (visits s d t (field :: fields)) =
      Visit.warningsOff position (visits s d t [field]) ++
        Visit.warningsOff position (visits s d t fields) := by
  rw [← Visit.warningsOff_append, visits_cons, visits_cons d t field.1 field.2 []]
  simp [visits]

/-- All warnings of a field are at its position or beneath it. -/
theorem warningsOff_field (o : Except Mishap Datum) :
    Visit.warningsOff (t.names ++ [name])
      (visitsIn s d (t ++ [.field name]) node ++ [⟨t ++ [.field name], node, o⟩]) = [] := by
  rw [Visit.warningsOff, List.filter_eq_nil_iff.mpr, Visit.warnings_nil]
  intro v hv
  rcases List.mem_append.mp hv with hv | hv
  · have hnode := isWithin_of_mem_visitsIn hv
    rw [Trail.names_field] at hnode
    simp [hnode]
  · rw [List.mem_singleton.mp hv]
    simp [Visit.isWithin]

/-- A field above a position has its own warning or none, whatever is at the position. -/
theorem warningsOff_above {second : String} {rest : List String} {node' : Node}
    {o o' : Except Mishap Datum} {f : Datum → Datum} (h : o'.map f = o.map f) :
    Visit.warningsOff (t.names ++ name :: second :: rest) [⟨t ++ [.field name], node', o'⟩] =
      Visit.warningsOff (t.names ++ name :: second :: rest) [⟨t ++ [.field name], node, o⟩] := by
  have habove : ∀ node o, Visit.isWithin (t.names ++ name :: second :: rest)
      ⟨t ++ [.field name], node, o⟩ = false := by
    intro node o
    rw [Visit.isWithin, Bool.eq_false_iff, Ne, List.isPrefixOf_iff_prefix, Trail.names_field]
    intro hprefix
    have hlength := hprefix.length_le
    simp at hlength
  rw [Visit.warningsOff_singleton (habove _ _), Visit.warningsOff_singleton (habove _ _)]
  cases o <;> cases o' <;> simp_all [Except.map, Visit.warning?]

/-- What is beneath a field above a position has the same warnings elsewhere, given that this is so
for schemas. -/
theorem warningsOff_visitsIn {second : String} {rest : List String}
    (hvisits : ∀ d t fields, Visit.warningsOff (t.names ++ second :: rest)
        (visits s d t (atName second (Node.replaceAt new rest) fields)) =
      Visit.warningsOff (t.names ++ second :: rest) (visits s d t fields))
    (d : Document) (t : Trail) (node : Node) :
    Visit.warningsOff (t.names ++ second :: rest)
        (visitsIn s d t (Node.replaceAt new (second :: rest) node)) =
      Visit.warningsOff (t.names ++ second :: rest) (visitsIn s d t node) := by
  cases node with
  | source text => rfl
  | primitive p => rfl
  | nested inner => exact hvisits d t inner
  | array selector item =>
    have hitem := fun page i => hvisits page (t ++ [.item i]) item
    simp only [Trail.names_item] at hitem
    simp only [visitsIn, Node.replaceAt, Visit.warningsOff_flatMap, hitem]

end Warnings

/-- The warnings of a schema and of one with a new node are the same but for those at or beneath the
position of the node. -/
theorem warningsOff_visits (new : Node) (name : String) (rest : List String) (d : Document)
    (t : Trail) (fields : List (String × Node)) :
    Visit.warningsOff (t.names ++ name :: rest)
        (visits s d t (atName name (Node.replaceAt new rest) fields)) =
      Visit.warningsOff (t.names ++ name :: rest) (visits s d t fields) := by
  induction rest generalizing name d t fields with
  | nil =>
    refine congr_atName (fun fields => Visit.warningsOff _ (visits s d t fields))
      (warningsOff_visits_cons _ d t) (fun node => ?_) fields
    rw [visits_cons, visits_cons, Visit.warningsOff_append _ _ (visits ..), warningsOff_field,
      Visit.warningsOff_append _ _ (visits ..), warningsOff_field]
  | cons second rest ih =>
    refine congr_atName (fun fields => Visit.warningsOff _ (visits s d t fields))
      (warningsOff_visits_cons _ d t) (fun node => ?_) fields
    have hbeneath := warningsOff_visitsIn (ih second) d (t ++ [.field name]) node
    rw [Trail.names_field, List.append_assoc, List.singleton_append] at hbeneath
    have houtcome := outcomeOf_replaceAt (s := s) (without_recordOf new second rest) d node
    rw [visits_cons, visits_cons]
    simp only [Visit.warningsOff_append]
    rw [hbeneath, warningsOff_above houtcome]

/-- A new node at a position of a schema changes no value of the result elsewhere, in any object or
item, nor the length of any list, nor the warnings of other fields or their order. -/
theorem scrape_isolated {s : Settings} {markup : String} {url : Option String} {d : Document}
    (hd : Document.ofMarkup markup url s.parser .asWritten = .ok d) (schema : Schema) (new : Node)
    (name : String) (rest : List String) :
    ∃ r r', schema.scrape s markup url = .ok r ∧
      (schema.replaceAt new name rest).scrape s markup url = .ok r' ∧
      without (name :: rest) r'.data = without (name :: rest) r.data ∧
      r.warnings = Visit.warnings (visits s d [] schema) ∧
      r'.warnings = Visit.warnings (visits s d [] (schema.replaceAt new name rest)) ∧
      Visit.warningsOff (name :: rest) (visits s d [] (schema.replaceAt new name rest)) =
        Visit.warningsOff (name :: rest) (visits s d [] schema) := by
  have hdata := without_recordOf (s := s) new name rest d schema
  have hwarnings := warningsOff_visits (s := s) new name rest d [] schema
  exact ⟨_, _, scrape_eq hd schema, scrape_eq hd _, hdata, rfl, rfl, hwarnings⟩

/-- A selector that cannot be read, inside the items of a list. -/
theorem scrape_isolated_items :
    ∃ d, Document.ofMarkup "<li>x</li><li>y</li>" none "html.parser" .asWritten = .ok d ∧
      ∃ r r', Schema.scrape [("items", .array "li" [("at", .source "url")])] {}
          "<li>x</li><li>y</li>" none = .ok r ∧
        (Schema.replaceAt (.primitive ⟨"(", .absent, none, .string⟩) "items" ["at"]
          [("items", .array "li" [("at", .source "url")])]).scrape {}
          "<li>x</li><li>y</li>" none = .ok r' ∧
        without ["items", "at"] r'.data = without ["items", "at"] r.data ∧
        r.warnings = Visit.warnings
          (visits {} d [] [("items", .array "li" [("at", .source "url")])]) ∧
        r'.warnings = Visit.warnings (visits {} d []
          (Schema.replaceAt (.primitive ⟨"(", .absent, none, .string⟩) "items" ["at"]
            [("items", .array "li" [("at", .source "url")])])) ∧
        Visit.warningsOff ["items", "at"] (visits {} d []
          (Schema.replaceAt (.primitive ⟨"(", .absent, none, .string⟩) "items" ["at"]
            [("items", .array "li" [("at", .source "url")])])) =
        Visit.warningsOff ["items", "at"] (visits {} d []
          [("items", .array "li" [("at", .source "url")])]) := by
  have hd : Document.ofMarkup "<li>x</li><li>y</li>" none "html.parser" .asWritten =
      .ok ⟨[.element "li" [] [.text .plain "x"], .element "li" [] [.text .plain "y"]], none,
        "html.parser"⟩ := by cbv
  exact ⟨_, hd, scrape_isolated hd _ (.primitive ⟨"(", .absent, none, .string⟩) "items" ["at"]⟩

end Schema

end Gleaner
