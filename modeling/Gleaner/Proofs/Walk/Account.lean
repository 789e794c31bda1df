import Gleaner.Proofs.Walk.Visit

/-! The account of a walk: records have the shape of their schemas, and the warnings are those of
the fields that are missing, one for each, in the order of the visits. -/

namespace Gleaner

def Datum.HasType : Field.FieldType → Datum → Prop
  | .number, d => ∃ x, d = .number x
  | .boolean, d => ∃ b, d = .truth b
  | .string, d => ∃ s, d = .text s

namespace Schema

/-- What may come of a node, read without regard to the page: sources and records are always there,
records have some of the names of their fields, in order, and what else is there has its kind. -/
def Node.Admits : Node → Except Mishap Datum → Prop
  | .source _, o => ∃ text, o = .ok (.text text)
  | .primitive p, o => ∀ v, o = .ok v → v.HasType p.type
  | .nested fields, o =>
    ∃ data, o = .ok (.record data) ∧ (data.map (·.1)).Sublist (fields.map (·.1))
  | .array _ item, o => ∀ v, o = .ok v → ∃ records : List (List (String × Datum)),
      v = .items (records.map .record) ∧
      ∀ record ∈ records, (record.map (·.1)).Sublist (item.map (·.1))

mutual

/-- `Built s d t fields data visits` says that `data` is a record for `fields` on the page `d`, and
that `visits` are the fields visited for it, in order: each field is either in the record, at its
turn, or visited in vain. -/
inductive Built (s : Settings) :
    Document → Trail → List (String × Node) → List (String × Datum) → List Visit → Prop where
  | nil {d : Document} {t : Trail} : Built s d t [] [] []
  | present {d : Document} {t : Trail} {name : String} {node : Node} {v : Datum}
      {rest : List (String × Node)} {data : List (String × Datum)} {inner others : List Visit} :
      Filled s d (t ++ [.field name]) node (.ok v) inner → Built s d t rest data others →
      Built s d t ((name, node) :: rest) ((name, v) :: data)
        (inner ++ ⟨t ++ [.field name], node, .ok v⟩ :: others)
  | missing {d : Document} {t : Trail} {name : String} {node : Node} {m : Mishap}
      {rest : List (String × Node)} {data : List (String × Datum)} {inner others : List Visit} :
      Filled s d (t ++ [.field name]) node (.error m) inner → Built s d t rest data others →
      Built s d t ((name, node) :: rest) data
        (inner ++ ⟨t ++ [.field name], node, .error m⟩ :: others)

/-- What may come of a field, and the visits beneath it. -/
inductive Filled (s : Settings) :
    Document → Trail → Node → Except Mishap Datum → List Visit → Prop where
  | source {d : Document} {t : Trail} {name text : String} :
      Filled s d t (.source name) (.ok (.text text)) []
  | primitive {d : Document} {t : Trail} {p : Primitive} {v : Datum} :
      v.HasType p.type → Filled s d t (.primitive p) (.ok v) []
  | unread {d : Document} {t : Trail} {p : Primitive} {m : Mishap} :
      Filled s d t (.primitive p) (.error m) []
  | nested {d : Document} {t : Trail} {fields : List (String × Node)}
      {data : List (String × Datum)} {inner : List Visit} :
      Built s d t fields data inner → Filled s d t (.nested fields) (.ok (.record data)) inner
  /-- A list has one record for each element found, in the order of the page. -/
  | array {d : Document} {t : Trail} {selector : String} {item : List (String × Node)}
      {found : List Markup.Place} {records : List (List (String × Datum))} {inner : List Visit} :
      d.query selector = .ok found → found.Sublist (Markup.Place.whole d.nodes).descendants →
      Listed s d t item 0 found records inner →
      Filled s d t (.array selector item) (.ok (.items (records.map .record))) inner
  | unsought {d : Document} {t : Trail} {selector : String} {item : List (String × Node)}
      {e : Selector.Refusal} :
      d.query selector = .error e →
      Filled s d t (.array selector item) (.error (.selector e)) []
  /-- The items before the one without a page have been visited by then. -/
  | cut {d : Document} {t : Trail} {selector : String} {item : List (String × Node)}
      {walked rest : List Markup.Place} {p : Markup.Place} {f : Document.Failure}
      {records : List (List (String × Datum))} {inner : List Visit} :
      d.query selector = .ok (walked ++ p :: rest) → Listed s d t item 0 walked records inner →
      d.rescope p (itemLocation s d) = .error f →
      Filled s d t (.array selector item) (.error (.page f)) inner

/-- One record for each element, built on the page of the element. -/
inductive Listed (s : Settings) : Document → Trail → List (String × Node) → Nat →
    List Markup.Place → List (List (String × Datum)) → List Visit → Prop where
  | nil {d : Document} {t : Trail} {item : List (String × Node)} {i : Nat} :
      Listed s d t item i [] [] []
  | cons {d page : Document} {t : Trail} {item : List (String × Node)} {i : Nat}
      {p : Markup.Place} {rest : List Markup.Place} {record : List (String × Datum)}
      {records : List (List (String × Datum))} {inner others : List Visit} :
      d.rescope p (itemLocation s d) = .ok page →
      Built s page (t ++ [.item i]) item record inner →
      Listed s d t item (i + 1) rest records others →
      Listed s d t item i (p :: rest) (record :: records) (inner ++ others)

end

variable {s : Settings} {d : Document} {t : Trail} {item fields : List (String × Node)}
  {data : List (String × Datum)} {vs : List Visit}

theorem sublist_of_query {selector : String} {found : List Markup.Place}
    (h : d.query selector = .ok found) :
    found.Sublist (Markup.Place.whole d.nodes).descendants := by
  rw [Document.query] at h
  cases hp : Selector.parse selector with
  | error e => simp [hp, Except.map] at h
  | ok parsed =>
    simp only [hp, Except.map, Except.ok.injEq] at h
    rw [← h]
    exact List.filter_sublist

theorem Primitive.hasType_of_resolve {p : Primitive} {v : Datum} (h : p.resolve d = .ok v) :
    v.HasType p.type := by
  have hread : ∀ raw, (p.type.read raw).HasType p.type := by
    intro raw
    cases p.type <;> exact ⟨_, rfl⟩
  simp only [resolve] at h
  split at h
  · cases h
  · split at h
    · cases h
      exact hread _
    · split at h
      · cases h
      · cases h
        exact hread _

/-- All elements with a page have their records listed. -/
theorem listed_of_pagesOf
    (hitem : ∀ page t, Built s page t item (recordOf s page item) (visits s page t item))
    {found : List Markup.Place} {pages : List Document} (k : Nat)
    (h : pagesOf d (itemLocation s d) found = (pages, none)) :
    Listed s d t item k found (pages.map fun page => recordOf s page item)
      ((pages.zipIdx k).flatMap fun page => visits s page.1 (t ++ [.item page.2]) item) := by
  induction found generalizing pages k with
  | nil =>
    cases h
    exact .nil
  | cons p rest ih =>
    rw [pagesOf] at h
    split at h
    next f hp => cases h
    next page hp =>
      obtain ⟨rfl, hstop⟩ := Prod.mk.inj h
      have hrest := ih (k + 1) (Prod.ext rfl hstop)
      simpa using Listed.cons hp (hitem page _) hrest

/-- The walk stops at the first element without a page. -/
theorem listed_of_pagesOf_some
    (hitem : ∀ page t, Built s page t item (recordOf s page item) (visits s page t item))
    {found : List Markup.Place} {pages : List Document} {m : Mishap} (k : Nat)
    (h : pagesOf d (itemLocation s d) found = (pages, some m)) :
    ∃ walked p rest f, found = walked ++ p :: rest ∧ m = .page f ∧
      d.rescope p (itemLocation s d) = .error f ∧
      Listed s d t item k walked (pages.map fun page => recordOf s page item)
        ((pages.zipIdx k).flatMap fun page => visits s page.1 (t ++ [.item page.2]) item) := by
  induction found generalizing pages k with
  | nil => cases h
  | cons p rest ih =>
    rw [pagesOf] at h
    split at h
    next f hp =>
      cases h
      exact ⟨[], p, rest, f, rfl, rfl, hp, .nil⟩
    next page hp =>
      obtain ⟨rfl, hstop⟩ := Prod.mk.inj h
      obtain ⟨walked, q, more, f, rfl, rfl, hq, hlisted⟩ := ih (k + 1) (Prod.ext rfl hstop)
      refine ⟨p :: walked, q, more, f, rfl, rfl, hq, ?_⟩
      simpa using Listed.cons hp (hitem page _) hlisted

mutual

theorem filled_outcomeOf (s : Settings) (d : Document) (t : Trail) (node : Node) :
    Filled s d t node (outcomeOf s d node) (visitsIn s d t node) := by
  cases node with
  | source name => exact .source
  | primitive p =>
    rw [outcomeOf, visitsIn]
    cases h : p.resolve d with
    | error m => exact .unread
    | ok v => exact .primitive (p.hasType_of_resolve h)
  | nested fields =>
    rw [outcomeOf, visitsIn]
    exact .nested (built_recordOf s d t fields)
  | array selector item =>
    have hitem := fun page t => built_recordOf s page t item
    cases hq : d.query selector with
    | error e =>
      have hpages := itemPages_of_error (s := s) hq
      rw [outcomeOf_array_of_some hpages, visitsIn, hpages]
      exact .unsought hq
    | ok found =>
      have hpages := itemPages_of_ok (s := s) hq
      rcases hstop : pagesOf d (itemLocation s d) found with ⟨pages, _ | m⟩
      · have hlisted := listed_of_pagesOf hitem (t := t) 0 hstop
        rw [hstop] at hpages
        rw [outcomeOf_array_of_none hpages, visitsIn, hpages]
        have hfilled := Filled.array hq (sublist_of_query hq) hlisted
        rwa [List.map_map] at hfilled
      · obtain ⟨walked, p, rest, f, rfl, rfl, hp, hlisted⟩ :=
          listed_of_pagesOf_some hitem (t := t) 0 hstop
        rw [hstop] at hpages
        rw [outcomeOf_array_of_some hpages, visitsIn, hpages]
        exact .cut hq hlisted hp

/-- The walk builds the record of fields by visiting each of them. -/
theorem built_recordOf (s : Settings) (d : Document) (t : Trail) (fields : List (String × Node)) :
    Built s d t fields (recordOf s d fields) (visits s d t fields) := by
  cases fields with
  | nil => exact .nil
  | cons field rest =>
    obtain ⟨name, node⟩ := field
    have hnode := filled_outcomeOf s d (t ++ [.field name]) node
    have hrest := built_recordOf s d t rest
    rw [recordOf, visits]
    cases h : outcomeOf s d node with
    | error m => exact .missing (h ▸ hnode) hrest
    | ok v => exact .present (h ▸ hnode) hrest

end

theorem Built.keys_sublist (h : Built s d t fields data vs) :
    (data.map (·.1)).Sublist (fields.map (·.1)) := by
  induction fields generalizing data vs with
  | nil =>
    cases h
    exact .slnil
  | cons field rest ih =>
    cases h with
    | present _ hrest => exact (ih hrest).cons_cons _
    | missing _ hrest => exact (ih hrest).cons _

theorem Listed.keys_sublist {i : Nat} {found : List Markup.Place}
    {records : List (List (String × Datum))} (h : Listed s d t item i found records vs) :
    ∀ record ∈ records, (record.map (·.1)).Sublist (item.map (·.1)) := by
  induction found generalizing i records vs with
  | nil =>
    cases h
    simp
  | cons p rest ih =>
    cases h with
    | cons hp hrecord hrest =>
      intro record hmem
      rcases List.mem_cons.mp hmem with rfl | hmem
      · exact hrecord.keys_sublist
      · exact ih hrest record hmem

theorem Filled.admits {node : Node} {o : Except Mishap Datum} (h : Filled s d t node o vs) :
    node.Admits o := by
  cases h with
  | source => exact ⟨_, rfl⟩
  | primitive hv =>
    rintro _ ⟨⟩
    exact hv
  | unread => rintro _ ⟨⟩
  | nested hbuilt => exact ⟨_, rfl, hbuilt.keys_sublist⟩
  | array _ _ hlisted =>
    rintro _ ⟨⟩
    exact ⟨_, rfl, hlisted.keys_sublist⟩
  | unsought => rintro _ ⟨⟩
  | cut => rintro _ ⟨⟩

mutual

/-- Every visit beneath a record comes to something that its node admits. -/
theorem Built.admits {s : Settings} {d : Document} {t : Trail} {fields : List (String × Node)}
    {data : List (String × Datum)} {vs : List Visit} :
    Built s d t fields data vs → ∀ v ∈ vs, v.node.Admits v.outcome
  | .nil => List.forall_mem_nil _
  | .present hnode hrest =>
    List.forall_mem_append.mpr
      ⟨hnode.admits_beneath, List.forall_mem_cons.mpr ⟨hnode.admits, hrest.admits⟩⟩
  | .missing hnode hrest =>
    List.forall_mem_append.mpr
      ⟨hnode.admits_beneath, List.forall_mem_cons.mpr ⟨hnode.admits, hrest.admits⟩⟩

theorem Filled.admits_beneath {s : Settings} {d : Document} {t : Trail} {node : Node}
    {o : Except Mishap Datum} {vs : List Visit} :
    Filled s d t node o vs → ∀ v ∈ vs, v.node.Admits v.outcome
  | .source => List.forall_mem_nil _
  | .primitive _ => List.forall_mem_nil _
  | .unread => List.forall_mem_nil _
  | .nested hbuilt => hbuilt.admits
  | .array _ _ hlisted => hlisted.admits
  | .unsought _ => List.forall_mem_nil _
  | .cut _ hlisted _ => hlisted.admits

theorem Listed.admits {s : Settings} {d : Document} {t : Trail} {item : List (String × Node)}
    {i : Nat} {found : List Markup.Place} {records : List (List (String × Datum))}
    {vs : List Visit} :
    Listed s d t item i found records vs → ∀ v ∈ vs, v.node.Admits v.outcome
  | .nil => List.forall_mem_nil _
  | .cons _ hrecord hrest => List.forall_mem_append.mpr ⟨hrecord.admits, hrest.admits⟩

end

/-- A scrape of a page that can be read has a result. Its data is built by visiting the fields of
the schema in order, each visit comes to what its node admits, and the warnings are those of the
visits that come to nothing, one for each and in their order. -/
theorem scrape_accounts {s : Settings} {markup : String} {url : Option String} {d : Document}
    (hd : Document.ofMarkup markup url s.parser .asWritten = .ok d) (schema : Schema) :
    ∃ r vs, schema.scrape s markup url = .ok r ∧ Built s d [] schema r.data vs ∧
      (r.data.map (·.1)).Sublist (schema.map (·.1)) ∧ (∀ v ∈ vs, v.node.Admits v.outcome) ∧
      r.warnings = vs.filterMap Visit.warning? ∧ r.url = url := by
  have hbuilt := built_recordOf s d [] schema
  exact ⟨_, _, scrape_eq hd schema, hbuilt, hbuilt.keys_sublist, hbuilt.admits, rfl, rfl⟩

/-- The field of the items has a selector that cannot be read. -/
theorem scrape_accounts_items :
    ∃ d, Document.ofMarkup "<li>x</li><li>y</li>" none Document.defaultParser .asWritten = .ok d ∧
      ∃ r vs, Schema.scrape [("items", .array "li"
          [("name", .primitive ⟨"(", .absent, none, .string⟩), ("at", .source "url")])] {}
          "<li>x</li><li>y</li>" none = .ok r ∧
        Built {} d [] [("items", .array "li"
          [("name", .primitive ⟨"(", .absent, none, .string⟩), ("at", .source "url")])] r.data vs ∧
        (r.data.map (·.1)).Sublist ["items"] ∧ (∀ v ∈ vs, v.node.Admits v.outcome) ∧
        r.warnings = vs.filterMap Visit.warning? ∧ r.url = none := by
  have hd : Document.ofMarkup "<li>x</li><li>y</li>" none Document.defaultParser .asWritten =
      .ok ⟨[.element "li" [] [.text .plain "x"], .element "li" [] [.text .plain "y"]], none,
        "html.parser"⟩ := by cbv
  exact ⟨_, hd, scrape_accounts hd _⟩

end Schema

end Gleaner
