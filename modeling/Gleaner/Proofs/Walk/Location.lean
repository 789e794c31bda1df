import Gleaner.Proofs.Walk.Visit

/-! Where the location of a page shows. Scrapes of one page under two locations differ in the fields
that tell the address and nowhere else, and items tell it if it propagates and only then. -/

namespace Gleaner

namespace Document

/-- The page as if it had been loaded from a location. -/
def relocate (d : Document) (location : Option String) : Document := { d with location }

variable {d : Document} {location : Option String}

theorem ofMarkup_eq_map (markup : String) (location : Option String) (parser : String)
    (rule : Markup.WordRule) :
    ofMarkup markup location parser rule =
      (ofMarkup markup none parser rule).map (·.relocate location) := by
  unfold ofMarkup
  split
  · rfl
  · cases Markup.parse markup rule <;> rfl

theorem query_relocate (selector : String) :
    (d.relocate location).query selector = d.query selector := rfl

theorem resolve_relocate (p : Schema.Primitive) :
    p.resolve (d.relocate location) = p.resolve d := by
  unfold Schema.Primitive.resolve
  rw [query_relocate]

theorem rescope_relocate (p : Markup.Place) (inner : Option String) :
    (d.relocate location).rescope p inner = (d.rescope p none).map (·.relocate inner) :=
  ofMarkup_eq_map p.render inner d.parser .asWritten

end Document

namespace Schema

/-- The address that a record tells, given the location of the whole page. -/
def told (s : Settings) (inItem : Bool) (url : Option String) : String :=
  if inItem && !s.propagates then "" else url.getD ""

mutual

/-- `Twin s u u' d inItem node v v'` says that `v` and `v'` are values of a node on the page `d`
that differ at most in what the fields for the address tell: there one tells `u` and the other `u'`,
or neither of them anything, in items of lists that are not told the location. -/
inductive Twin (s : Settings) (u u' : Option String) :
    Document → Bool → Node → Datum → Datum → Prop where
  | address {d : Document} {inItem : Bool} {name : String} : Text.lower name = addressName →
      Twin s u u' d inItem (.source name) (.text (told s inItem u)) (.text (told s inItem u'))
  | source {d : Document} {inItem : Bool} {name : String} : Text.lower name ≠ addressName →
      Twin s u u' d inItem (.source name) (.text "") (.text "")
  | primitive {d : Document} {inItem : Bool} {p : Primitive} {v : Datum} :
      p.resolve d = .ok v → Twin s u u' d inItem (.primitive p) v v
  | nested {d : Document} {inItem : Bool} {fields : List (String × Node)}
      {data data' : List (String × Datum)} : TwinFields s u u' d inItem fields data data' →
      Twin s u u' d inItem (.nested fields) (.record data) (.record data')
  | array {d : Document} {inItem : Bool} {selector : String} {item : List (String × Node)}
      {pages : List Document} {records records' : List (List (String × Datum))} :
      itemPages s d selector = (pages, none) → TwinItems s u u' item pages records records' →
      Twin s u u' d inItem (.array selector item) (.items (records.map .record))
        (.items (records'.map .record))

/-- Records with the same fields: all of them but those whose node comes to a mishap. -/
inductive TwinFields (s : Settings) (u u' : Option String) : Document → Bool →
    List (String × Node) → List (String × Datum) → List (String × Datum) → Prop where
  | nil {d : Document} {inItem : Bool} : TwinFields s u u' d inItem [] [] []
  | present {d : Document} {inItem : Bool} {name : String} {node : Node} {v v' : Datum}
      {rest : List (String × Node)} {data data' : List (String × Datum)} :
      Twin s u u' d inItem node v v' → TwinFields s u u' d inItem rest data data' →
      TwinFields s u u' d inItem ((name, node) :: rest) ((name, v) :: data) ((name, v') :: data')
  | missing {d : Document} {inItem : Bool} {name : String} {node : Node} {m : Mishap}
      {rest : List (String × Node)} {data data' : List (String × Datum)} :
      outcomeOf s d node = .error m → TwinFields s u u' d inItem rest data data' →
      TwinFields s u u' d inItem ((name, node) :: rest) data data'

/-- Lists with an item for each page. -/
inductive TwinItems (s : Settings) (u u' : Option String) : List (String × Node) →
    List Document → List (List (String × Datum)) → List (List (String × Datum)) → Prop where
  | nil {item : List (String × Node)} : TwinItems s u u' item [] [] []
  | cons {item : List (String × Node)} {page : Document} {pages : List Document}
      {record record' : List (String × Datum)} {records records' : List (List (String × Datum))} :
      TwinFields s u u' page true item record record' →
      TwinItems s u u' item pages records records' →
      TwinItems s u u' item (page :: pages) (record :: records) (record' :: records')

end

/-- What comes of a field in two scrapes: twin values, or the same mishap. -/
inductive TwinOutcome (s : Settings) (u u' : Option String) (d : Document) (inItem : Bool)
    (node : Node) : Except Mishap Datum → Except Mishap Datum → Prop where
  | value {v v' : Datum} : Twin s u u' d inItem node v v' →
      TwinOutcome s u u' d inItem node (.ok v) (.ok v')
  | mishap {m : Mishap} : outcomeOf s d node = .error m →
      TwinOutcome s u u' d inItem node (.error m) (.error m)

section Pages

variable {s : Settings} {d : Document} {selector : String} {location : Option String}

theorem pagesOf_relocate (location inner : Option String) (found : List Markup.Place) :
    pagesOf (d.relocate location) inner found =
      ((pagesOf d none found).1.map (·.relocate inner), (pagesOf d none found).2) := by
  induction found with
  | nil => rfl
  | cons p rest ih =>
    simp only [pagesOf, Document.rescope_relocate, ih]
    cases d.rescope p none <;> rfl

/-- The items of an array have the same pages under all locations, but for their location. -/
theorem itemPages_relocate (s : Settings) (d : Document) (selector : String) :
    ∃ (pages : List Document) (stop : Option Mishap), ∀ location : Option String,
      itemPages s (d.relocate location) selector =
        (pages.map (·.relocate (if s.propagates then location else none)), stop) := by
  cases hq : d.query selector with
  | error e => exact ⟨[], _, fun location => itemPages_of_error hq⟩
  | ok found =>
    refine ⟨(pagesOf d none found).1, (pagesOf d none found).2, fun location => ?_⟩
    rw [itemPages_of_ok ((Document.query_relocate selector).trans hq), pagesOf_relocate]
    rfl

end Pages

section Twins

variable {s : Settings} {u u' : Option String}

/-- What a record tells is what the items of its lists tell, if they are told the location. -/
theorem getD_itemLocation {l : Option String} {inItem : Bool} (h : l.getD "" = told s inItem u) :
    (if s.propagates then l else none).getD "" = told s true u := by
  cases hs : s.propagates <;> simp [told, hs] at h ⊢
  exact h

theorem twin_resolveSource {l l' : Option String} {inItem : Bool} (h : l.getD "" = told s inItem u)
    (h' : l'.getD "" = told s inItem u') (d : Document) (name : String) :
    Twin s u u' d inItem (.source name) (resolveSource name (d.relocate l))
      (resolveSource name (d.relocate l')) := by
  by_cases hname : Text.lower name = addressName
  · simp only [resolveSource, Document.relocate, hname, if_true, h, h']
    exact .address hname
  · simp only [resolveSource, hname, if_false]
    exact .source hname

theorem twinItems_map {item : List (String × Node)} {l l' : Option String}
    (h : ∀ page : Document, TwinFields s u u' page true item (recordOf s (page.relocate l) item)
      (recordOf s (page.relocate l') item)) (inner : Option String) (pages : List Document) :
    TwinItems s u u' item (pages.map (·.relocate inner))
      (pages.map fun page => recordOf s (page.relocate l) item)
      (pages.map fun page => recordOf s (page.relocate l') item) := by
  induction pages with
  | nil => exact .nil
  | cons page rest ih => exact .cons (h (page.relocate inner)) ih

theorem twin_array {item : List (String × Node)} {l l' : Option String} {inItem : Bool}
    (d : Document) (selector : String)
    (hitem : ∀ page : Document, TwinFields s u u' page true item
      (recordOf s (page.relocate (if s.propagates then l else none)) item)
      (recordOf s (page.relocate (if s.propagates then l' else none)) item)) :
    TwinOutcome s u u' d inItem (.array selector item)
      (outcomeOf s (d.relocate l) (.array selector item))
      (outcomeOf s (d.relocate l') (.array selector item)) := by
  obtain ⟨pages, stop, hpages⟩ := itemPages_relocate s d selector
  cases stop with
  | none =>
    rw [outcomeOf_array_of_none (hpages l), outcomeOf_array_of_none (hpages l')]
    have hitems : Twin s u u' d inItem (.array selector item) _ _ :=
      .array (hpages d.location) (twinItems_map hitem _ pages)
    simp only [List.map_map] at hitems ⊢
    exact .value hitems
  | some m =>
    rw [outcomeOf_array_of_some (hpages l), outcomeOf_array_of_some (hpages l')]
    exact .mishap (outcomeOf_array_of_some (hpages d.location))

mutual

theorem twin_outcomeOf {l l' : Option String} {inItem : Bool} (d : Document)
    (h : l.getD "" = told s inItem u) (h' : l'.getD "" = told s inItem u') (node : Node) :
    TwinOutcome s u u' d inItem node (outcomeOf s (d.relocate l) node)
      (outcomeOf s (d.relocate l') node) := by
  cases node with
  | source name =>
    rw [outcomeOf, outcomeOf]
    exact .value (twin_resolveSource h h' d name)
  | primitive p =>
    rw [outcomeOf, outcomeOf, Document.resolve_relocate, Document.resolve_relocate]
    cases hp : p.resolve d with
    | error m => exact .mishap hp
    | ok v => exact .value (.primitive hp)
  | nested fields =>
    rw [outcomeOf, outcomeOf]
    exact .value (.nested (twin_recordOf d h h' fields))
  | array selector item =>
    exact twin_array d selector fun page =>
      twin_recordOf page (getD_itemLocation h) (getD_itemLocation h') item

/-- The records of one page under two locations are twins. -/
theorem twin_recordOf {l l' : Option String} {inItem : Bool} (d : Document)
    (h : l.getD "" = told s inItem u) (h' : l'.getD "" = told s inItem u')
    (fields : List (String × Node)) :
    TwinFields s u u' d inItem fields (recordOf s (d.relocate l) fields)
      (recordOf s (d.relocate l') fields) := by
  cases fields with
  | nil => exact .nil
  | cons field rest =>
    obtain ⟨name, node⟩ := field
    have hnode := twin_outcomeOf d h h' node
    have hrest := twin_recordOf d h h' rest
    rw [recordOf, recordOf]
    generalize outcomeOf s (d.relocate l) node = o at hnode
    generalize outcomeOf s (d.relocate l') node = o' at hnode
    cases hnode with
    | value hv => exact .present hv hrest
    | mishap hm => exact .missing hm hrest

end

theorem warning?_of_twin {d : Document} {inItem : Bool} {node : Node}
    {o o' : Except Mishap Datum} (h : TwinOutcome s u u' d inItem node o o') (t : Trail) :
    (⟨t, node, o⟩ : Visit).warning? = (⟨t, node, o'⟩ : Visit).warning? := by
  cases h <;> rfl

mutual

theorem warnings_visitsIn_relocate {l l' : Option String} {inItem : Bool} (d : Document)
    (h : l.getD "" = told s inItem u) (h' : l'.getD "" = told s inItem u') (t : Trail)
    (node : Node) :
    Visit.warnings (visitsIn s (d.relocate l) t node) =
      Visit.warnings (visitsIn s (d.relocate l') t node) := by
  cases node with
  | source name => rfl
  | primitive p => rfl
  | nested fields => exact warnings_visits_relocate d h h' t fields
  | array selector item =>
    obtain ⟨pages, stop, hpages⟩ := itemPages_relocate s d selector
    have hitem := fun page i => warnings_visits_relocate page (getD_itemLocation h)
      (getD_itemLocation h') (t ++ [.item i]) item
    simp only [visitsIn, hpages, Visit.warnings_flatMap, List.zipIdx_map, List.flatMap_map,
      Prod.map_fst, Prod.map_snd, id, hitem]

/-- The warnings for one page are the same under all locations. -/
theorem warnings_visits_relocate {l l' : Option String} {inItem : Bool} (d : Document)
    (h : l.getD "" = told s inItem u) (h' : l'.getD "" = told s inItem u') (t : Trail)
    (fields : List (String × Node)) :
    Visit.warnings (visits s (d.relocate l) t fields) =
      Visit.warnings (visits s (d.relocate l') t fields) := by
  cases fields with
  | nil => rfl
  | cons field rest =>
    obtain ⟨name, node⟩ := field
    have hinner := warnings_visitsIn_relocate d h h' (t ++ [.field name]) node
    have hown := warning?_of_twin (twin_outcomeOf d h h' node) (t ++ [.field name])
    have hrest := warnings_visits_relocate d h h' t rest
    simp only [visits, Visit.warnings_append, Visit.warnings_cons, hinner, hown, hrest]

end

end Twins

/-- Scrapes of one markup under two locations are refused alike, or they have the same warnings and
twin data: the same shape and the same values, but for the fields that tell the address. Those are
all there, and tell what they are told: the location, except in items that it does not reach. -/
theorem scrape_twins (schema : Schema) (s : Settings) (markup : String) (u u' : Option String) :
    (∃ m, schema.scrape s markup u = .error m ∧ schema.scrape s markup u' = .error m) ∨
      ∃ d r r', Document.ofMarkup markup none s.parser .asWritten = .ok d ∧
        schema.scrape s markup u = .ok r ∧ schema.scrape s markup u' = .ok r' ∧
        r.warnings = r'.warnings ∧ TwinFields s u u' d false schema r.data r'.data := by
  have hu := Document.ofMarkup_eq_map markup u s.parser .asWritten
  have hu' := Document.ofMarkup_eq_map markup u' s.parser .asWritten
  cases hd : Document.ofMarkup markup none s.parser .asWritten with
  | error f =>
    rw [hd] at hu hu'
    left
    exact ⟨.page f, by rw [scrape, hu]; rfl, by rw [scrape, hu']; rfl⟩
  | ok d =>
    rw [hd] at hu hu'
    have htold : ∀ url : Option String, url.getD "" = told s false url := fun url => rfl
    right
    exact ⟨_, _, _, rfl, scrape_eq hu schema, scrape_eq hu' schema,
      warnings_visits_relocate d (htold u) (htold u') [] schema,
      twin_recordOf d (htold u) (htold u') schema⟩

/-- The address, and the items of a list with it. -/
def addressed : Schema := [("at", .source "url"), ("items", .array "li" [("at", .source "URL")])]

/-- What a page of one item tells of its address, and what the item tells of it. -/
def telling (address inItem : String) : List (String × Datum) :=
  [("at", .text address), ("items", .items [.record [("at", .text inItem)]])]

/-- Scrapes under two addresses, where items are told the location or not. -/
def Addressed (propagates : Bool) : Prop := ∃ d r r',
  Document.ofMarkup "<li>x</li>" none "html.parser" .asWritten = .ok d ∧
  addressed.scrape { propagates } "<li>x</li>" (some "u") = .ok r ∧
  addressed.scrape { propagates } "<li>x</li>" (some "v") = .ok r' ∧
  r.data = telling "u" (if propagates then "u" else "") ∧
  r'.data = telling "v" (if propagates then "v" else "") ∧
  TwinFields { propagates } (some "u") (some "v") d false addressed r.data r'.data

theorem scrape_twins_items : Addressed true ∧ Addressed false := by
  suffices h : ∀ propagates, Addressed propagates from ⟨h true, h false⟩
  intro propagates
  let page (location : Option String) : Document :=
    ⟨[.element "li" [] [.text .plain "x"]], location, "html.parser"⟩
  let li : Markup.Place := .mk ⟨"li", [], [.text .plain "x"]⟩ [] []
    (some (.whole [.element "li" [] [.text .plain "x"]]))
  have hd (location : Option String) :
      Document.ofMarkup "<li>x</li>" location "html.parser" .asWritten = .ok (page location) := by
    rw [Document.ofMarkup_eq_map]
    cbv
  have hquery (location : Option String) : (page location).query "li" = .ok [li] := by
    cbv
  have hrender : li.render = "<li>x</li>" := by decide +kernel
  have hpages (location : Option String) : itemPages { propagates } (page location) "li" =
      ([page (if propagates then location else none)], none) := by
    rw [itemPages_of_ok (hquery location)]
    simp [itemLocation, pagesOf, Document.rescope, hrender, hd, page]
  have hdata (location : String) :
      recordOf { propagates } (page (some location)) addressed =
        telling location (if propagates then location else "") := by
    have hlower : Text.lower "url" = addressName ∧ Text.lower "URL" = addressName := by
      decide +kernel
    simp [addressed, telling, recordOf, outcomeOf, hpages, resolveSource, hlower, Except.toOption,
      page]
    split <;> rfl
  rcases scrape_twins addressed { propagates } "<li>x</li>" (some "u") (some "v") with
    ⟨m, hm, -⟩ | ⟨d, r, r', hpage, hr, hr', -, htwins⟩
  · have hscrape := scrape_eq (s := { propagates }) (hd (some "u")) addressed
    rw [hscrape] at hm
    cases hm
  · refine ⟨d, r, r', hpage, hr, hr', ?_, ?_, htwins⟩
    · obtain rfl := Except.ok.inj
        ((scrape_eq (s := { propagates }) (hd (some "u")) addressed).symm.trans hr)
      exact hdata "u"
    · obtain rfl := Except.ok.inj
        ((scrape_eq (s := { propagates }) (hd (some "v")) addressed).symm.trans hr')
      exact hdata "v"

end Schema

end Gleaner
