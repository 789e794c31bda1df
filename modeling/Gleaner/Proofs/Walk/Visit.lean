import Gleaner.Scrape.Walk
import Mathlib

/-! What a walk visits, field by field, and what comes of each of them. The record and the warnings
of a walk are read off its visits. -/

namespace Gleaner

/-- A step on the way to a field: into a field of a record, or to an item of a list. -/
inductive Trail.Step where
  | field (name : String)
  | item (i : Nat)
  deriving DecidableEq

/-- The way from the root of a result. Other than its route, it tells apart a point within a name
from a point between two. -/
abbrev Trail := List Trail.Step

namespace Trail

def Step.onto (route : String) : Step → String
  | field name => Route.field route name
  | item i => Route.item route i

/-- The route that a trail is written as. -/
def route (t : Trail) : String := t.foldl Step.onto ""

@[simp] theorem route_nil : route [] = "" := rfl

theorem route_append (t u : Trail) : route (t ++ u) = u.foldl Step.onto (route t) := by
  simp [route]

@[simp] theorem route_field (t : Trail) (name : String) :
    route (t ++ [.field name]) = Route.field (route t) name := by
  simp [route_append, Step.onto]

@[simp] theorem route_item (t : Trail) (i : Nat) :
    route (t ++ [.item i]) = Route.item (route t) i := by
  simp [route_append, Step.onto]

end Trail

/-- A field of a record that the walk builds, and its value there or why it has none. -/
structure Visit where
  trail : Trail
  node : Schema.Node
  outcome : Except Mishap Datum

namespace Visit

/-- The warning of a field: one if it is missing, none if it is there. -/
def warning? (v : Visit) : Option Warning :=
  match v.outcome with
  | .ok _ => none
  | .error m => some ⟨v.trail.route, m⟩

def warnings (vs : List Visit) : List Warning := vs.filterMap warning?

@[simp] theorem warnings_nil : warnings [] = [] := rfl

@[simp] theorem warnings_append (vs ws : List Visit) :
    warnings (vs ++ ws) = warnings vs ++ warnings ws := by
  simp [warnings]

theorem warnings_cons (v : Visit) (vs : List Visit) :
    warnings (v :: vs) = v.warning?.toList ++ warnings vs := by
  cases h : v.warning? <;> simp [warnings, h]

theorem warnings_flatMap {α : Type} (f : α → List Visit) (as : List α) :
    warnings (as.flatMap f) = as.flatMap fun a => warnings (f a) := by
  simp [warnings, List.filterMap_flatMap]

end Visit

namespace Schema

/-- The pages of elements, each on its own, up to the first that is refused. -/
def pagesOf (d : Document) (location : Option String) :
    List Markup.Place → List Document × Option Mishap
  | [] => ([], none)
  | p :: rest => match d.rescope p location with
    | .error f => ([], some (.page f))
    | .ok page => (page :: (pagesOf d location rest).1, (pagesOf d location rest).2)

/-- The location that the items of an array have. -/
def itemLocation (s : Settings) (d : Document) : Option String :=
  if s.propagates then d.location else none

/-- The pages of the items of an array, and what keeps the walk from having them all. -/
def itemPages (s : Settings) (d : Document) (selector : String) :
    List Document × Option Mishap :=
  match d.query selector with
  | .error e => ([], some (.selector e))
  | .ok found => pagesOf d (itemLocation s d) found

mutual

/-- What comes of a field on a page, wherever it stands. -/
def outcomeOf (s : Settings) (d : Document) : Node → Except Mishap Datum
  | .source name => .ok (resolveSource name d)
  | .primitive p => p.resolve d
  | .nested fields => .ok (.record (recordOf s d fields))
  | .array selector item => match itemPages s d selector with
    | (_, some m) => .error m
    | (pages, none) => .ok (.items (pages.map fun page => .record (recordOf s page item)))

/-- The record of fields on a page: those that have a value, in the order of declaration. -/
def recordOf (s : Settings) (d : Document) : List (String × Node) → List (String × Datum)
  | [] => []
  | (name, node) :: rest =>
    ((outcomeOf s d node).toOption.map (name, ·)).toList ++ recordOf s d rest

end

mutual

/-- The visits beneath a field. -/
def visitsIn (s : Settings) (d : Document) (t : Trail) : Node → List Visit
  | .source _ => []
  | .primitive _ => []
  | .nested fields => visits s d t fields
  | .array selector item =>
    (itemPages s d selector).1.zipIdx.flatMap fun page =>
      visits s page.1 (t ++ [.item page.2]) item

/-- The visits to the fields of a record, in the order of the walk: a field comes after all that is
beneath it. -/
def visits (s : Settings) (d : Document) (t : Trail) : List (String × Node) → List Visit
  | [] => []
  | (name, node) :: rest =>
    visitsIn s d (t ++ [.field name]) node ++
      ⟨t ++ [.field name], node, outcomeOf s d node⟩ :: visits s d t rest

end

section Pages

variable {s : Settings} {d : Document} {selector : String} {item : List (String × Node)}
  {pages : List Document} {m : Mishap}

theorem itemPages_of_error {e : Selector.Refusal} (h : d.query selector = .error e) :
    itemPages s d selector = ([], some (.selector e)) := by
  simp [itemPages, h]

theorem itemPages_of_ok {found : List Markup.Place} (h : d.query selector = .ok found) :
    itemPages s d selector = pagesOf d (itemLocation s d) found := by
  simp [itemPages, h]

theorem outcomeOf_array_of_none (h : itemPages s d selector = (pages, none)) :
    outcomeOf s d (.array selector item) =
      .ok (.items (pages.map fun page => .record (recordOf s page item))) := by
  simp [outcomeOf, h]

theorem outcomeOf_array_of_some (h : itemPages s d selector = (pages, some m)) :
    outcomeOf s d (.array selector item) = .error m := by
  simp [outcomeOf, h]

end Pages

section Gather

variable {d : Document} {location : Option String} (record : Document → List (String × Datum))
  (warnings : Nat → Document → List Warning)
  {walk : Nat → Markup.Place → Except Mishap (Yield (List (String × Datum)))}

theorem gather_zipIdx
    (hok : ∀ i p page, d.rescope p location = .ok page →
      walk i p = .ok ⟨record page, warnings i page⟩)
    (herror : ∀ i p f, d.rescope p location = .error f → walk i p = .error (.page f))
    (found : List Markup.Place) (k : Nat) :
    gather ((found.zipIdx k).map fun p => walk p.2 p.1) =
      ⟨match (pagesOf d location found).2 with
        | some m => .error m
        | none => .ok ((pagesOf d location found).1.map fun page => .record (record page)),
        ((pagesOf d location found).1.zipIdx k).flatMap fun page => warnings page.2 page.1⟩ := by
  induction found generalizing k with
  | nil => rfl
  | cons p rest ih =>
    cases hp : d.rescope p location with
    | error f => simp [gather, pagesOf, hp, herror k p f hp]
    | ok page =>
      cases hstop : (pagesOf d location rest).2 with
      | none => simp [gather, pagesOf, hp, hok k p page hp, hstop, ih, Except.map]
      | some m => simp [gather, pagesOf, hp, hok k p page hp, hstop, ih, Except.map]

/-- Gathering goes through the pages of the items up to the first that is refused. -/
theorem gather_mapIdx
    (hok : ∀ i p page, d.rescope p location = .ok page →
      walk i p = .ok ⟨record page, warnings i page⟩)
    (herror : ∀ i p f, d.rescope p location = .error f → walk i p = .error (.page f))
    (found : List Markup.Place) :
    gather (found.mapIdx walk) =
      ⟨match (pagesOf d location found).2 with
        | some m => .error m
        | none => .ok ((pagesOf d location found).1.map fun page => .record (record page)),
        (pagesOf d location found).1.zipIdx.flatMap fun page => warnings page.2 page.1⟩ := by
  rw [List.mapIdx_eq_zipIdx_map]
  exact gather_zipIdx record warnings hok herror found 0

end Gather

theorem orWarn_eq (t : Trail) (node : Node) (outcome : Except Mishap Datum) (ws : List Warning) :
    orWarn t.route ⟨outcome, ws⟩ =
      ⟨outcome.toOption, ws ++ Visit.warnings [⟨t, node, outcome⟩]⟩ := by
  cases outcome <;> simp [orWarn, Visit.warnings, Visit.warning?, Except.toOption]

mutual

/-- The walk of a field yields its outcome, and the warnings of all visits up to its own. -/
theorem walkNode_eq (s : Settings) (d : Document) (t : Trail) (node : Node) :
    walkNode s d t.route node =
      ⟨(outcomeOf s d node).toOption,
        Visit.warnings (visitsIn s d t node ++ [⟨t, node, outcomeOf s d node⟩])⟩ := by
  cases node with
  | source name =>
    rw [walkNode, visitsIn, outcomeOf]
    rfl
  | primitive p =>
    rw [walkNode, orWarn_eq t (.primitive p), visitsIn, outcomeOf, List.nil_append,
      List.nil_append]
  | nested fields =>
    have hfields := walkFields_eq s d t fields
    rw [walkNode, visitsIn, outcomeOf, hfields, Visit.warnings_append]
    simp [Visit.warnings_cons, Visit.warning?, Except.toOption]
  | array selector item =>
    have hitem : ∀ i page, walkFields s page (Route.item t.route i) item =
        ⟨recordOf s page item, Visit.warnings (visits s page (t ++ [.item i]) item)⟩ := by
      intro i page
      have hfields := walkFields_eq s page (t ++ [.item i]) item
      rwa [Trail.route_item] at hfields
    rw [walkNode]
    cases hq : d.query selector with
    | error e =>
      have hpages := itemPages_of_error (s := s) hq
      simp only [orWarn_eq t (.array selector item), visitsIn, outcomeOf, hpages]
      rfl
    | ok found =>
      have hpages := itemPages_of_ok (s := s) hq
      simp only [← itemLocation.eq_def]
      rw [gather_mapIdx (fun page => recordOf s page item)
        fun i page => Visit.warnings (visits s page (t ++ [.item i]) item)]
      · simp only [orWarn_eq t (.array selector item), visitsIn, outcomeOf, hpages]
        rcases pagesOf d (itemLocation s d) found with ⟨pages, _ | m⟩
        · simp [Except.map, Visit.warnings_flatMap]
        · simp [Except.map, Visit.warnings_flatMap]
      · intro i p page hp
        simp only [hp, hitem]
      · intro i p f hp
        simp only [hp]

/-- The walk of a record yields the record of its fields, and the warnings of its visits. -/
theorem walkFields_eq (s : Settings) (d : Document) (t : Trail) (fields : List (String × Node)) :
    walkFields s d t.route fields =
      ⟨recordOf s d fields, Visit.warnings (visits s d t fields)⟩ := by
  cases fields with
  | nil => rfl
  | cons field rest =>
    obtain ⟨name, node⟩ := field
    have hnode := walkNode_eq s d (t ++ [.field name]) node
    have hrest := walkFields_eq s d t rest
    rw [Trail.route_field] at hnode
    rw [walkFields, recordOf, visits]
    simp [hnode, hrest, Visit.warnings_cons]

end

/-- A scrape of a page that can be read yields the record and the warnings of its visits. -/
theorem scrape_eq {s : Settings} {markup : String} {url : Option String} {d : Document}
    (hd : Document.ofMarkup markup url s.parser .asWritten = .ok d) (schema : Schema) :
    schema.scrape s markup url =
      .ok ⟨recordOf s d schema, Visit.warnings (visits s d [] schema), url⟩ := by
  have hwalk := walkFields_eq s d [] schema
  rw [Trail.route_nil] at hwalk
  simp [scrape, hd, hwalk]

end Schema

end Gleaner
