import Gleaner.Proofs.Walk.Account

/-! Where no two fields of a record have one name, no two values of a result have one name in a
record either. -/

namespace Gleaner

namespace Schema

mutual

/-- No two fields of a record have one name. -/
def Distinct : List (String × Node) → Prop
  | [] => True
  | (name, node) :: rest => name ∉ rest.map (·.1) ∧ node.Distinct ∧ Distinct rest

def Node.Distinct : Node → Prop
  | .source _ => True
  | .primitive _ => True
  | .array _ item => Schema.Distinct item
  | .nested fields => Schema.Distinct fields

end

end Schema

mutual

/-- No two values of a record have one name. -/
def Datum.Distinct : Datum → Prop
  | .record fields => DistinctFields fields
  | .items ds => DistinctItems ds
  | _ => True

def DistinctFields : List (String × Datum) → Prop
  | [] => True
  | (name, v) :: rest => name ∉ rest.map (·.1) ∧ v.Distinct ∧ DistinctFields rest

def DistinctItems : List Datum → Prop
  | [] => True
  | v :: rest => v.Distinct ∧ DistinctItems rest

end

theorem distinctItems_iff {ds : List Datum} : DistinctItems ds ↔ ∀ v ∈ ds, v.Distinct := by
  induction ds with
  | nil => simp [DistinctItems]
  | cons v ds ih => simp [DistinctItems, ih]

theorem Datum.HasType.distinct {type : Field.FieldType} {v : Datum} (h : v.HasType type) :
    v.Distinct := by
  cases type <;> obtain ⟨_, rfl⟩ := h <;> trivial

namespace Schema

theorem keys_recordOf_sublist (s : Settings) (d : Document) (fields : List (String × Node)) :
    ((recordOf s d fields).map (·.1)).Sublist (fields.map (·.1)) :=
  (built_recordOf s d [] fields).keys_sublist

mutual

theorem distinct_of_outcomeOf {node : Node} (hnode : node.Distinct) {s : Settings} {d : Document}
    {v : Datum} (h : outcomeOf s d node = .ok v) : v.Distinct := by
  cases node with
  | source name =>
    cases h
    trivial
  | primitive p =>
    rw [outcomeOf] at h
    exact (Primitive.hasType_of_resolve h).distinct
  | nested fields =>
    cases h
    exact distinct_recordOf hnode s d
  | array selector item =>
    rcases hpages : itemPages s d selector with ⟨pages, _ | m⟩
    · rw [outcomeOf_array_of_none hpages] at h
      cases h
      have hitem := distinct_recordOf hnode s
      exact distinctItems_iff.mpr (List.forall_mem_map.mpr fun page _ => hitem page)
    · rw [outcomeOf_array_of_some hpages] at h
      cases h

/-- The record of fields with distinct names has distinct names throughout. -/
theorem distinct_recordOf {fields : List (String × Node)} (h : Distinct fields) (s : Settings)
    (d : Document) : DistinctFields (recordOf s d fields) := by
  cases fields with
  | nil => trivial
  | cons field rest =>
    obtain ⟨name, node⟩ := field
    obtain ⟨hname, hnode, hrest⟩ := h
    have hothers := distinct_recordOf hrest s d
    rw [recordOf]
    cases hvalue : outcomeOf s d node with
    | error m => exact hothers
    | ok v =>
      have hv := distinct_of_outcomeOf hnode hvalue
      exact ⟨fun hmem => hname ((keys_recordOf_sublist s d rest).subset hmem), hv, hothers⟩

end

theorem distinct_scrape {schema : Schema} {s : Settings} {markup : String} {url : Option String}
    {r : Result} (h : Distinct schema) (hscrape : schema.scrape s markup url = .ok r) :
    DistinctFields r.data := by
  cases hd : Document.ofMarkup markup url s.parser .asWritten with
  | error f => simp [scrape, hd] at hscrape
  | ok d =>
    rw [scrape_eq hd] at hscrape
    cases hscrape
    exact distinct_recordOf h s d

end Schema

end Gleaner
