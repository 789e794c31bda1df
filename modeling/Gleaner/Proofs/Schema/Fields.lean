import Gleaner.Proofs.Basic
import Gleaner.Proofs.Schema.Grammar
import Mathlib.Data.List.Forall2

/-! Mappings of mappings. Their keys are names of fields, also those that carry instructions
elsewhere: at the root and in an item schema all of them, and in a node all but the two that are
looked at first. -/

namespace Gleaner.Schema

open Shape

variable {entries : Entries} {name route : String} {v : Raw} {node : Node} {fields : Schema}

/-- One field for each entry, in their order, under the name that is its key. -/
def FieldsRead (route : String) (entries : Entries) (fields : Schema) : Prop :=
  List.Forall₂ (fun e f => e.1 = .str f.1 ∧ readNode (Route.field route f.1) e.2 = .ok f.2)
    entries fields

theorem readFields_iff : readFields route entries = .ok fields ↔
    FieldsRead route entries fields := by
  induction entries generalizing fields with
  | nil =>
    constructor
    · rintro ⟨⟩
      exact .nil
    · rintro ⟨⟩
      rfl
  | cons e rest ih =>
    obtain ⟨k, v⟩ := e
    constructor
    · intro hread
      cases k with
      | str name =>
        rw [readFields] at hread
        split at hread
        next => cases hread
        next node hnode =>
          split at hread
          next => cases hread
          next others hrest =>
            cases hread
            exact .cons ⟨rfl, hnode⟩ (ih.mp hrest)
      | _ => cases hread
    · intro hfields
      cases hfields with
      | @cons _ field _ others hfirst hrest =>
        obtain ⟨rfl, hnode⟩ := hfirst
        rw [readFields, hnode]
        simp only [ih.mpr hrest]

theorem isMap_of_lookup? (hmaps : ∀ e ∈ entries, Raw.isMap e.2)
    (hv : Value.lookup? entries name = some v) : v.isMap :=
  hmaps _ (Value.mem_of_lookup? hv)

theorem not_null_of_isMap (h : v.isMap) : v ≠ .null := by
  rintro rfl
  cases h

/-- A text is not read from a mapping, so a form that needs it does not come from a field. -/
theorem requiredText_ne_ok {text : String} (hv : Value.lookup? entries name = some v)
    (hmap : v.isMap) : required entries [name] readText ≠ .ok text := by
  intro hread
  obtain ⟨key, w, hmember, htext⟩ := required_eq_ok.mp hread
  obtain ⟨hkey, hw⟩ := mem_of_member? hmember
  rw [List.mem_singleton.mp hkey, hv] at hw
  cases hw
  cases v <;> simp [Raw.isMap, readText, Raw.text?] at hmap htext

theorem sourceOf_ne_ok (node : Node) (hv : Value.lookup? entries "meta" = some v) (hmap : v.isMap) :
    sourceOf entries ≠ .ok node := by
  intro hread
  obtain ⟨_, _, htext, -, -⟩ := Checked.both_eq_ok.mp (exactly_eq_ok.mp hread).1
  exact requiredText_ne_ok hv hmap htext

theorem primitiveOf_ne_ok (node : Node) (hv : Value.lookup? entries "selector" = some v)
    (hmap : v.isMap) : primitiveOf entries ≠ .ok node := by
  intro hread
  obtain ⟨_, _, hfirst, -, -⟩ := Checked.both_eq_ok.mp (exactly_eq_ok.mp hread).1
  obtain ⟨_, _, htext, -, -⟩ := Checked.both_eq_ok.mp hfirst
  exact requiredText_ne_ok hv hmap htext

/-- The kind of a mapping of mappings without an item schema shows in two names. -/
theorem kindOf_of_maps (hmaps : ∀ e ∈ entries, Raw.isMap e.2)
    (hitem : ∀ name ∈ Form.item, Value.lookup? entries name = none) :
    (kindOf entries = .ok .source ∧ ∃ v, Value.lookup? entries "meta" = some v) ∨
      (kindOf entries = .ok .primitive ∧ ∃ v, Value.lookup? entries "selector" = some v) ∨
      (kindOf entries = .ok .nested ∧
        ∀ name ∈ ["meta", "selector"], Value.lookup? entries name = none) := by
  cases hsource : Value.lookup? entries "meta" with
  | some v =>
    exact .inl ⟨kindOf_source hsource (not_null_of_isMap (isMap_of_lookup? hmaps hsource)), v, rfl⟩
  | none =>
    cases hselector : Value.lookup? entries "selector" with
    | some v =>
      have hv := not_null_of_isMap (isMap_of_lookup? hmaps hselector)
      exact .inr (.inl ⟨kindOf_primitive hsource hitem hselector hv, v, rfl⟩)
    | none =>
      refine .inr (.inr ⟨kindOf_nested.mpr ⟨?_, ?_⟩, by simp [hsource, hselector]⟩)
      · simpa [hsource, hselector, Form.item] using hitem
      · exact fun name _ v hv => isMap_of_lookup? hmaps hv

/-- A mapping of mappings without an item schema is a record just if `meta` and `selector` are not
among its keys, whatever they are else. Then it is read as the record of its values, each read as a
node, and otherwise it is refused. As a schema of its own it is read so in any case. -/
theorem maps_read_as_fields (hmaps : ∀ e ∈ entries, Raw.isMap e.2)
    (hitem : ∀ name ∈ ["itemSchema", "item_schema"], Value.lookup? entries name = none)
    (route : String) :
    (classify route (.map entries) = .ok .nested ↔
      ∀ name ∈ ["meta", "selector"], Value.lookup? entries name = none) ∧
    (∀ node, readNode route (.map entries) = .ok node ↔
      (∀ name ∈ ["meta", "selector"], Value.lookup? entries name = none) ∧
        ∃ fields, node = .nested fields ∧ FieldsRead route entries fields) ∧
    ∀ schema, readSchema route (.map entries) = .ok schema ↔
      FieldsRead route entries schema := by
  refine ⟨?_, ?_, fun schema => readFields_iff⟩
  · rw [classify]
    rcases kindOf_of_maps hmaps hitem with ⟨hkind, v, hv⟩ | ⟨hkind, v, hv⟩ | ⟨hkind, hfree⟩
    · simp [hkind, hv]
    · simp [hkind, hv]
    · simpa [hkind] using hfree
  · intro node
    rw [readNode]
    rcases kindOf_of_maps hmaps hitem with ⟨hkind, v, hv⟩ | ⟨hkind, v, hv⟩ | ⟨hkind, hfree⟩
    · have hrefused := sourceOf_ne_ok node hv (isMap_of_lookup? hmaps hv)
      simp [hkind, hv, invalid_eq_ok, hrefused]
    · have hrefused := primitiveOf_ne_ok node hv (isMap_of_lookup? hmaps hv)
      simp [hkind, hv, invalid_eq_ok, hrefused]
    · simp only [hkind]
      constructor
      · intro hread
        obtain ⟨fields, hfields, rfl⟩ := eq_ok_of_map hread
        exact ⟨hfree, fields, rfl, readFields_iff.mp hfields⟩
      · rintro ⟨-, fields, rfl, hfields⟩
        rw [readFields_iff.mpr hfields]
        rfl

/-- The text of a heading. -/
def heading : Raw := .map [(.str "selector", .str "h1")]

/-- Fields under the names of instructions. -/
def typed : Entries := [(.str "type", heading), (.str "regex", .map [])]

theorem maps_read_as_fields_typed :
    (∀ e ∈ typed, Raw.isMap e.2) ∧
      (∀ name ∈ ["itemSchema", "item_schema"], Value.lookup? typed name = none) ∧
      classify "at" (.map typed) = .ok .nested ∧
      readNode "at" (.map typed) =
        .ok (.nested [("type", .primitive ⟨"h1", .absent, none, .string⟩),
          ("regex", .nested [])]) := by
  have hmaps : ∀ e ∈ typed, Raw.isMap e.2 := by simp [typed, heading, Raw.isMap]
  have hitem : ∀ name ∈ ["itemSchema", "item_schema"], Value.lookup? typed name = none := by decide
  have hfree : ∀ name ∈ ["meta", "selector"], Value.lookup? typed name = none := by decide
  obtain ⟨hkind, hnode, -⟩ := maps_read_as_fields hmaps hitem "at"
  refine ⟨hmaps, hitem, hkind.mpr hfree, (hnode _).mpr ⟨hfree, _, rfl, ?_⟩⟩
  exact .cons ⟨rfl, rfl⟩ (.cons ⟨rfl, rfl⟩ .nil)

/-- Mappings without an item schema, each of them a node, that make a schema but not a node. -/
structure Misread (entries : Entries) : Prop where
  maps : ∀ e ∈ entries, Raw.isMap e.2
  item : ∀ name ∈ ["itemSchema", "item_schema"], Value.lookup? entries name = none
  nodes : ∀ e ∈ entries, ∃ name node, e.1 = .str name ∧ readNode name e.2 = .ok node
  schema : ∃ schema, readSchema "" (.map entries) = .ok schema
  kind : classify "" (.map entries) ≠ .ok .nested
  refused : ∃ r, readNode "" (.map entries) = .error r

theorem maps_misread : Misread [(.str "meta", heading)] ∧ Misread [(.str "selector", heading)] := by
  constructor <;> exact {
    maps := by simp [heading, Raw.isMap]
    item := by decide
    nodes := by simpa using ⟨_, rfl⟩
    schema := ⟨_, rfl⟩
    kind := by rintro ⟨⟩
    refused := ⟨_, rfl⟩ }

end Gleaner.Schema
