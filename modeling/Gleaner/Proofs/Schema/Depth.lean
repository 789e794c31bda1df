import Gleaner.Proofs.Schema.Fields

/-! The nodes in a schema. What is read of a schema rests on what is read of each node in it, at any
depth, as long as the node remains a mapping. -/

namespace Gleaner

namespace Value

variable {α : Type} {before after : List (Key × Value α)} {v : Value α} {key name : String}

theorem lookup?_append : lookup? (before ++ after) name =
    (lookup? before name).or (lookup? after name) := by
  simp [lookup?, List.find?_append, Option.map_or]

theorem lookup?_cons_str : lookup? ((.str key, v) :: after) name =
    if key = name then some v else lookup? after name := by
  by_cases hkey : key = name
  · rw [hkey, if_pos rfl, lookup?_cons_self]
  · rw [if_neg hkey, lookup?_cons_of_ne fun heq => hkey (Key.str.inj heq)]

end Value

namespace Schema

open Shape

section Kinds

variable {entries entries' : Entries} {kind : Kind}

/-- Any kind but that of a record shows in what is given. -/
theorem kindOf_of_gives (hgives : ∀ names, gives entries' names = gives entries names)
    (hkind : kindOf entries = .ok kind) (hne : kind ≠ .nested) : kindOf entries' = .ok kind := by
  rw [kindOf] at hkind ⊢
  simp only [hgives]
  split at hkind
  next hsource => rwa [if_pos hsource]
  next hsource =>
    rw [if_neg hsource]
    split at hkind
    next hitem => rwa [if_pos hitem]
    next hitem =>
      rw [if_neg hitem]
      split at hkind
      next hselector => rwa [if_pos hselector]
      next =>
        split at hkind
        next => exact absurd (Except.ok.inj hkind).symm hne
        next => cases hkind

theorem classify_map {route : String} :
    classify route (.map entries) = .ok kind ↔ kindOf entries = .ok kind := by
  rw [classify]
  cases kindOf entries <;> simp

/-- A mapping is an array if its item schema, in its one spelling, is read, and the rest with it. -/
theorem readNode_array {route : String} {node : Node} (hkind : kindOf entries = .ok .array) :
    readNode route (.map entries) = .ok node ↔ bothItems entries = false ∧ ∃ item,
      readItem (Route.items route) entries = .ok item ∧ arrayOf entries item = .ok node := by
  rw [readNode, hkind]
  dsimp only
  cases bothItems entries with
  | true => simp
  | false => cases readItem (Route.items route) entries <;> simp [invalid_eq_ok]

theorem readNode_nested {route : String} {node : Node} (hkind : kindOf entries = .ok .nested) :
    readNode route (.map entries) = .ok node ↔
      ∃ fields, readFields route entries = .ok fields ∧ node = .nested fields := by
  rw [readNode, hkind]
  dsimp only
  cases readFields route entries <;> simp [Except.map, eq_comm]

theorem readNode_source {route : String} {node : Node} (hkind : kindOf entries = .ok .source) :
    readNode route (.map entries) = .ok node ↔ sourceOf entries = .ok node := by
  simp only [readNode, hkind, invalid_eq_ok]

theorem readNode_primitive {route : String} {node : Node}
    (hkind : kindOf entries = .ok .primitive) :
    readNode route (.map entries) = .ok node ↔ primitiveOf entries = .ok node := by
  simp only [readNode, hkind, invalid_eq_ok]

end Kinds

section Parts

variable {x x' before after : Entries} {name key other route : String} {v v' : Raw} {kind : Kind}
  {fields item : Schema} {β γ δ : Type}

/-- What is read of a whole, before and after a change of a part: it is read again if the part is,
to the same if the part is to the same. -/
def RestsOn (whole whole' : Except Refusal β) (part part' : Except Refusal γ) : Prop :=
  ∀ b, whole = .ok b → ∃ c, part = .ok c ∧ (part' = .ok c → whole' = .ok b) ∧
    ∀ b', whole' = .ok b' → ∃ c', part' = .ok c'

theorem RestsOn.refl (whole whole' : Except Refusal β) : RestsOn whole whole' whole whole' :=
  fun b hb => ⟨b, hb, id, fun b' hb' => ⟨b', hb'⟩⟩

theorem RestsOn.trans {whole whole' : Except Refusal β} {part part' : Except Refusal γ}
    {least least' : Except Refusal δ} (h : RestsOn whole whole' part part')
    (hpart : RestsOn part part' least least') : RestsOn whole whole' least least' := by
  intro b hb
  obtain ⟨c, hc, hsame, hread⟩ := h b hb
  obtain ⟨d, hd, hsame', hread'⟩ := hpart c hc
  refine ⟨d, hd, fun hd' => hsame (hsame' hd'), fun b' hb' => ?_⟩
  obtain ⟨c', hc'⟩ := hread b' hb'
  exact hread' c' hc'

/-- A value that is read of a whole stays just if a part that decides about it does. -/
theorem RestsOn.iff {whole whole' : Except Refusal β} {part part' : Except Refusal γ}
    {b b' : β} {P : Prop} (h : RestsOn whole whole' part part') (hread : whole = .ok b)
    (hpart : ∀ c c', part = .ok c → (part' = .ok c' ↔ P ∧ c' = c)) :
    whole' = .ok b' ↔ P ∧ b' = b := by
  obtain ⟨c, hc, hsame, hread'⟩ := h b hread
  constructor
  · intro hb'
    obtain ⟨c', hc'⟩ := hread' b' hb'
    have hP := ((hpart c c' hc).mp hc').1
    have hwhole := hsame ((hpart c c hc).mpr ⟨hP, rfl⟩)
    exact ⟨hP, Except.ok.inj (hb'.symm.trans hwhole)⟩
  · rintro ⟨hP, rfl⟩
    exact hsame ((hpart c c hc).mpr ⟨hP, rfl⟩)

theorem readFields_cons_eq_ok {e : Key × Raw} : readFields route (e :: after) = .ok fields ↔
    ∃ name node rest, e.1 = .str name ∧ readNode (Route.field route name) e.2 = .ok node ∧
      readFields route after = .ok rest ∧ fields = (name, node) :: rest := by
  constructor
  · intro hread
    cases readFields_iff.mp hread with
    | cons hfirst hrest =>
      exact ⟨_, _, _, hfirst.1, hfirst.2, readFields_iff.mpr hrest, rfl⟩
  · rintro ⟨name, node, rest, hkey, hnode, hrest, rfl⟩
    exact readFields_iff.mpr (.cons ⟨hkey, hnode⟩ (readFields_iff.mp hrest))

/-- The fields rest on each one of them. -/
theorem readFields_restsOn : RestsOn (readFields route (before ++ (.str name, v) :: after))
    (readFields route (before ++ (.str name, v') :: after)) (readNode (Route.field route name) v)
    (readNode (Route.field route name) v') := by
  induction before with
  | nil =>
    intro fields hfields
    obtain ⟨_, node, rest, ⟨⟩, hnode, hrest, rfl⟩ := readFields_cons_eq_ok.mp hfields
    refine ⟨node, hnode, fun hnode' => ?_, fun fields' hfields' => ?_⟩
    · exact readFields_cons_eq_ok.mpr ⟨name, node, rest, rfl, hnode', hrest, rfl⟩
    · obtain ⟨_, node', rest', ⟨⟩, hnode', -⟩ := readFields_cons_eq_ok.mp hfields'
      exact ⟨node', hnode'⟩
  | cons e before ih =>
    refine RestsOn.trans (fun fields hfields => ?_) ih
    obtain ⟨first, node, rest, hkey, hnode, hrest, rfl⟩ := readFields_cons_eq_ok.mp hfields
    refine ⟨rest, hrest, fun hrest' => ?_, fun fields' hfields' => ?_⟩
    · exact readFields_cons_eq_ok.mpr ⟨first, node, rest, hkey, hnode, hrest', rfl⟩
    · obtain ⟨_, _, rest', -, -, hrest', -⟩ := readFields_cons_eq_ok.mp hfields'
      exact ⟨rest', hrest'⟩

section Swap

theorem lookup?_swap (v v' : Raw) :
    Value.lookup? (before ++ (.str key, v') :: after) other =
        Value.lookup? (before ++ (.str key, v) :: after) other ∨
      Value.lookup? (before ++ (.str key, v) :: after) other = some v ∧
        Value.lookup? (before ++ (.str key, v') :: after) other = some v' := by
  simp only [Value.lookup?_append, Value.lookup?_cons_str]
  cases Value.lookup? before other with
  | some w => exact .inl rfl
  | none =>
    by_cases hkey : key = other
    · exact .inr (by simp [hkey])
    · exact .inl (by simp [hkey])

theorem isSome_given?_of_isMap {entries : Entries} (h : Value.lookup? entries other = some v)
    (hv : v.isMap) : (Value.given? entries other).isSome = true := by
  rw [given?_eq_some.mpr ⟨h, not_null_of_isMap hv⟩]
  rfl

/-- The kind does not depend on what is in a mapping. -/
theorem kindOf_swap (hv : v.isMap) (hv' : v'.isMap)
    (hkind : kindOf (before ++ (.str key, v) :: after) = .ok kind) :
    kindOf (before ++ (.str key, v') :: after) = .ok kind := by
  by_cases hnested : kind = .nested
  · subst hnested
    obtain ⟨hfree, hnamed⟩ := kindOf_nested.mp hkind
    refine kindOf_nested.mpr ⟨fun other hother => ?_, fun other hother w hw => ?_⟩
    · rcases lookup?_swap v v' with hsame | ⟨hthere, -⟩
      · exact hsame.trans (hfree other hother)
      · rw [hfree other hother] at hthere
        cases hthere
    · rcases lookup?_swap v v' with hsame | ⟨-, hthere⟩
      · exact hnamed other hother w (hsame.symm.trans hw)
      · cases hthere.symm.trans hw
        exact hv'
  · refine kindOf_of_gives (fun names => List.any_congr rfl fun other => ?_) hkind hnested
    rcases lookup?_swap v v' with hsame | ⟨hthere, hthere'⟩
    · rw [Value.given?, Value.given?, hsame]
    · rw [isSome_given?_of_isMap hthere hv, isSome_given?_of_isMap hthere' hv']

theorem bothItems_swap (v v' : Raw) : bothItems (before ++ (.str key, v') :: after) =
    bothItems (before ++ (.str key, v) :: after) := by
  refine List.all_congr rfl fun other => ?_
  rcases lookup?_swap v v' with hsame | ⟨hthere, hthere'⟩
  · rw [hsame]
  · rw [hthere, hthere']
    rfl

/-- What an array has beside its item schema does not depend on it. -/
theorem arrayOf_swap (v v' : Raw) (hkey : key ∈ Form.item) :
    arrayOf (before ++ (.str key, v') :: after) item =
      arrayOf (before ++ (.str key, v) :: after) item := by
  have herase (w : Raw) : Form.item.foldl Value.erase (before ++ (.str key, w) :: after) =
      Form.item.foldl Value.erase (before ++ after) := by
    have hspelling : key = "itemSchema" ∨ key = "item_schema" := by simpa [Form.item] using hkey
    rcases hspelling with rfl | rfl <;> simp [Form.item, Value.erase, Key.same]
  have hselector (w : Raw) : member? (before ++ (.str key, w) :: after) Form.selector =
      member? (before ++ after) Form.selector := by
    have hne : key ≠ "selector" := by
      rintro rfl
      simp [Form.item] at hkey
    simp [Form.selector, member?_single, Value.lookup?_append, Value.lookup?_cons_str, hne]
  simp only [arrayOf, required, herase, hselector]

theorem readItem_append (hkey : key ∈ Form.item)
    (hfirst : ∀ e ∈ before, ∀ name ∈ Form.item, e.1 ≠ .str name) :
    readItem route (before ++ (.str key, v) :: after) = readSchema route v := by
  induction before with
  | nil =>
    rw [List.nil_append, readItem, if_pos (by simpa [Key.same_str] using hkey)]
  | cons e before ih =>
    obtain ⟨hnot, hrest⟩ := List.forall_mem_cons.mp hfirst
    obtain ⟨k, w⟩ := e
    rw [List.cons_append, readItem, if_neg (by simpa [Key.same_str] using hnot), ih hrest]

theorem readNode_restsOn_fields {x : Entries} (hkind : kindOf x = .ok .nested)
    (hkind' : kindOf x' = .ok .nested) : RestsOn (readNode route (.map x))
      (readNode route (.map x')) (readFields route x) (readFields route x') := by
  intro node hnode
  obtain ⟨fields, hfields, rfl⟩ := (readNode_nested hkind).mp hnode
  refine ⟨fields, hfields, fun hfields' => ?_, fun node' hnode' => ?_⟩
  · exact (readNode_nested hkind').mpr ⟨fields, hfields', rfl⟩
  · obtain ⟨fields', hfields', -⟩ := (readNode_nested hkind').mp hnode'
    exact ⟨fields', hfields'⟩

/-- An array rests on its item schema. -/
theorem readNode_restsOn_item (hkind : kindOf (before ++ (.str key, v) :: after) = .ok .array)
    (hkey : key ∈ Form.item) (hfirst : ∀ e ∈ before, ∀ name ∈ Form.item, e.1 ≠ .str name)
    (hv : v.isMap) (hv' : v'.isMap) :
    RestsOn (readNode route (.map (before ++ (.str key, v) :: after)))
      (readNode route (.map (before ++ (.str key, v') :: after)))
      (readSchema (Route.items route) v) (readSchema (Route.items route) v') := by
  have hkind' := kindOf_swap hv hv' hkind
  intro node hnode
  obtain ⟨hboth, item, hitem, harray⟩ := (readNode_array hkind).mp hnode
  rw [readItem_append hkey hfirst] at hitem
  refine ⟨item, hitem, fun hitem' => (readNode_array hkind').mpr ⟨?_, item, ?_, ?_⟩, ?_⟩
  · rw [bothItems_swap v, hboth]
  · rw [readItem_append hkey hfirst, hitem']
  · rw [arrayOf_swap v _ hkey, harray]
  · intro node' hnode'
    obtain ⟨-, item', hitem', -⟩ := (readNode_array hkind').mp hnode'
    rw [readItem_append hkey hfirst] at hitem'
    exact ⟨item', hitem'⟩

end Swap

end Parts

/-- A node, and the same with other entries for those of one of the nodes in it, at any depth. -/
inductive NodeAt (x x' : Entries) : Raw → Raw → Prop where
  | here : NodeAt x x' (.map x) (.map x')
  /-- In a field of a record. -/
  | field {before after : Entries} {name : String} {v v' : Raw} :
      kindOf (before ++ (.str name, v) :: after) = .ok .nested → NodeAt x x' v v' →
      NodeAt x x' (.map (before ++ (.str name, v) :: after))
        (.map (before ++ (.str name, v') :: after))
  /-- In a field of the item schema of an array. -/
  | item {before after first rest : Entries} {key name : String} {v v' : Raw} :
      kindOf (before ++ (.str key, .map (first ++ (.str name, v) :: rest)) :: after) = .ok .array →
      key ∈ ["itemSchema", "item_schema"] →
      (∀ e ∈ before, ∀ name ∈ ["itemSchema", "item_schema"], e.1 ≠ .str name) →
      NodeAt x x' v v' →
      NodeAt x x' (.map (before ++ (.str key, .map (first ++ (.str name, v) :: rest)) :: after))
        (.map (before ++ (.str key, .map (first ++ (.str name, v') :: rest)) :: after))

/-- A schema, and the same with other entries for those of one of the nodes in it, at any depth. -/
inductive SchemaAt (x x' : Entries) : Raw → Raw → Prop where
  | field {before after : Entries} {name : String} {v v' : Raw} : NodeAt x x' v v' →
      SchemaAt x x' (.map (before ++ (.str name, v) :: after))
        (.map (before ++ (.str name, v') :: after))

section Depth

variable {x x' : Entries} {v v' : Raw}

theorem NodeAt.isMap (h : NodeAt x x' v v') : v.isMap ∧ v'.isMap := by
  cases h <;> exact ⟨rfl, rfl⟩

/-- What is read of a node rests on each node in it. -/
theorem NodeAt.restsOn (h : NodeAt x x' v v') (route : String) :
    ∃ deep, RestsOn (readNode route v) (readNode route v') (readNode deep (.map x))
      (readNode deep (.map x')) := by
  induction h generalizing route with
  | here => exact ⟨route, .refl _ _⟩
  | @field before after name v v' hkind hpart ih =>
    obtain ⟨deep, hdeep⟩ := ih (Route.field route name)
    have hkind' := kindOf_swap hpart.isMap.1 hpart.isMap.2 hkind
    exact ⟨deep, (readNode_restsOn_fields hkind hkind').trans (readFields_restsOn.trans hdeep)⟩
  | @item before after first rest key name v v' hkind hkey hfirst _ ih =>
    obtain ⟨deep, hdeep⟩ := ih (Route.field (Route.items route) name)
    exact ⟨deep, RestsOn.trans (readNode_restsOn_item hkind hkey hfirst rfl rfl)
      (readFields_restsOn.trans hdeep)⟩

theorem SchemaAt.restsOn (h : SchemaAt x x' v v') (route : String) :
    ∃ deep, RestsOn (readSchema route v) (readSchema route v') (readNode deep (.map x))
      (readNode deep (.map x')) := by
  cases h with
  | @field before after name v v' hpart =>
    obtain ⟨deep, hdeep⟩ := hpart.restsOn (Route.field route name)
    exact ⟨deep, readFields_restsOn.trans hdeep⟩

end Depth

end Schema

end Gleaner
