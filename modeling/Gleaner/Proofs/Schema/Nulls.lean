import Gleaner.Proofs.Schema.Depth

/-! Null in the place of a member that is not there. To the kind of a node it makes no difference,
unless the node is a record; but a form is closed, and has a place for it in few cases. -/

namespace Gleaner

namespace Schema

open Shape

/-- Entries with null under a name that was not among the keys. -/
structure Nulled (name : String) (entries entries' : Entries) : Prop where
  absent : Value.lookup? entries name = none
  added : ∃ before after, entries = before ++ after ∧
    entries' = before ++ (.str name, .null) :: after

theorem lookup?_selector_of_arrayOf {entries : Entries} {item : Schema} {node : Node}
    (h : arrayOf entries item = .ok node) : ∃ v, Value.lookup? entries "selector" = some v := by
  obtain ⟨_, _, hrequired, -, -⟩ := Checked.both_eq_ok.mp (exactly_eq_ok.mp h).1
  obtain ⟨spelling, w, hmember, -⟩ := required_eq_ok.mp hrequired
  obtain ⟨hspelling, hw⟩ := mem_of_member? hmember
  exact ⟨w, List.mem_singleton.mp hspelling ▸ hw⟩

namespace Nulled

variable {name other : String} {names : List String} {entries entries' : Entries} {kind : Kind}
  {node : Node} {e : Key × Raw} {v : Raw}

theorem lookup?_self (h : Nulled name entries entries') :
    Value.lookup? entries' name = some .null := by
  obtain ⟨habsent, before, after, rfl, rfl⟩ := h
  rw [Value.lookup?_append, Option.or_eq_none_iff] at habsent
  rw [Value.lookup?_append, habsent.1, Option.none_or, Value.lookup?_cons_self]

theorem lookup?_of_ne (h : Nulled name entries entries') (hne : other ≠ name) :
    Value.lookup? entries' other = Value.lookup? entries other := by
  obtain ⟨-, before, after, rfl, rfl⟩ := h
  rw [Value.lookup?_append, Value.lookup?_append, Value.lookup?_cons_str, if_neg hne.symm]

theorem mem_iff (h : Nulled name entries entries') :
    e ∈ entries' ↔ e = (.str name, .null) ∨ e ∈ entries := by
  obtain ⟨-, before, after, rfl, rfl⟩ := h
  simp only [List.mem_append, List.mem_cons]
  tauto

theorem ne_of_given (h : Nulled name entries entries')
    (hgiven : Value.given? entries other = some v) : other ≠ name := by
  rintro rfl
  rw [given?_of_lookup? h.absent] at hgiven
  cases hgiven

/-- Nothing more is given. -/
theorem given?_eq (h : Nulled name entries entries') (other : String) :
    Value.given? entries' other = Value.given? entries other := by
  by_cases hother : other = name
  · subst hother
    simp [Value.given?, h.lookup?_self, h.absent]
  · simp [Value.given?, h.lookup?_of_ne hother]

theorem gives_eq (h : Nulled name entries entries') (names : List String) :
    gives entries' names = gives entries names := by
  simp [gives, h.given?_eq]

/-- The kind stays, but a record is none any more. -/
theorem kindOf_iff (h : Nulled name entries entries') (hname : name ∈ instructions)
    (hkind : kindOf entries = .ok kind) {kind' : Kind} :
    kindOf entries' = .ok kind' ↔ kind ≠ .nested ∧ kind' = kind := by
  by_cases hnested : kind = .nested
  · subst hnested
    refine iff_of_false (fun hkind' => ?_) fun hne => hne.1 rfl
    obtain ⟨hsource, hitem, hselector, -⟩ := of_kindOf hkind
    cases kind' with
    | source => exact hsource (h.gives_eq _ ▸ of_kindOf hkind')
    | array => exact hitem (h.gives_eq _ ▸ of_kindOf hkind')
    | primitive => exact hselector (h.gives_eq _ ▸ of_kindOf hkind')
    | nested =>
      have hfield := (of_kindOf hkind').2.2.2 name hname
      simp [isField, h.lookup?_self, Raw.isMap] at hfield
  · rw [kindOf_of_gives h.gives_eq hkind hnested, Except.ok.injEq, eq_comm]
    exact (and_iff_right hnested).symm

theorem keyed_iff (h : Nulled name entries entries') :
    Keyed entries' names ↔ name ∈ names ∧ Keyed entries names := by
  constructor
  · intro hkeys
    obtain ⟨other, hmem, heq⟩ := hkeys _ (h.mem_iff.mpr (.inl rfl))
    cases heq
    exact ⟨hmem, fun e he => hkeys e (h.mem_iff.mpr (.inr he))⟩
  · rintro ⟨hmem, hkeys⟩ e he
    rcases h.mem_iff.mp he with rfl | he
    · exact ⟨name, hmem, rfl⟩
    · exact hkeys e he

/-- A source has one member, which is there. -/
theorem sourceOf_refused (h : Nulled name entries entries') (hkind : kindOf entries = .ok .source) :
    sourceOf entries' ≠ .ok node := by
  intro hread
  have hclosed : closed entries' [Form.source] = .ok () := (exactly_eq_ok.mp hread).2
  obtain ⟨hmem, -⟩ := h.keyed_iff.mp (closed_single.mp hclosed)
  obtain ⟨other, hother, v, hv⟩ := gives_iff.mp (of_kindOf hkind)
  exact h.ne_of_given hv ((List.mem_singleton.mp hother).trans (List.mem_singleton.mp hmem).symm)

/-- An array has its selector, and its item schema in one spelling. -/
theorem array_refused (h : Nulled name entries entries') (hkind : kindOf entries = .ok .array)
    {item item' : Schema} (hread : arrayOf entries item = .ok node)
    (hboth : bothItems entries' = false) {node' : Node} : arrayOf entries' item' ≠ .ok node' := by
  intro hread'
  obtain ⟨key, hkey, v, hv⟩ := gives_iff.mp (of_kindOf hkind)
  by_cases hitem : name ∈ Form.item
  · have hne := h.ne_of_given hv
    have hnone := lookup?_other_item hboth h.lookup?_self key hkey hitem hne
    rw [h.lookup?_of_ne hne, (given?_eq_some.mp hv).1] at hnone
    cases hnone
  · have hclosed : closed (Form.item.foldl Value.erase entries') [["selector"]] = .ok () :=
      (exactly_eq_ok.mp hread').2
    have hmem := mem_foldl_erase.mpr ⟨h.mem_iff.mpr (.inl rfl), fun other hother heq =>
      hitem (Key.str.inj heq ▸ hother)⟩
    obtain ⟨other, hselector, heq⟩ := closed_single.mp hclosed _ hmem
    cases heq
    obtain ⟨w, hw⟩ := lookup?_selector_of_arrayOf hread
    rw [← List.mem_singleton.mp hselector, h.absent] at hw
    cases hw

theorem member?_eq (h : Nulled name entries entries') (hname : name ∉ names) :
    member? entries' names = member? entries names := by
  unfold member?
  induction names with
  | nil => rfl
  | cons other names ih =>
    rw [List.mem_cons, not_or] at hname
    rw [List.findSome?_cons, List.findSome?_cons, h.lookup?_of_ne (Ne.symm hname.1), ih hname.2]

theorem required_eq {β : Type} {read : Raw → Checked β} (h : Nulled name entries entries')
    (hname : name ∉ names) : required entries' names read = required entries names read := by
  rw [required, required, h.member?_eq hname]

/-- A member that is missing may be null, where null stands for what it is by default. -/
theorem defaulted_eq {β : Type} {default : β} {read : Raw → Checked β}
    (h : Nulled name entries entries') (hnull : name ∈ names →
      (∀ other ∈ names, Value.lookup? entries other = none) ∧ read .null = .ok default) :
    defaulted entries' names default read = defaulted entries names default read := by
  by_cases hname : name ∈ names
  · obtain ⟨hnone, hread⟩ := hnull hname
    have hmember : member? entries' names = some (name, .null) := by
      rw [member?_of_only hname fun other hother hne => (h.lookup?_of_ne hne).trans
        (hnone other hother), h.lookup?_self]
      rfl
    simp [defaulted, hmember, member?_eq_none.mpr hnone, hread, Checked.within]
  · rw [defaulted, defaulted, h.member?_eq hname]

end Nulled

/-- A node that may have null under a name: a primitive, and its attribute, or its pattern if it has
none in either spelling. -/
def TakesNull (name : String) (entries : Entries) : Prop :=
  kindOf entries = .ok .primitive ∧ (name = "attribute" ∨
    name ∈ ["pattern", "regex"] ∧
      ∀ other ∈ ["pattern", "regex"], Value.lookup? entries other = none)

namespace Nulled

variable {name : String} {entries entries' : Entries} {node node' : Node} {route : String}

theorem closed_of_takesNull (h : Nulled name entries entries') (htakes : TakesNull name entries)
    (hclosed : closed entries [Form.selector, Form.attributes, Form.pattern, Form.type] = .ok ()) :
    closed entries' [Form.selector, Form.attributes, Form.pattern, Form.type] = .ok () := by
  obtain ⟨key, hkey, hkeys⟩ := closed_primitive.mp hclosed
  refine closed_primitive.mpr ?_
  rcases htakes.2 with rfl | ⟨hname, hnone⟩
  · exact ⟨key, hkey, h.keyed_iff.mpr ⟨by simp, hkeys⟩⟩
  · -- The pattern was not there in another spelling, so that the new one is in use.
    refine ⟨name, hname, h.keyed_iff.mpr ⟨by simp, fun e he => ?_⟩⟩
    obtain ⟨other, hother, heq⟩ := hkeys e he
    have hne : other ≠ key := by
      rintro rfl
      exact Value.lookup?_eq_none.mp (hnone other hkey) e he heq
    refine ⟨other, ?_, heq⟩
    simp only [List.mem_cons, hne, false_or] at hother ⊢
    tauto

/-- Where it is taken, null stands for what the member is by default. -/
theorem primitiveOf_eq (h : Nulled name entries entries') (htakes : TakesNull name entries)
    (hread : primitiveOf entries = .ok node) : primitiveOf entries' = .ok node := by
  obtain ⟨hvalue, hclosed⟩ := exactly_eq_ok.mp hread
  have hplace := htakes.2
  have hselector : required entries' Form.selector readText =
      required entries Form.selector readText := by
    refine h.required_eq fun hmem => ?_
    rw [List.mem_singleton.mp hmem] at hplace
    simp at hplace
  have hattributes : defaulted entries' Form.attributes .absent readAttributes =
      defaulted entries Form.attributes .absent readAttributes := by
    refine h.defaulted_eq fun hmem => ⟨fun other hother => ?_, rfl⟩
    rw [List.mem_singleton.mp hother, ← List.mem_singleton.mp hmem]
    exact h.absent
  have hpattern : defaulted entries' Form.pattern none readPattern =
      defaulted entries Form.pattern none readPattern := by
    refine h.defaulted_eq fun hmem => ⟨?_, rfl⟩
    rcases hplace with rfl | ⟨-, hnone⟩
    · simp [Form.pattern] at hmem
    · exact hnone
  have htype : defaulted entries' Form.type .string readType =
      defaulted entries Form.type .string readType := by
    refine h.defaulted_eq fun hmem => ?_
    rw [List.mem_singleton.mp hmem] at hplace
    simp at hplace
  refine exactly_eq_ok.mpr ⟨?_, h.closed_of_takesNull htakes hclosed⟩
  rw [hselector, hattributes, hpattern, htype]
  exact hvalue

theorem takesNull_of_primitiveOf (h : Nulled name entries entries')
    (hkind : kindOf entries = .ok .primitive) (hread : primitiveOf entries' = .ok node) :
    TakesNull name entries := by
  refine ⟨hkind, ?_⟩
  obtain ⟨hvalue, hclosed⟩ := exactly_eq_ok.mp hread
  obtain ⟨key, hkey, hkeys⟩ := closed_primitive.mp hclosed
  obtain ⟨hmem, -⟩ := h.keyed_iff.mp hkeys
  simp only [List.mem_cons, List.not_mem_nil, or_false] at hmem
  rcases hmem with rfl | rfl | rfl | rfl
  · obtain ⟨other, hother, v, hv⟩ := gives_iff.mp (of_kindOf hkind)
    exact absurd (List.mem_singleton.mp hother) (h.ne_of_given hv)
  · exact .inl rfl
  · refine .inr ⟨hkey, fun other hother => ?_⟩
    by_cases hne : other = name
    · exact hne ▸ h.absent
    · rw [← h.lookup?_of_ne hne]
      exact lookup?_other_pattern hkeys other hother hne
  · -- Null is no type.
    obtain ⟨_, _, -, hrest, -⟩ := Checked.both_eq_ok.mp hvalue
    obtain ⟨_, _, -, htype, -⟩ := Checked.both_eq_ok.mp hrest
    have hmember := member?_of_lookup? h.lookup?_self
    simp [defaulted, Form.type, hmember, readType, Raw.text?, Checked.refuse, Checked.within]
      at htype

theorem primitiveOf_iff (h : Nulled name entries entries')
    (hkind : kindOf entries = .ok .primitive) (hread : primitiveOf entries = .ok node) :
    primitiveOf entries' = .ok node' ↔ TakesNull name entries ∧ node' = node := by
  constructor
  · intro hread'
    have htakes := h.takesNull_of_primitiveOf hkind hread'
    exact ⟨htakes, Except.ok.inj (hread'.symm.trans (h.primitiveOf_eq htakes hread))⟩
  · rintro ⟨htakes, rfl⟩
    exact h.primitiveOf_eq htakes hread

/-- A node that is read is read also with null, and as the same node, just if it takes null. -/
theorem readNode_iff (h : Nulled name entries entries') (hname : name ∈ instructions)
    (hread : readNode route (.map entries) = .ok node) :
    readNode route (.map entries') = .ok node' ↔ TakesNull name entries ∧ node' = node := by
  have hrefused {kind : Kind} (hkind : kindOf entries = .ok kind) (hne : kind ≠ .primitive)
      (hnot : readNode route (.map entries') ≠ .ok node') :
      readNode route (.map entries') = .ok node' ↔ TakesNull name entries ∧ node' = node :=
    iff_of_false hnot fun htakes => hne (Except.ok.inj (hkind.symm.trans htakes.1.1))
  cases hkind : kindOf entries with
  | error keys => simp [readNode, hkind] at hread
  | ok kind =>
    have hsame (hne : kind ≠ .nested) : kindOf entries' = .ok kind :=
      (h.kindOf_iff hname hkind).mpr ⟨hne, rfl⟩
    cases kind with
    | source =>
      refine hrefused hkind (by simp) fun hread' => ?_
      exact h.sourceOf_refused hkind ((readNode_source (hsame (by simp))).mp hread')
    | array =>
      refine hrefused hkind (by simp) fun hread' => ?_
      obtain ⟨-, item, -, harray⟩ := (readNode_array hkind).mp hread
      obtain ⟨hboth, item', -, harray'⟩ := (readNode_array (hsame (by simp))).mp hread'
      exact h.array_refused hkind harray hboth harray'
    | primitive =>
      rw [readNode_primitive (hsame (by simp))]
      exact h.primitiveOf_iff hkind ((readNode_primitive hkind).mp hread)
    | nested =>
      refine hrefused hkind (by simp) fun hread' => ?_
      cases hother : kindOf entries' with
      | error keys => simp [readNode, hother] at hread'
      | ok kind' => exact ((h.kindOf_iff hname hkind).mp hother).1 rfl

end Nulled

/-- Null in the place of an instruction that is not there leaves the kind of a node as it is, unless
it is a record, which then has none. What is read with it is what is read without, at whatever depth
the node is, but it is read only if the node takes null there. -/
theorem read_nulled {name : String} {x x' : Entries} (h : Nulled name x x')
    (hname : name ∈ instructions) :
    (∀ route kind, classify route (.map x) = .ok kind → ∀ kind',
      classify route (.map x') = .ok kind' ↔ kind ≠ .nested ∧ kind' = kind) ∧
    (∀ v v', NodeAt x x' v v' → ∀ route node, readNode route v = .ok node → ∀ node',
      readNode route v' = .ok node' ↔ TakesNull name x ∧ node' = node) ∧
    ∀ v v', SchemaAt x x' v v' → ∀ route schema, readSchema route v = .ok schema → ∀ schema',
      readSchema route v' = .ok schema' ↔ TakesNull name x ∧ schema' = schema := by
  refine ⟨fun route kind hkind kind' => ?_, fun v v' hat route node hread node' => ?_,
    fun v v' hat route schema hread schema' => ?_⟩
  · rw [classify_map] at hkind ⊢
    exact h.kindOf_iff hname hkind
  · obtain ⟨deep, hdeep⟩ := hat.restsOn route
    exact hdeep.iff hread fun _ _ => h.readNode_iff hname
  · obtain ⟨deep, hdeep⟩ := hat.restsOn route
    exact hdeep.iff hread fun _ _ => h.readNode_iff hname

theorem Nulled.append {name : String} {entries : Entries}
    (h : Value.lookup? entries name = none) :
    Nulled name entries (entries ++ [(.str name, .null)]) :=
  ⟨h, entries, [], (List.append_nil entries).symm, rfl⟩

/-- The title of something in bold. -/
def boldTitle : Entries := [(.str "selector", .str "b"), (.str "attribute", .str "title")]

/-- Links, with one field that is read of each. -/
def linksWith (x : Entries) : Raw := .map [(.str "links", .map [(.str "selector", .str "a"),
  (.str "itemSchema", .map [(.str "text", .map x)])])]

theorem schemaAt_linksWith (x x' : Entries) : SchemaAt x x' (linksWith x) (linksWith x') := by
  have hitem := @NodeAt.item x x' [(.str "selector", .str "a")] [] [] [] "itemSchema" "text" _ _
    rfl (by simp) (by simp) .here
  exact @SchemaAt.field x x' [] [] "links" _ _ hitem

theorem read_nulled_links :
    Nulled "pattern" boldTitle (boldTitle ++ [(.str "pattern", .null)]) ∧
      (∃ schema, readSchema "" (linksWith boldTitle) = .ok schema ∧
        readSchema "" (linksWith (boldTitle ++ [(.str "pattern", .null)])) = .ok schema) ∧
      Nulled "type" boldTitle (boldTitle ++ [(.str "type", .null)]) ∧
      ∀ schema, readSchema "" (linksWith (boldTitle ++ [(.str "type", .null)])) ≠ .ok schema := by
  have hpattern : Nulled "pattern" boldTitle (boldTitle ++ [(.str "pattern", .null)]) :=
    .append rfl
  have htype : Nulled "type" boldTitle (boldTitle ++ [(.str "type", .null)]) :=
    .append rfl
  refine ⟨hpattern, ⟨_, rfl, ?_⟩, htype, fun schema hread => ?_⟩
  · exact ((read_nulled hpattern (by decide)).2.2 _ _ (schemaAt_linksWith _ _) "" _ rfl _).mpr
      ⟨⟨rfl, .inr ⟨by decide, by decide⟩⟩, rfl⟩
  · obtain ⟨⟨-, htakes⟩, -⟩ := ((read_nulled htype (by decide)).2.2 _ _ (schemaAt_linksWith _ _) ""
      _ rfl schema).mp hread
    simp at htakes

/-- Null for an instruction that is not there makes of nodes that are read nodes that are refused:
in one the kind is seen all the same, the other has none any more. -/
theorem null_refused :
    (∃ node, readNode "" heading = .ok node) ∧
      classify "" (.map [(.str "selector", .str "h1"), (.str "meta", .null)]) = .ok .primitive ∧
      (∃ r, readNode "" (.map [(.str "selector", .str "h1"), (.str "meta", .null)]) = .error r ∧
        r.message = "invalid primitive node (meta: Extra inputs are not permitted)") ∧
      readNode "" (.map []) = .ok (.nested []) ∧
      ∃ r, classify "" (.map [(.str "type", .null)]) = .error r ∧
        r.message = "node has type but no selector, meta or itemSchema" :=
  ⟨⟨_, rfl⟩, rfl, ⟨_, rfl, by decide⟩, rfl, _, rfl, by decide⟩

end Schema

end Gleaner
