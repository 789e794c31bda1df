import Gleaner.Proofs.Shape.Member
import Gleaner.Schema.Reader

/-! The grammar of schemas as rules, which say of plain data what schema it is. Whatever the rules
derive is read, and whatever is read is derived by them. -/

namespace Gleaner

/-- Data as a JSON text gives it: the keys are names, and nothing is placed. -/
inductive Raw.Plain : Raw → Prop where
  | null : Plain .null
  | bool (b : Bool) : Plain (.bool b)
  | int (n : Int) : Plain (.int n)
  | float (x : Float) : Plain (.float x)
  | str (s : String) : Plain (.str s)
  | list {vs : List Raw} (items : ∀ v ∈ vs, Plain v) : Plain (.list vs)
  | map {entries : List (Key × Raw)} (named : ∀ e ∈ entries, ∃ name, e.1 = .str name)
      (values : ∀ e ∈ entries, Plain e.2) : Plain (.map entries)

namespace Schema

open Shape

/-- The keys of a mapping are all among the names. -/
def Keyed (entries : Entries) (names : List String) : Prop :=
  ∀ e ∈ entries, ∃ name ∈ names, e.1 = .str name

/-- The attributes that a member says, if it is there. -/
inductive AttributesOf : Option Raw → Attributes → Prop where
  | missing : AttributesOf none .absent
  | null : AttributesOf (some .null) .absent
  | one (name : String) : AttributesOf (some (.str name)) (.one name)
  | several (names : List String) : AttributesOf (some (.list (names.map .str))) (.several names)

/-- The pattern that a member says: any text, for it is not compiled before the field is read. -/
inductive PatternOf : Option Raw → Option Field.Refinement → Prop where
  | missing : PatternOf none none
  | null : PatternOf (some .null) none
  | text (s : String) : PatternOf (some (.str s)) (some (.source s))

inductive TypeOf : Option Raw → Field.FieldType → Prop where
  | missing : TypeOf none .string
  | number : TypeOf (some (.str "number")) .number
  | boolean : TypeOf (some (.str "boolean")) .boolean
  | string : TypeOf (some (.str "string")) .string

mutual

/-- The node that a value says. -/
inductive NodeOf : Raw → Node → Prop where
  | source {entries : Entries} {name : String} (keys : Keyed entries ["meta"])
      (source : Value.lookup? entries "meta" = some (.str name)) :
      NodeOf (.map entries) (.source name)
  | array {entries : Entries} {key selector : String} {v : Raw} {item : Schema}
      (spelling : key ∈ ["itemSchema", "item_schema"]) (keys : Keyed entries ["selector", key])
      (element : Value.lookup? entries "selector" = some (.str selector))
      (found : Value.lookup? entries key = some v) (schema : SchemaOf v item) :
      NodeOf (.map entries) (.array selector item)
  | primitive {entries : Entries} {key : String} {p : Primitive}
      (spelling : key ∈ ["pattern", "regex"])
      (keys : Keyed entries ["selector", "attribute", key, "type"])
      (selector : Value.lookup? entries "selector" = some (.str p.selector))
      (attributes : AttributesOf (Value.lookup? entries "attribute") p.attributes)
      (pattern : PatternOf (Value.lookup? entries key) p.pattern)
      (type : TypeOf (Value.lookup? entries "type") p.type) :
      NodeOf (.map entries) (.primitive p)
  | nested {entries : Entries} {fields : Schema}
      (free : ∀ name ∈ ["meta", "selector", "itemSchema", "item_schema"],
        Value.lookup? entries name = none)
      (named : ∀ name ∈ ["attribute", "pattern", "regex", "type"],
        ∀ v, Value.lookup? entries name = some v → Raw.isMap v)
      (members : FieldsOf entries fields) :
      NodeOf (.map entries) (.nested fields)

/-- The schema that a value says. Its keys are names of fields, whatever they are. -/
inductive SchemaOf : Raw → Schema → Prop where
  | fields {entries : Entries} {fields : Schema} (members : FieldsOf entries fields) :
      SchemaOf (.map entries) fields

/-- The fields that entries say, one for each and in their order. -/
inductive FieldsOf : Entries → Schema → Prop where
  | nil : FieldsOf [] []
  | cons {name : String} {v : Raw} {node : Node} {rest : Entries} {fields : Schema}
      (first : NodeOf v node) (others : FieldsOf rest fields) :
      FieldsOf ((.str name, v) :: rest) ((name, node) :: fields)

end

variable {entries : Entries} {names : List String} {name key : String} {v : Raw}

theorem Keyed.lookup?_eq_none (h : Keyed entries names) (hname : name ∉ names) :
    Value.lookup? entries name = none := by
  rw [Value.lookup?_eq_none]
  intro e he hkey
  obtain ⟨other, hother, heq⟩ := h e he
  rw [hkey] at heq
  cases heq
  exact hname hother

theorem plain_of_lookup? (h : Raw.Plain (.map entries))
    (hv : Value.lookup? entries name = some v) : v.Plain := by
  cases h with
  | map named values => exact values _ (Value.mem_of_lookup? hv)

section Members

theorem readText_eq_ok {s : String} (h : v.Plain) : readText v = .ok s ↔ v = .str s := by
  cases h <;> simp [readText, Raw.text?]

theorem readNames_eq_ok {vs : List Raw} {ss : List String} (h : ∀ v ∈ vs, Raw.Plain v) :
    readNames (.list vs) = .ok ss ↔ vs = ss.map .str := by
  rw [readNames, readItems_eq_ok]
  induction vs generalizing ss with
  | nil => cases ss <;> simp
  | cons v vs ih =>
    obtain ⟨hv, hvs⟩ := List.forall_mem_cons.mp h
    cases ss with
    | nil => simp
    | cons s ss => simp [readText_eq_ok hv, ih hvs]

theorem readAttributes_eq_ok {attributes : Attributes} (h : v.Plain) :
    readAttributes v = .ok attributes ↔ AttributesOf (some v) attributes := by
  cases h with
  | list items =>
    constructor
    · intro hread
      simp only [readAttributes, Raw.isNull, Raw.text?, Bool.false_eq_true, if_false] at hread
      split at hread
      next names hnames =>
        rw [Checked.within_eq_ok, readNames_eq_ok items] at hnames
        cases hread
        exact hnames ▸ .several names
      next => cases hread
    · rintro (_ | _ | _ | ⟨names⟩)
      have hnames := (readNames_eq_ok items).mpr rfl
      simp [readAttributes, Raw.isNull, Raw.text?, hnames, Checked.within]
  | null =>
    constructor
    · rintro ⟨⟩
      exact .null
    · rintro ⟨⟩
      rfl
  | str name =>
    constructor
    · rintro ⟨⟩
      exact .one name
    · rintro ⟨⟩
      rfl
  | bool | int | float | map =>
    constructor
    · rintro ⟨⟩
    · rintro ⟨⟩

theorem readPattern_eq_ok {pattern : Option Field.Refinement} (h : v.Plain) :
    readPattern v = .ok pattern ↔ PatternOf (some v) pattern := by
  cases h with
  | null =>
    constructor
    · rintro ⟨⟩
      exact .null
    · rintro ⟨⟩
      rfl
  | str s =>
    constructor
    · rintro ⟨⟩
      exact .text s
    · rintro ⟨⟩
      rfl
  | bool | int | float | list | map =>
    constructor
    · rintro ⟨⟩
    · rintro ⟨⟩

theorem readType_eq_ok {type : Field.FieldType} (h : v.Plain) :
    readType v = .ok type ↔ TypeOf (some v) type := by
  cases h with
  | str s =>
    constructor
    · intro hread
      simp only [readType, Raw.text?, Option.bind_some] at hread
      split at hread
      next t ht =>
        cases hread
        have hname : type.name = s := by simpa using List.find?_some ht
        cases type with
        | number => exact hname ▸ .number
        | boolean => exact hname ▸ .boolean
        | string => exact hname ▸ .string
      next => cases hread
    · rintro (_ | _ | _ | _) <;> rfl
  | null | bool | int | float | list | map =>
    constructor
    · rintro ⟨⟩
    · rintro ⟨⟩

end Members

section Kinds

/-- A name under which nothing is given, but which may be a field, is not among the keys. -/
theorem lookup?_of_isField (hgiven : Value.given? entries name = none)
    (hfield : isField entries name = true) : Value.lookup? entries name = none := by
  cases h : Value.lookup? entries name with
  | none => rfl
  | some v => cases v <;> simp_all [Value.given?, isField, Raw.isMap]

theorem given?_of_lookup? (h : Value.lookup? entries name = none) :
    Value.given? entries name = none := by
  simp [Value.given?, h]

theorem given?_eq_some :
    Value.given? entries name = some v ↔ Value.lookup? entries name = some v ∧ v ≠ .null := by
  rcases h : Value.lookup? entries name with _ | (_ | _ | _ | _ | _ | _ | _ | _) <;>
    simp [Value.given?, h] <;> rintro rfl <;> simp

theorem gives_iff : gives entries names = true ↔
    ∃ name ∈ names, ∃ v, Value.given? entries name = some v := by
  simp [gives, Option.isSome_iff_exists]

theorem not_gives_iff : ¬ gives entries names = true ↔
    ∀ name ∈ names, Value.given? entries name = none := by
  simp [gives]

theorem mem_instructions : name ∈ instructions ↔
    name ∈ ["meta", "selector", "itemSchema", "item_schema"] ∨
      name ∈ ["attribute", "pattern", "regex", "type"] := by
  simp only [instructions, List.mem_cons, List.not_mem_nil, or_false]
  grind

/-- What a kind says of the entries that have it. -/
theorem of_kindOf {kind : Kind} (h : kindOf entries = .ok kind) :
    match kind with
    | .source => gives entries Form.source = true
    | .array => gives entries Form.item = true
    | .primitive => gives entries Form.selector = true
    | .nested => ¬ gives entries Form.source = true ∧ ¬ gives entries Form.item = true ∧
        ¬ gives entries Form.selector = true ∧
        ∀ name ∈ instructions, isField entries name = true := by
  rw [kindOf] at h
  split at h
  next hsource =>
    cases h
    exact hsource
  next hsource =>
    split at h
    next hitem =>
      cases h
      exact hitem
    next hitem =>
      split at h
      next hselector =>
        cases h
        exact hselector
      next hselector =>
        split at h
        next hfields =>
          cases h
          exact ⟨hsource, hitem, hselector, by simpa using hfields⟩
        next => cases h

/-- A record has none of the names that make another kind of node, and the other instructions only
as fields. -/
theorem kindOf_nested : kindOf entries = .ok .nested ↔
    (∀ name ∈ ["meta", "selector", "itemSchema", "item_schema"],
      Value.lookup? entries name = none) ∧
    ∀ name ∈ ["attribute", "pattern", "regex", "type"],
      ∀ v, Value.lookup? entries name = some v → Raw.isMap v := by
  constructor
  · intro h
    obtain ⟨hsource, hitem, hselector, hfield⟩ := of_kindOf h
    constructor
    · intro name hname
      have hgiven : Value.given? entries name = none := by
        simp only [List.mem_cons, List.not_mem_nil, or_false] at hname
        rcases hname with rfl | rfl | rfl | rfl
        · exact not_gives_iff.mp hsource _ (by simp [Form.source])
        · exact not_gives_iff.mp hselector _ (by simp [Form.selector])
        · exact not_gives_iff.mp hitem _ (by simp [Form.item])
        · exact not_gives_iff.mp hitem _ (by simp [Form.item])
      exact lookup?_of_isField hgiven (hfield name (mem_instructions.mpr (.inl hname)))
    · intro name hname v hv
      have hmap := hfield name (mem_instructions.mpr (.inr hname))
      simpa [isField, hv] using hmap
  · rintro ⟨hfree, hnamed⟩
    have hgives : ∀ names, names ⊆ ["meta", "selector", "itemSchema", "item_schema"] →
        ¬ gives entries names = true := fun names hsub =>
      not_gives_iff.mpr fun name hname => given?_of_lookup? (hfree name (hsub hname))
    have hfields : (instructions.filter fun name => !isField entries name) = [] := by
      rw [List.filter_eq_nil_iff]
      intro name hname
      cases hv : Value.lookup? entries name with
      | none => simp [isField, hv]
      | some v =>
        rcases mem_instructions.mp hname with h | h
        · simp [hfree name h] at hv
        · simp [isField, hv, hnamed name h v hv]
    rw [kindOf, if_neg (hgives _ (by simp [Form.source])), if_neg (hgives _ (by simp [Form.item])),
      if_neg (hgives _ (by simp [Form.selector])), hfields]

theorem kindOf_source (h : Value.lookup? entries "meta" = some v) (hv : v ≠ .null) :
    kindOf entries = .ok .source := by
  have hgives : gives entries Form.source = true :=
    gives_iff.mpr ⟨"meta", by simp [Form.source], v, given?_eq_some.mpr ⟨h, hv⟩⟩
  rw [kindOf, if_pos hgives]

theorem kindOf_array (hsource : Value.lookup? entries "meta" = none) (hkey : key ∈ Form.item)
    (h : Value.lookup? entries key = some v) (hv : v ≠ .null) :
    kindOf entries = .ok .array := by
  have hnot : ¬ gives entries Form.source = true :=
    not_gives_iff.mpr (by simpa [Form.source] using given?_of_lookup? hsource)
  have hgives : gives entries Form.item = true :=
    gives_iff.mpr ⟨key, hkey, v, given?_eq_some.mpr ⟨h, hv⟩⟩
  rw [kindOf, if_neg hnot, if_pos hgives]

theorem kindOf_primitive (hsource : Value.lookup? entries "meta" = none)
    (hitem : ∀ name ∈ Form.item, Value.lookup? entries name = none)
    (h : Value.lookup? entries "selector" = some v) (hv : v ≠ .null) :
    kindOf entries = .ok .primitive := by
  have hnot : ¬ gives entries Form.source = true :=
    not_gives_iff.mpr (by simpa [Form.source] using given?_of_lookup? hsource)
  have hnotItem : ¬ gives entries Form.item = true :=
    not_gives_iff.mpr fun name hname => given?_of_lookup? (hitem name hname)
  have hgives : gives entries Form.selector = true :=
    gives_iff.mpr ⟨"selector", by simp [Form.selector], v, given?_eq_some.mpr ⟨h, hv⟩⟩
  rw [kindOf, if_neg hnot, if_neg hnotItem, if_pos hgives]

theorem lookup?_item_of_kindOf (h : kindOf entries = .ok .array) :
    ∃ key ∈ Form.item, ∃ v, Value.lookup? entries key = some v := by
  obtain ⟨key, hkey, v, hv⟩ := gives_iff.mp (of_kindOf h)
  exact ⟨key, hkey, v, (given?_eq_some.mp hv).1⟩

end Kinds

section Forms

theorem closed_of_keyed {members : List (List String)} (h : Keyed entries names)
    (huse : ∀ name ∈ names, ∃ spellings ∈ members, ∀ v,
      Value.lookup? entries name = some v → member? entries spellings = some (name, v)) :
    closed entries members = .ok () := by
  rw [closed_eq_ok]
  intro e he
  obtain ⟨name, hname, hkey⟩ := h e he
  obtain ⟨spellings, hmem, hspelling⟩ := huse name hname
  obtain ⟨v, hv⟩ := Value.exists_lookup?_of_mem he hkey
  exact ⟨name, hkey, spellings, hmem, v, hspelling v hv⟩

theorem member?_of_lookup? (h : Value.lookup? entries name = some v) :
    member? entries [name] = some (name, v) := by
  simp [member?_single, h]

theorem closed_single : closed entries [[name]] = .ok () ↔ Keyed entries [name] := by
  constructor
  · intro hc e he
    obtain ⟨other, hkey, names, hnames, v, hm⟩ := closed_eq_ok.mp hc e he
    cases List.mem_singleton.mp hnames
    exact ⟨other, (mem_of_member? hm).1, hkey⟩
  · intro hkeys
    refine closed_of_keyed hkeys fun other hother => ⟨[name], List.mem_singleton_self _, ?_⟩
    cases List.mem_singleton.mp hother
    exact fun v hv => member?_of_lookup? hv

theorem requiredText_eq_ok {s : String} (h : Raw.Plain (.map entries)) :
    required entries [name] readText = .ok s ↔ Value.lookup? entries name = some (.str s) := by
  rw [required_eq_ok]
  constructor
  · rintro ⟨key, v, hm, hread⟩
    obtain ⟨hkey, hv⟩ := mem_of_member? hm
    cases List.mem_singleton.mp hkey
    rw [hv, (readText_eq_ok (plain_of_lookup? h hv)).mp hread]
  · intro hv
    exact ⟨name, _, member?_of_lookup? hv, (readText_eq_ok (.str s)).mpr rfl⟩

/-- A member that may be missing is read as it is there, if it has no other spelling. -/
theorem defaulted_iff {β : Type} {default x : β} {read : Raw → Checked β}
    {Says : Option Raw → β → Prop} (hnone : Says none x ↔ x = default)
    (hsome : ∀ {v : Raw}, v.Plain → (read v = .ok x ↔ Says (some v) x))
    (h : Raw.Plain (.map entries)) (hmem : name ∈ names)
    (honly : ∀ other ∈ names, other ≠ name → Value.lookup? entries other = none) :
    defaulted entries names default read = .ok x ↔ Says (Value.lookup? entries name) x := by
  rw [defaulted_eq_ok, member?_of_only hmem honly]
  cases hv : Value.lookup? entries name with
  | none => simp [hnone]
  | some v => simp [hsome (plain_of_lookup? h hv), and_assoc]

theorem sourceOf_eq_ok {node : Node} (h : Raw.Plain (.map entries)) :
    sourceOf entries = .ok node ↔ ∃ name, Keyed entries ["meta"] ∧
      Value.lookup? entries "meta" = some (.str name) ∧ node = .source name := by
  have hclosed : closed entries [Form.source] = .ok () ↔ Keyed entries ["meta"] := closed_single
  simp only [sourceOf, exactly_eq_ok, Checked.both_eq_ok, hclosed]
  constructor
  · rintro ⟨⟨name, ⟨⟩, hread, -, rfl⟩, hkeys⟩
    exact ⟨name, hkeys, (requiredText_eq_ok h).mp hread, rfl⟩
  · rintro ⟨name, hkeys, hv, rfl⟩
    exact ⟨⟨name, (), (requiredText_eq_ok h).mpr hv, trivial, rfl⟩, hkeys⟩

theorem lookup?_other_pattern
    (hkeys : Keyed entries ["selector", "attribute", key, "type"]) :
    ∀ other ∈ Form.pattern, other ≠ key → Value.lookup? entries other = none := by
  intro other hother hne
  refine hkeys.lookup?_eq_none ?_
  simp only [Form.pattern, List.mem_cons, List.not_mem_nil, or_false] at hother
  rcases hother with rfl | rfl <;> simp [hne]

/-- A primitive has a pattern in at most one spelling. -/
theorem closed_primitive :
    closed entries [Form.selector, Form.attributes, Form.pattern, Form.type] = .ok () ↔
      ∃ key ∈ Form.pattern, Keyed entries ["selector", "attribute", key, "type"] := by
  constructor
  · intro hc
    have hkeys : ∀ key, (∀ name v, member? entries Form.pattern = some (name, v) → name = key) →
        Keyed entries ["selector", "attribute", key, "type"] := by
      intro key huse e he
      obtain ⟨name, hname, names, hnames, v, hm⟩ := closed_eq_ok.mp hc e he
      refine ⟨name, ?_, hname⟩
      have hmem := (mem_of_member? hm).1
      simp only [List.mem_cons, List.not_mem_nil, or_false] at hnames ⊢
      rcases hnames with rfl | rfl | rfl | rfl
      · exact .inl (List.mem_singleton.mp hmem)
      · exact .inr (.inl (List.mem_singleton.mp hmem))
      · exact .inr (.inr (.inl (huse name v hm)))
      · exact .inr (.inr (.inr (List.mem_singleton.mp hmem)))
    cases hm : member? entries Form.pattern with
    | none => exact ⟨"pattern", by simp [Form.pattern], hkeys _ (by simp [hm])⟩
    | some found =>
      refine ⟨found.1, (mem_of_member? hm).1, hkeys _ fun name v heq => ?_⟩
      cases hm.symm.trans heq
      rfl
  · rintro ⟨key, hkey, hkeys⟩
    refine closed_of_keyed hkeys fun name hname => ?_
    simp only [List.mem_cons, List.not_mem_nil, or_false] at hname
    rcases hname with rfl | rfl | rfl | rfl
    · exact ⟨Form.selector, by simp, fun v hv => member?_of_lookup? hv⟩
    · exact ⟨Form.attributes, by simp, fun v hv => member?_of_lookup? hv⟩
    · refine ⟨Form.pattern, by simp, fun v hv => ?_⟩
      rw [member?_of_only hkey (lookup?_other_pattern hkeys), hv]
      rfl
    · exact ⟨Form.type, by simp, fun v hv => member?_of_lookup? hv⟩

theorem primitiveOf_eq_ok {node : Node} (h : Raw.Plain (.map entries)) :
    primitiveOf entries = .ok node ↔ ∃ p, node = .primitive p ∧ ∃ key ∈ Form.pattern,
      Keyed entries ["selector", "attribute", key, "type"] ∧
      Value.lookup? entries "selector" = some (.str p.selector) ∧
      AttributesOf (Value.lookup? entries "attribute") p.attributes ∧
      PatternOf (Value.lookup? entries key) p.pattern ∧
      TypeOf (Value.lookup? entries "type") p.type := by
  have hattributes {x} : defaulted entries Form.attributes .absent readAttributes = .ok x ↔
      AttributesOf (Value.lookup? entries "attribute") x :=
    defaulted_iff ⟨fun | .missing => rfl, fun hx => hx ▸ .missing⟩ readAttributes_eq_ok h
      (List.mem_singleton_self _) (by simp [Form.attributes])
  have htype {x} : defaulted entries Form.type .string readType = .ok x ↔
      TypeOf (Value.lookup? entries "type") x :=
    defaulted_iff ⟨fun | .missing => rfl, fun hx => hx ▸ .missing⟩ readType_eq_ok h
      (List.mem_singleton_self _) (by simp [Form.type])
  have hpattern {key x} (hkey : key ∈ Form.pattern)
      (hkeys : Keyed entries ["selector", "attribute", key, "type"]) :
      defaulted entries Form.pattern none readPattern = .ok x ↔
        PatternOf (Value.lookup? entries key) x :=
    defaulted_iff ⟨fun | .missing => rfl, fun hx => hx ▸ .missing⟩ readPattern_eq_ok h hkey
      (lookup?_other_pattern hkeys)
  simp only [primitiveOf, exactly_eq_ok, Checked.both_eq_ok, closed_primitive]
  constructor
  · rintro ⟨⟨_, _, ⟨selector, attributes, hs, ha, rfl⟩, ⟨pattern, type, hp, ht, rfl⟩, rfl⟩,
      key, hkey, hkeys⟩
    exact ⟨_, rfl, key, hkey, hkeys, (requiredText_eq_ok h).mp hs, hattributes.mp ha,
      (hpattern hkey hkeys).mp hp, htype.mp ht⟩
  · rintro ⟨p, rfl, key, hkey, hkeys, hs, ha, hp, ht⟩
    exact ⟨⟨_, _, ⟨_, _, (requiredText_eq_ok h).mpr hs, hattributes.mpr ha, rfl⟩,
      ⟨_, _, (hpattern hkey hkeys).mpr hp, htype.mpr ht, rfl⟩, rfl⟩, key, hkey, hkeys⟩

theorem lookup?_other_item (hboth : bothItems entries = false)
    (hv : Value.lookup? entries key = some v) :
    ∀ other ∈ Form.item, key ∈ Form.item → other ≠ key → Value.lookup? entries other = none := by
  simp only [bothItems, Form.item, List.mem_cons, List.not_mem_nil, or_false] at hboth ⊢
  rintro other (rfl | rfl) (rfl | rfl) hne <;> simp_all

theorem bothItems_eq_false (hkey : key ∈ Form.item)
    (hother : ∀ other ∈ Form.item, other ≠ key → Value.lookup? entries other = none) :
    bothItems entries = false := by
  simp only [bothItems, Form.item, List.mem_cons, List.not_mem_nil, or_false] at hkey hother ⊢
  rcases hkey with rfl | rfl <;> simp_all

theorem mem_foldl_erase {e : Key × Raw} : e ∈ names.foldl Value.erase entries ↔
    e ∈ entries ∧ ∀ name ∈ names, e.1 ≠ .str name := by
  induction names generalizing entries with
  | nil => simp
  | cons name names ih => simp [ih, Value.mem_erase, and_assoc]

/-- Next to its item schema an array has its selector only. -/
theorem closed_array (hkey : key ∈ Form.item) (hv : Value.lookup? entries key = some v)
    (hboth : bothItems entries = false) :
    closed (Form.item.foldl Value.erase entries) [Form.selector] = .ok () ↔
      Keyed entries ["selector", key] := by
  have hclosed : closed (Form.item.foldl Value.erase entries) [Form.selector] = .ok () ↔
      Keyed (Form.item.foldl Value.erase entries) ["selector"] := closed_single
  rw [hclosed]
  constructor
  · intro hrest e he
    by_cases hitem : ∃ name ∈ Form.item, e.1 = .str name
    · obtain ⟨name, hname, heq⟩ := hitem
      refine ⟨name, ?_, heq⟩
      by_cases hne : name = key
      · simp [hne]
      · have hnone := lookup?_other_item hboth hv name hname hkey hne
        exact absurd heq (Value.lookup?_eq_none.mp hnone e he)
    · have hmem := mem_foldl_erase.mpr ⟨he, fun name hname heq => hitem ⟨name, hname, heq⟩⟩
      obtain ⟨name, hname, heq⟩ := hrest e hmem
      exact ⟨name, List.mem_cons.mpr (.inl (List.mem_singleton.mp hname)), heq⟩
  · intro hkeys e he
    obtain ⟨hmem, hnot⟩ := mem_foldl_erase.mp he
    obtain ⟨name, hname, heq⟩ := hkeys e hmem
    rcases List.mem_cons.mp hname with rfl | hname
    · exact ⟨"selector", by simp, heq⟩
    · exact absurd heq (hnot name (List.mem_singleton.mp hname ▸ hkey))

theorem arrayOf_eq_ok {node : Node} {item : Schema} (h : Raw.Plain (.map entries))
    (hkey : key ∈ Form.item) (hv : Value.lookup? entries key = some v)
    (hboth : bothItems entries = false) :
    arrayOf entries item = .ok node ↔ ∃ selector, node = .array selector item ∧
      Keyed entries ["selector", key] ∧
      Value.lookup? entries "selector" = some (.str selector) := by
  simp only [arrayOf, exactly_eq_ok, Checked.both_eq_ok, closed_array hkey hv hboth]
  constructor
  · rintro ⟨⟨selector, ⟨⟩, hs, -, rfl⟩, hkeys⟩
    exact ⟨selector, rfl, hkeys, (requiredText_eq_ok h).mp hs⟩
  · rintro ⟨selector, rfl, hkeys, hs⟩
    exact ⟨⟨selector, (), (requiredText_eq_ok h).mpr hs, trivial, rfl⟩, hkeys⟩

/-- The item schema in its one spelling is the one that is read. -/
theorem readItem_eq {route : String} (hkey : key ∈ Form.item)
    (hv : Value.lookup? entries key = some v)
    (hother : ∀ other ∈ Form.item, other ≠ key → Value.lookup? entries other = none) :
    readItem route entries = readSchema route v := by
  induction entries with
  | nil => cases hv
  | cons e rest ih =>
    obtain ⟨k, w⟩ := e
    rw [readItem]
    by_cases hk : k = .str key
    · subst hk
      rw [Value.lookup?_cons_self] at hv
      cases hv
      rw [if_pos (by simpa [Key.same_str] using hkey)]
    · have hnot : ∀ name ∈ Form.item, k ≠ .str name := by
        intro name hname
        by_cases hne : name = key
        · exact hne ▸ hk
        · exact Value.lookup?_eq_none.mp (hother name hname hne) (k, w) (List.mem_cons_self ..)
      rw [if_neg (by simpa [Key.same_str] using hnot)]
      rw [Value.lookup?_cons_of_ne hk] at hv
      refine ih hv fun other hmem hne => ?_
      rw [← hother other hmem hne, Value.lookup?_cons_of_ne (hnot other hmem)]

end Forms

section Reading

variable {route : String} {node : Node} {fields : Schema}

theorem invalid_eq_ok {kind : Kind} {c : Checked Node} :
    invalid route kind c = .ok node ↔ c = .ok node := by
  cases c <;> simp [invalid]

/-- Fields are read one for each entry, given that their nodes are. -/
theorem readFields_eq_ok (hnamed : ∀ e ∈ entries, ∃ name, e.1 = .str name)
    (hnodes : ∀ e ∈ entries, ∀ route node, readNode route e.2 = .ok node ↔ NodeOf e.2 node) :
    readFields route entries = .ok fields ↔ FieldsOf entries fields := by
  induction entries generalizing fields with
  | nil =>
    constructor
    · rintro ⟨⟩
      exact .nil
    · rintro ⟨⟩
      rfl
  | cons e rest ih =>
    obtain ⟨⟨name, hname⟩, hkeys⟩ := List.forall_mem_cons.mp hnamed
    obtain ⟨hnode, hothers⟩ := List.forall_mem_cons.mp hnodes
    obtain ⟨k, v⟩ := e
    cases hname
    rw [readFields]
    constructor
    · intro hread
      split at hread
      next => cases hread
      next node hv =>
        split at hread
        next => cases hread
        next others hrest =>
          cases hread
          exact .cons ((hnode _ _).mp hv) ((ih hkeys hothers).mp hrest)
    · rintro (_ | ⟨hv, hrest⟩)
      rw [(hnode _ _).mpr hv]
      simp only [(ih hkeys hothers).mpr hrest]

/-- The node that a mapping is read as is one that it says, given that this is so for the schemas in
it. -/
theorem nodeOf_of_readNode (h : Raw.Plain (.map entries))
    (hfields : ∀ fields, readFields route entries = .ok fields ↔ FieldsOf entries fields)
    (hitems : ∀ e ∈ entries, ∀ route item,
      readSchema route e.2 = .ok item ↔ SchemaOf e.2 item)
    (hread : readNode route (.map entries) = .ok node) : NodeOf (.map entries) node := by
  rw [readNode] at hread
  split at hread
  next => cases hread
  next =>
    obtain ⟨name, hkeys, hv, rfl⟩ := (sourceOf_eq_ok h).mp (invalid_eq_ok.mp hread)
    exact .source hkeys hv
  next =>
    obtain ⟨p, rfl, key, hkey, hkeys, hs, ha, hp, ht⟩ :=
      (primitiveOf_eq_ok h).mp (invalid_eq_ok.mp hread)
    exact .primitive hkey hkeys hs ha hp ht
  next hkind =>
    obtain ⟨hfree, hnamed⟩ := kindOf_nested.mp hkind
    cases hf : readFields route entries with
    | error r => simp [hf, Except.map] at hread
    | ok fields =>
      simp only [hf, Except.map, Except.ok.injEq] at hread
      exact hread ▸ .nested hfree hnamed ((hfields fields).mp hf)
  next hkind =>
    split at hread
    next => cases hread
    next hboth =>
      have hboth : bothItems entries = false := by simpa using hboth
      obtain ⟨key, hkey, v, hv⟩ := lookup?_item_of_kindOf hkind
      have hother := fun other hmem => lookup?_other_item hboth hv other hmem hkey
      rw [readItem_eq hkey hv hother] at hread
      split at hread
      next => cases hread
      next item hitem =>
        obtain ⟨selector, rfl, hkeys, hs⟩ :=
          (arrayOf_eq_ok h hkey hv hboth).mp (invalid_eq_ok.mp hread)
        exact .array hkey hkeys hs hv ((hitems _ (Value.mem_of_lookup? hv) _ _).mp hitem)

theorem readNode_of_nodeOf (h : Raw.Plain (.map entries))
    (hfields : ∀ fields, readFields route entries = .ok fields ↔ FieldsOf entries fields)
    (hitems : ∀ e ∈ entries, ∀ route item,
      readSchema route e.2 = .ok item ↔ SchemaOf e.2 item)
    (hsaid : NodeOf (.map entries) node) : readNode route (.map entries) = .ok node := by
  rw [readNode]
  cases hsaid with
  | source hkeys hv =>
    rw [kindOf_source hv (by simp)]
    exact invalid_eq_ok.mpr ((sourceOf_eq_ok h).mpr ⟨_, hkeys, hv, rfl⟩)
  | primitive hkey hkeys hs ha hp ht =>
    have hsource : Value.lookup? entries "meta" = none :=
      hkeys.lookup?_eq_none (by grind)
    have hitem : ∀ name ∈ Form.item, Value.lookup? entries name = none :=
      fun name hname => hkeys.lookup?_eq_none (by grind [Form.item])
    rw [kindOf_primitive hsource hitem hs (by simp)]
    exact invalid_eq_ok.mpr
      ((primitiveOf_eq_ok h).mpr ⟨_, rfl, _, hkey, hkeys, hs, ha, hp, ht⟩)
  | nested hfree hnamed hmembers =>
    rw [kindOf_nested.mpr ⟨hfree, hnamed⟩]
    simp [(hfields _).mpr hmembers, Except.map]
  | @array _ key _ _ _ hkey hkeys hs hv hitem =>
    have hsource : Value.lookup? entries "meta" = none :=
      hkeys.lookup?_eq_none (by grind)
    have hother : ∀ other ∈ Form.item, other ≠ key → Value.lookup? entries other = none :=
      fun other hmem hne => hkeys.lookup?_eq_none (by grind [Form.item])
    have hboth := bothItems_eq_false hkey hother
    have hread := (hitems _ (Value.mem_of_lookup? hv) (Route.items route) _).mpr hitem
    rw [kindOf_array hsource hkey hv (by cases hitem; simp)]
    simp only [hboth, Bool.false_eq_true, if_false, readItem_eq hkey hv hother, hread]
    exact invalid_eq_ok.mpr ((arrayOf_eq_ok h hkey hv hboth).mpr ⟨_, rfl, hkeys, hs⟩)

/-- A mapping is read as the node it says, given that the schemas in it are. -/
theorem readNode_map_eq_ok (h : Raw.Plain (.map entries))
    (hfields : ∀ fields, readFields route entries = .ok fields ↔ FieldsOf entries fields)
    (hitems : ∀ e ∈ entries, ∀ route item,
      readSchema route e.2 = .ok item ↔ SchemaOf e.2 item) :
    readNode route (.map entries) = .ok node ↔ NodeOf (.map entries) node :=
  ⟨nodeOf_of_readNode h hfields hitems, readNode_of_nodeOf h hfields hitems⟩

end Reading

/-- Plain data is read as the node and as the schema that it says, and only as these. -/
theorem read_eq_ok {raw : Raw} (plain : raw.Plain) :
    (∀ route node, readNode route raw = .ok node ↔ NodeOf raw node) ∧
      ∀ route schema, readSchema route raw = .ok schema ↔ SchemaOf raw schema := by
  induction plain with
  | @map entries named values ih =>
    have hfields {route fields} :
        readFields route entries = .ok fields ↔ FieldsOf entries fields :=
      readFields_eq_ok named fun e he => (ih e he).1
    constructor
    · exact fun route node => readNode_map_eq_ok (.map named values) (fun _ => hfields)
        fun e he => (ih e he).2
    · intro route schema
      constructor
      · exact fun hread => .fields (hfields.mp hread)
      · rintro ⟨hmembers⟩
        exact hfields.mpr hmembers
  | null | bool | int | float | str | list =>
    constructor
    · intro route node
      constructor
      · rintro ⟨⟩
      · rintro ⟨⟩
    · intro route schema
      constructor
      · rintro ⟨⟩
      · rintro ⟨⟩

/-- Plain data is read as a schema exactly when the grammar derives one, which then is the one
read; all other data is refused. -/
theorem readSchema_grammar {raw : Raw} (plain : raw.Plain) (route : String) :
    (∀ schema, readSchema route raw = .ok schema ↔ SchemaOf raw schema) ∧
      ((∃ refusal, readSchema route raw = .error refusal) ↔
        ¬ ∃ schema, SchemaOf raw schema) := by
  have hread := (read_eq_ok plain).2 route
  refine ⟨hread, ?_⟩
  simp only [← hread]
  cases readSchema route raw <;> simp

/-- Links with the address of their page, as a list of records. -/
def links : Raw := .map [(.str "links", .map [(.str "item_schema", .map [(.str "page",
  .map [(.str "meta", .str "url")])]), (.str "selector", .str "a")])]

/-- A field with a pattern and nothing to search it in. -/
def loose : Raw := .map [(.str "price", .map [(.str "pattern", .str "\\d+")])]

theorem readSchema_grammar_links : links.Plain ∧ loose.Plain ∧
    SchemaOf links [("links", .array "a" [("page", .source "url")])] ∧
    ¬ ∃ schema, SchemaOf loose schema := by
  have hsource : Raw.Plain (.map [(.str "meta", .str "url")]) :=
    .map (by simp) (by simp [Raw.Plain.str])
  have hitem : Raw.Plain (.map [(.str "page", .map [(.str "meta", .str "url")])]) :=
    .map (by simp) (by simpa using hsource)
  have hlinks : links.Plain :=
    .map (by simp) (by simpa using .map (by simp) (by simpa [Raw.Plain.str] using hitem))
  have hloose : loose.Plain :=
    .map (by simp) (by simpa using .map (by simp) (by simp [Raw.Plain.str]))
  refine ⟨hlinks, hloose, ((readSchema_grammar hlinks "").1 _).mp rfl,
    (readSchema_grammar hloose "").2.mp ⟨_, rfl⟩⟩

end Schema

end Gleaner
