import Gleaner.Shape.Member
import Gleaner.Shape.Scalar

/-! What a check lets through: a check of several parts yields a value when each part does, and a
closed shape has only keys that are the spelling in use of one of its members. -/

namespace Gleaner

theorem Key.same_str {k : Key} {name : String} : k.same (.str name) = true ↔ k = .str name := by
  cases k <;> simp [Key.same, Key.whole?]

namespace Value

variable {α : Type} {entries : List (Key × Value α)} {name other : String} {v : Value α}

theorem mem_of_lookup? (h : lookup? entries name = some v) : (.str name, v) ∈ entries := by
  obtain ⟨e, he, rfl⟩ := Option.map_eq_some_iff.mp h
  have hkey : e.1.same (.str name) = true := by simpa using List.find?_some he
  rw [← Key.same_str.mp hkey]
  exact List.mem_of_find?_eq_some he

theorem lookup?_eq_none :
    lookup? entries name = none ↔ ∀ e : Key × Value α, e ∈ entries → e.1 ≠ .str name := by
  simp [lookup?, Key.same_str]

theorem lookup?_cons_self : lookup? ((.str name, v) :: entries) name = some v := by
  simp [lookup?, Key.same_str]

theorem lookup?_cons_of_ne {k : Key} (h : k ≠ .str name) :
    lookup? ((k, v) :: entries) name = lookup? entries name := by
  simp [lookup?, Key.same_str, h]

theorem exists_lookup?_of_mem {e : Key × Value α} (h : e ∈ entries) (hkey : e.1 = .str name) :
    ∃ v, lookup? entries name = some v := by
  rw [← Option.isSome_iff_exists, Option.isSome_iff_ne_none]
  exact fun hnone => lookup?_eq_none.mp hnone e h hkey

theorem lookup?_putEntry : lookup? (putEntry entries (.str name) v) name = some v := by
  induction entries with
  | nil => exact lookup?_cons_self
  | cons e entries ih =>
    obtain ⟨k, w⟩ := e
    rw [putEntry]
    split
    next hsame =>
      rw [Key.same_str.mp hsame]
      exact lookup?_cons_self
    next hother => rwa [lookup?_cons_of_ne fun heq => hother (Key.same_str.mpr heq)]

theorem lookup?_putEntry_of_ne (hne : other ≠ name) :
    lookup? (putEntry entries (.str name) v) other = lookup? entries other := by
  have hkey : Key.str name ≠ .str other := fun heq => hne (Key.str.inj heq).symm
  induction entries with
  | nil => exact lookup?_cons_of_ne hkey
  | cons e entries ih =>
    obtain ⟨k, w⟩ := e
    rw [putEntry]
    split
    next hsame =>
      rw [Key.same_str.mp hsame, lookup?_cons_of_ne hkey, lookup?_cons_of_ne hkey]
    next hother =>
      by_cases hk : k = .str other
      · rw [hk, lookup?_cons_self, lookup?_cons_self]
      · rw [lookup?_cons_of_ne hk, lookup?_cons_of_ne hk, ih]

theorem mem_erase {e : Key × Value α} : e ∈ erase entries name ↔ e ∈ entries ∧ e.1 ≠ .str name := by
  simp [erase, Key.same_str, ← Bool.not_eq_true]

end Value

namespace Shape

namespace Checked

variable {β γ δ : Type} {place : String} {cause : Cause} {f : β → γ → δ} {a : Checked β}
  {b : Checked γ} {x : β} {z : δ}

@[simp] theorem refuse_eq_ok : refuse cause = .ok x ↔ False := by
  simp [refuse]

@[simp] theorem within_eq_ok : a.within place = .ok x ↔ a = .ok x := by
  cases a <;> simp [within]

theorem both_eq_ok : both f a b = .ok z ↔ ∃ x y, a = .ok x ∧ b = .ok y ∧ f x y = z := by
  cases a <;> cases b <;> simp [both]

theorem all_eq_ok {cs : List (Checked β)} {xs : List β} : all cs = .ok xs ↔ cs = xs.map .ok := by
  induction cs generalizing xs with
  | nil => cases xs <;> simp [all]
  | cons c cs ih =>
    cases xs <;> simp [all, both_eq_ok, ih]

end Checked

variable {β : Type} {entries : Entries} {members : List (List String)} {names : List String}
  {name : String} {v : Raw} {x default : β} {read : Raw → Checked β}

theorem member?_single :
    member? entries [name] = (Value.lookup? entries name).map fun v => (name, v) := by
  cases h : Value.lookup? entries name <;> simp [member?, h]

theorem mem_of_member? (h : member? entries names = some (name, v)) :
    name ∈ names ∧ Value.lookup? entries name = some v := by
  obtain ⟨spelling, hmem, hfound⟩ := List.exists_of_findSome?_eq_some h
  obtain ⟨w, hw, heq⟩ := Option.map_eq_some_iff.mp hfound
  cases heq
  exact ⟨hmem, hw⟩

theorem member?_eq_none : member? entries names = none ↔
    ∀ name ∈ names, Value.lookup? entries name = none := by
  simp [member?]

/-- A member with one spelling among the keys has that spelling in use. -/
theorem member?_of_only (hmem : name ∈ names)
    (honly : ∀ other ∈ names, other ≠ name → Value.lookup? entries other = none) :
    member? entries names = (Value.lookup? entries name).map fun v => (name, v) := by
  cases hm : member? entries names with
  | none => simp [member?_eq_none.mp hm name hmem]
  | some found =>
    obtain ⟨spelling, w⟩ := found
    obtain ⟨hspelling, hw⟩ := mem_of_member? hm
    by_cases heq : spelling = name
    · simp [← heq, hw]
    · simp [honly spelling hspelling heq] at hw

theorem required_eq_ok : required entries names read = .ok x ↔
    ∃ name v, member? entries names = some (name, v) ∧ read v = .ok x := by
  rcases h : member? entries names with _ | ⟨name, v⟩ <;> simp [required, h, and_assoc]

theorem defaulted_eq_ok : defaulted entries names default read = .ok x ↔
    (member? entries names = none ∧ x = default) ∨
      ∃ name v, member? entries names = some (name, v) ∧ read v = .ok x := by
  rcases h : member? entries names with _ | ⟨name, v⟩
  · simp [defaulted, h, eq_comm]
  · simp [defaulted, h, and_assoc]

theorem closed_eq_ok : closed entries members = .ok () ↔
    ∀ e ∈ entries, ∃ name, e.1 = .str name ∧
      ∃ names ∈ members, ∃ v, member? entries names = some (name, v) := by
  have hkey : ∀ k, complaint? entries members k = none ↔ ∃ name, k = .str name ∧
      ∃ names ∈ members, ∃ v, member? entries names = some (name, v) := by
    intro k
    cases k <;> simp [complaint?, Option.any_eq_true]
  have hall : closed entries members = .ok () ↔
      (entries.filterMap fun e => complaint? entries members e.1) = [] := by
    rw [closed]
    generalize (entries.filterMap fun e => complaint? entries members e.1) = cs
    cases cs <;> simp
  simp only [hall, List.filterMap_eq_nil_iff, hkey]

theorem exactly_eq_ok {value : Checked β} : exactly entries members value = .ok x ↔
    value = .ok x ∧ closed entries members = .ok () := by
  simp only [exactly, Checked.both_eq_ok]
  constructor
  · rintro ⟨y, ⟨⟩, hvalue, hclosed, rfl⟩
    exact ⟨hvalue, hclosed⟩
  · rintro ⟨hvalue, hclosed⟩
    exact ⟨x, (), hvalue, hclosed, rfl⟩

/-- Items are read when each of them is. -/
theorem readItems_eq_ok {vs : List Raw} {xs : List β} :
    readItems read vs = .ok xs ↔ vs.map read = xs.map .ok := by
  simp [readItems, Checked.all_eq_ok, List.ext_getElem_iff]

theorem readEntry_eq_ok {k : Key} {value : Checked β} {e : String × β} :
    readEntry k value = .ok e ↔ k = .str e.1 ∧ value = .ok e.2 := by
  obtain ⟨name, y⟩ := e
  unfold readEntry
  rw [Checked.both_eq_ok]
  cases k <;> simp [and_comm, and_assoc]

end Shape

end Gleaner
