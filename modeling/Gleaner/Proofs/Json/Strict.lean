import Gleaner.Proofs.Json.Readback

/-! The texts of JSON, without the words for numbers that it does not have: every value that has a
text has one of these. -/

namespace Gleaner.Json

open Decimal

variable {α : Type} {blank : Char → Prop} {l : Layout} {depth : Nat} {v : Value α}
  {cs : List Char}

/-- What may stand between the quotes of a string. -/
inductive Chars : List Char → Prop where
  | nil : Chars []
  | plain {c : Char} {cs : List Char} :
      32 ≤ c.toNat → c ≠ '"' → c ≠ '\\' → Chars cs → Chars (c :: cs)
  | letter {e : Char} {cs : List Char} :
      e ∈ ['"', '\\', '/', 'b', 'f', 'n', 'r', 't'] → Chars cs → Chars ('\\' :: e :: cs)
  | number {us cs : List Char} :
      us.length = 4 → (∀ u ∈ us, Text.isHexDigit u = true) → Chars cs →
      Chars ('\\' :: 'u' :: (us ++ cs))

mutual

/-- `Strict blank cs` says that `cs` is the text of a value, with nothing but blanks around its
parts. A number is one with digits. -/
inductive Strict (blank : Char → Prop) : List Char → Prop where
  | null : Strict blank ['n', 'u', 'l', 'l']
  | true : Strict blank ['t', 'r', 'u', 'e']
  | false : Strict blank ['f', 'a', 'l', 's', 'e']
  | number {n : Numeral} : n.Proper → Strict blank n.text
  | string {cs : List Char} : Chars cs → Strict blank ('"' :: (cs ++ ['"']))
  | emptyList {gap : List Char} : (∀ c ∈ gap, blank c) → Strict blank ('[' :: (gap ++ [']']))
  | list {cs : List Char} : StrictItems blank cs → Strict blank ('[' :: (cs ++ [']']))
  | emptyMap {gap : List Char} : (∀ c ∈ gap, blank c) → Strict blank ('{' :: (gap ++ ['}']))
  | map {cs : List Char} : StrictEntries blank cs → Strict blank ('{' :: (cs ++ ['}']))

/-- Values with a comma between any two. -/
inductive StrictItems (blank : Char → Prop) : List Char → Prop where
  | last {a cs b : List Char} : (∀ c ∈ a, blank c) → Strict blank cs → (∀ c ∈ b, blank c) →
      StrictItems blank (a ++ (cs ++ b))
  | more {a cs b rest : List Char} : (∀ c ∈ a, blank c) → Strict blank cs → (∀ c ∈ b, blank c) →
      StrictItems blank rest → StrictItems blank (a ++ (cs ++ (b ++ ',' :: rest)))

/-- Names with their values, and a comma between any two. -/
inductive StrictEntries (blank : Char → Prop) : List Char → Prop where
  | last {a cs b : List Char} : (∀ c ∈ a, blank c) → StrictEntry blank cs → (∀ c ∈ b, blank c) →
      StrictEntries blank (a ++ (cs ++ b))
  | more {a cs b rest : List Char} : (∀ c ∈ a, blank c) → StrictEntry blank cs →
      (∀ c ∈ b, blank c) → StrictEntries blank rest →
      StrictEntries blank (a ++ (cs ++ (b ++ ',' :: rest)))

/-- A name in quotes and its value, with a colon between them. -/
inductive StrictEntry (blank : Char → Prop) : List Char → Prop where
  | entry {name a b cs : List Char} : Chars name → (∀ c ∈ a, blank c) → (∀ c ∈ b, blank c) →
      Strict blank cs → StrictEntry blank ('"' :: (name ++ ('"' :: (a ++ (':' :: (b ++ cs))))))

end

section Parts

theorem mem_of_simpleEscape? {e c : Char} (h : simpleEscape? e = some c) :
    e ∈ ['"', '\\', '/', 'b', 'f', 'n', 'r', 't'] := by
  unfold simpleEscape? at h
  split at h <;> simp_all

theorem isHexDigit_of_mem_hexFixed {k n : Nat} {u : Char} (h : u ∈ Text.hexFixed k n) :
    Text.isHexDigit u = true := by
  have hdigit : ∀ n < 16, Text.isHexDigit (Text.hexDigit n) = true := by decide
  induction k generalizing n with
  | zero => cases h
  | succ k ih =>
    rcases List.mem_append.mp h with h | h
    · exact ih h
    · rw [List.mem_singleton.mp h]
      exact hdigit (n % 16) (Nat.mod_lt n (by decide))

theorem Escaped.chars {c : Char} {rest : List Char} (h : Escaped c cs) (hrest : Chars rest) :
    Chars (cs ++ rest) := by
  cases h with
  | letter e _ he => exact .letter (mem_of_simpleEscape? he) hrest
  | number hc => exact .number rfl (fun _ => isHexDigit_of_mem_hexFixed) hrest
  | plain hc hquote hslash => exact .plain hc hquote hslash hrest

theorem chars_flatMap_escape (cs : List Char) : Chars (cs.flatMap escape) := by
  induction cs with
  | nil => exact .nil
  | cons c cs ih => exact (escaped_escape c).chars ih

end Parts

section Texts

theorem itemsFault?_cons {vs : List (Value α)} :
    itemsFault? (v :: vs) = none ↔ fault? v = none ∧ itemsFault? vs = none := by
  rw [itemsFault?]
  cases fault? v <;> simp

theorem entriesFault?_cons {k : Key} {es : List (Key × Value α)}
    (h : entriesFault? ((k, v) :: es) = none) : fault? v = none ∧ entriesFault? es = none := by
  rw [entriesFault?] at h
  cases hk : (keyFault? k : Option (Unwritable α)) <;> cases hv : fault? v <;> simp_all

mutual

/-- What can be read back has a text. -/
theorem fault?_of_readable {v : Value α} (h : Readable v) : fault? v = none := by
  cases v with
  | float x => simp [fault?, floatFault?, h.1]
  | leaf a => cases h
  | list vs => exact itemsFault?_of_readable h
  | map es => exact entriesFault?_of_readable h.1.1 h.2
  | _ => rfl

theorem itemsFault?_of_readable {vs : List (Value α)} (h : ReadableItems vs) :
    itemsFault? vs = none := by
  cases vs with
  | nil => rfl
  | cons v vs => exact itemsFault?_cons.mpr ⟨fault?_of_readable h.1, itemsFault?_of_readable h.2⟩

theorem entriesFault?_of_readable {es : List (Key × Value α)}
    (hnames : ∀ e ∈ es, ∃ name, e.1 = .str name) (h : ReadableEntries es) :
    entriesFault? es = none := by
  cases es with
  | nil => rfl
  | cons e es =>
    obtain ⟨k, v⟩ := e
    obtain ⟨⟨name, rfl⟩, hrest⟩ := List.forall_mem_cons.mp hnames
    have hv := fault?_of_readable h.1
    have hes := entriesFault?_of_readable hrest h.2
    simp [entriesFault?, keyFault?, hv, hes]

end

/-- A value after a gap, and the items behind it up to a gap. -/
theorem strictItems_text {gap : List Char} {vs : List (Value α)} (outer : Nat)
    (hgap : ∀ c ∈ gap, l.Blank c)
    (hl : ∀ c, l.Blank c → blank c) (h : ∀ w ∈ v :: vs, Strict blank (text l depth w)) :
    StrictItems blank (gap ++ (text l depth v ++ (itemsText l depth vs ++ l.newline outer))) := by
  induction vs generalizing v gap with
  | nil =>
    exact .last (fun c hc => hl c (hgap c hc)) (h v List.mem_cons_self)
      fun c hc => hl c (blank_of_mem_newline hc)
  | cons w vs ih =>
    obtain ⟨after, hcomma, hafter⟩ := exists_comma l depth
    have hrest := ih hafter fun u hu => h u (List.mem_cons_of_mem v hu)
    have hmore := StrictItems.more (b := []) (fun c hc => hl c (hgap c hc)) (h v List.mem_cons_self)
      nofun hrest
    simpa [itemsText, hcomma] using hmore

theorem strictEntry_text {e : Key × Value α} (hl : ∀ c, l.Blank c → blank c)
    (h : Strict blank (text l depth e.2)) :
    StrictEntry blank (stringText (keyName e.1) ++ (':' :: ' ' :: text l depth e.2)) := by
  have hentry := StrictEntry.entry (a := []) (b := [' '])
    (chars_flatMap_escape (keyName e.1).toList) nofun
    (fun c hc => hl c (.inl (List.mem_singleton.mp hc))) h
  simpa [stringText] using hentry

theorem strictEntries_text {gap : List Char} {e : Key × Value α} {es : List (Key × Value α)}
    (outer : Nat) (hgap : ∀ c ∈ gap, l.Blank c) (hl : ∀ c, l.Blank c → blank c)
    (h : ∀ f ∈ e :: es, Strict blank (text l depth f.2)) :
    StrictEntries blank (gap ++ (stringText (keyName e.1) ++ (':' :: ' ' :: text l depth e.2) ++
      (entriesText l depth es ++ l.newline outer))) := by
  induction es generalizing e gap with
  | nil =>
    exact .last (fun c hc => hl c (hgap c hc)) (strictEntry_text hl (h e List.mem_cons_self))
      fun c hc => hl c (blank_of_mem_newline hc)
  | cons f es ih =>
    obtain ⟨after, hcomma, hafter⟩ := exists_comma l depth
    have hrest := ih hafter fun u hu => h u (List.mem_cons_of_mem e hu)
    have hmore := StrictEntries.more (b := []) (fun c hc => hl c (hgap c hc))
      (strictEntry_text hl (h e List.mem_cons_self)) nofun hrest
    simpa [entriesText, hcomma] using hmore

mutual

/-- The text of a value that has no part without a text is one of JSON. -/
theorem strict_text {v : Value α} (h : fault? v = none) (hl : ∀ c, l.Blank c → blank c)
    (depth : Nat) : Strict blank (text l depth v) := by
  cases v with
  | null => exact .null
  | bool b =>
    cases b
    · exact .false
    · exact .true
  | int k =>
    rw [text, ← text_ofInt]
    exact .number (proper_ofInt k)
  | float x =>
    have hfinite : x.isFinite = true := by
      simpa [fault?, floatFault?] using h
    obtain ⟨n, hproper, -, htext⟩ := exists_numeral hfinite
    rw [text, htext]
    exact .number hproper
  | str s => exact .string (chars_flatMap_escape s.toList)
  | list vs =>
    have hitems := strict_itemsText h hl (depth + 1)
    cases vs with
    | nil => exact .emptyList (List.forall_mem_nil blank)
    | cons v vs =>
      have hgap : ∀ c ∈ l.newline (depth + 1), l.Blank c := fun _ => blank_of_mem_newline
      have hlist := strictItems_text depth hgap hl hitems
      simpa [text] using Strict.list hlist
  | map es =>
    have hentries := strict_entriesText h hl (depth + 1)
    cases es with
    | nil => exact .emptyMap (List.forall_mem_nil blank)
    | cons e es =>
      have hgap : ∀ c ∈ l.newline (depth + 1), l.Blank c := fun _ => blank_of_mem_newline
      have hmap := strictEntries_text depth hgap hl hentries
      simpa [text] using Strict.map hmap
  | leaf a => cases h

theorem strict_itemsText {vs : List (Value α)} (h : itemsFault? vs = none)
    (hl : ∀ c, l.Blank c → blank c) (depth : Nat) : ∀ v ∈ vs, Strict blank (text l depth v) := by
  cases vs with
  | nil => simp
  | cons v vs =>
    obtain ⟨hfirst, hrest⟩ := itemsFault?_cons.mp h
    have hv := strict_text hfirst hl depth
    have hvs := strict_itemsText hrest hl depth
    exact List.forall_mem_cons.mpr ⟨hv, hvs⟩

theorem strict_entriesText {es : List (Key × Value α)} (h : entriesFault? es = none)
    (hl : ∀ c, l.Blank c → blank c) (depth : Nat) : ∀ e ∈ es, Strict blank (text l depth e.2) := by
  cases es with
  | nil => simp
  | cons e es =>
    obtain ⟨k, v⟩ := e
    obtain ⟨hfirst, hrest⟩ := entriesFault?_cons h
    have hv := strict_text hfirst hl depth
    have hes := strict_entriesText hrest hl depth
    exact List.forall_mem_cons.mpr ⟨hv, hes⟩

end

end Texts

section Characters

/-- Every character is a blank, or no control character. -/
def Clear (blank : Char → Prop) (cs : List Char) : Prop := ∀ c ∈ cs, 32 ≤ c.toNat ∨ blank c

theorem clear_append {ds : List Char} :
    Clear blank (cs ++ ds) ↔ Clear blank cs ∧ Clear blank ds :=
  List.forall_mem_append

theorem clear_cons {c : Char} (h : 32 ≤ c.toNat) : Clear blank (c :: cs) ↔ Clear blank cs := by
  simp [Clear, h]

theorem clear_gap (h : ∀ c ∈ cs, blank c) : Clear blank cs := fun c hc => .inr (h c hc)

theorem toNat_of_isHexDigit {u : Char} (h : Text.isHexDigit u = true) : 32 ≤ u.toNat := by
  have hcontrol : ∀ n < 32, Text.isHexDigit (Char.ofNat n) = false := by decide
  by_contra hlt
  have hu := hcontrol u.toNat (by omega)
  rw [Char.ofNat_toNat, h] at hu
  cases hu

theorem clear_chars (h : Chars cs) : Clear blank cs := by
  induction h with
  | nil => nofun
  | plain hc _ _ _ ih => exact (clear_cons hc).mpr ih
  | @letter e cs he _ ih =>
    have hletter : 32 ≤ e.toNat := by fin_cases he <;> decide
    exact (clear_cons (by decide)).mpr ((clear_cons hletter).mpr ih)
  | @number us cs _ hus _ ih =>
    have hdigits : Clear blank us := fun u hu => .inl (toNat_of_isHexDigit (hus u hu))
    exact (clear_cons (by decide)).mpr
      ((clear_cons (by decide)).mpr (clear_append.mpr ⟨hdigits, ih⟩))

theorem clear_numeral {n : Numeral} (hn : n.Proper) : Clear blank n.text := by
  intro c hc
  rcases Numeral.isPart_cases (Numeral.isPart_of_mem_text hn hc) with
    hdigit | rfl | rfl | rfl | rfl
  · have := Numeral.toNat_of_isDigit hdigit
    exact .inl (by omega)
  all_goals exact .inl (by decide)

theorem clear_between {a b : Char} (ha : 32 ≤ a.toNat) (hb : 32 ≤ b.toNat) (h : Clear blank cs) :
    Clear blank (a :: (cs ++ [b])) :=
  (clear_cons ha).mpr (clear_append.mpr ⟨h, (clear_cons hb).mpr nofun⟩)

mutual

/-- There are no control characters in a text but for blanks. -/
theorem clear_strict {cs : List Char} : Strict blank cs → Clear blank cs
  | .null => fun c hc => .inl (by fin_cases hc <;> decide)
  | .true => fun c hc => .inl (by fin_cases hc <;> decide)
  | .false => fun c hc => .inl (by fin_cases hc <;> decide)
  | .number hn => clear_numeral hn
  | .string hcs => clear_between (by decide) (by decide) (clear_chars hcs)
  | .emptyList hgap => clear_between (by decide) (by decide) (clear_gap hgap)
  | .list hitems => clear_between (by decide) (by decide) (clear_strictItems hitems)
  | .emptyMap hgap => clear_between (by decide) (by decide) (clear_gap hgap)
  | .map hentries => clear_between (by decide) (by decide) (clear_strictEntries hentries)

theorem clear_strictItems {cs : List Char} : StrictItems blank cs → Clear blank cs
  | .last ha hcs hb =>
    clear_append.mpr ⟨clear_gap ha, clear_append.mpr ⟨clear_strict hcs, clear_gap hb⟩⟩
  | .more ha hcs hb hrest =>
    clear_append.mpr ⟨clear_gap ha, clear_append.mpr ⟨clear_strict hcs,
      clear_append.mpr ⟨clear_gap hb, (clear_cons (by decide)).mpr (clear_strictItems hrest)⟩⟩⟩

theorem clear_strictEntries {cs : List Char} : StrictEntries blank cs → Clear blank cs
  | .last ha hcs hb =>
    clear_append.mpr ⟨clear_gap ha, clear_append.mpr ⟨clear_strictEntry hcs, clear_gap hb⟩⟩
  | .more ha hcs hb hrest =>
    clear_append.mpr ⟨clear_gap ha, clear_append.mpr ⟨clear_strictEntry hcs,
      clear_append.mpr ⟨clear_gap hb, (clear_cons (by decide)).mpr (clear_strictEntries hrest)⟩⟩⟩

theorem clear_strictEntry {cs : List Char} : StrictEntry blank cs → Clear blank cs
  | .entry hname ha hb hcs =>
    (clear_cons (by decide)).mpr (clear_append.mpr ⟨clear_chars hname,
      (clear_cons (by decide)).mpr (clear_append.mpr ⟨clear_gap ha,
        (clear_cons (by decide)).mpr (clear_append.mpr ⟨clear_gap hb, clear_strict hcs⟩)⟩)⟩)

end

/-- On one line there are no line feeds. -/
theorem newline_notMem_line (h : fault? v = none) : '\n' ∉ text .line 0 v := by
  intro hmem
  have hstrict : Strict Layout.line.Blank (text .line 0 v) := strict_text h (fun _ => id) 0
  rcases clear_strict hstrict '\n' hmem with hcontrol | hspace | ⟨-, hline⟩
  · exact absurd hcontrol (by decide)
  · exact absurd hspace (by decide)
  · exact hline rfl

/-- There are no carriage returns in a text of any layout. -/
theorem return_notMem (h : fault? v = none) (l : Layout) : '\r' ∉ text l 0 v := by
  intro hmem
  have hstrict : Strict l.Blank (text l 0 v) := strict_text h (fun _ => id) 0
  rcases clear_strict hstrict '\r' hmem with hcontrol | hspace | ⟨hfeed, -⟩
  · exact absurd hcontrol (by decide)
  · exact absurd hspace (by decide)
  · exact absurd hfeed (by decide)

end Characters

end Gleaner.Json
