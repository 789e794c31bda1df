import Gleaner.Proofs.Json.Tokens
import Gleaner.Proofs.Shape.Member

/-! The text of a value, on one line or indented, reads as the value. -/

namespace Gleaner

section Entries

variable {β : Type} {entries : List (Key × β)} {name : String} {b : β}

theorem putEntry_of_notMem (h : ∀ e ∈ entries, e.1 ≠ .str name) :
    putEntry entries (.str name) b = entries ++ [(.str name, b)] := by
  induction entries with
  | nil => rfl
  | cons e entries ih =>
    obtain ⟨k, a⟩ := e
    have hk : k.same (.str name) = false :=
      Bool.eq_false_iff.mpr fun hsame => h (k, a) List.mem_cons_self (Key.same_str.mp hsame)
    have hrest := ih fun e he => h e (List.mem_cons_of_mem _ he)
    simp [putEntry, hk, hrest]

/-- Every key is a name, and no two are the same. -/
def Distinct (entries : List (Key × β)) : Prop :=
  (∀ e ∈ entries, ∃ name, e.1 = .str name) ∧ entries.Pairwise fun e f => e.1 ≠ f.1

theorem distinct_nil : Distinct ([] : List (Key × β)) := ⟨nofun, .nil⟩

theorem distinct_cons {e : Key × β} : Distinct (e :: entries) ↔
    (∃ name, e.1 = .str name) ∧ (∀ f ∈ entries, e.1 ≠ f.1) ∧ Distinct entries := by
  simp only [Distinct, List.forall_mem_cons, List.pairwise_cons]
  tauto

theorem distinct_concat (h : Distinct entries) (hnew : ∀ e ∈ entries, e.1 ≠ .str name) :
    Distinct (entries ++ [(.str name, b)]) := by
  refine ⟨List.forall_mem_append.mpr ⟨h.1, by simp⟩, List.pairwise_append.mpr ⟨h.2, by simp, ?_⟩⟩
  simpa using hnew

/-- Entries with distinct names are the mapping that they stand for. -/
theorem entriesOf_eq_self (h : Distinct entries) : entriesOf entries = entries := by
  suffices hfold : ∀ before : List (Key × β), (∀ e ∈ before, ∀ f ∈ entries, e.1 ≠ f.1) →
      entries.foldl (fun acc p => putEntry acc p.1 p.2) before = before ++ entries from
    hfold [] (by simp)
  induction entries with
  | nil => simp
  | cons e entries ih =>
    intro before hbefore
    obtain ⟨⟨name, hname⟩, hfirst, hrest⟩ := distinct_cons.mp h
    have hput : putEntry before e.1 e.2 = before ++ [e] := by
      rw [hname, putEntry_of_notMem fun f hf => hname ▸ hbefore f hf e List.mem_cons_self, ← hname]
    rw [List.foldl_cons, hput, ih hrest]
    · simp
    · intro f hf g hg
      rcases List.mem_append.mp hf with hf | hf
      · exact hbefore f hf g (List.mem_cons_of_mem e hg)
      · rw [List.mem_singleton.mp hf]
        exact hfirst g hg

end Entries

namespace Json

open Decimal

variable {α : Type} {l : Layout} {depth fuel : Nat} {v : Value α} {vs : List (Value α)}
  {es : List (Key × Value α)} {k : String} {rest r after : List Char} {x : Float}

section Gaps

theorem skipGap_cons {c : Char} (h : isGap c = false) : skipGap (c :: r) = c :: r :=
  List.dropWhile_cons_of_neg (by simp [h])

/-- The blanks of a layout: on one line there are no line feeds. -/
def Layout.Blank (l : Layout) (c : Char) : Prop := c = ' ' ∨ c = '\n' ∧ l ≠ .line

theorem isGap_of_blank {c : Char} (h : l.Blank c) : isGap c = true := by
  rcases h with rfl | ⟨rfl, -⟩ <;> rfl

theorem blank_of_mem_newline {c : Char} (h : c ∈ l.newline depth) : l.Blank c := by
  cases l with
  | line => cases h
  | indented columns =>
    rcases List.mem_cons.mp h with rfl | h
    · exact .inr ⟨rfl, nofun⟩
    · exact .inl (List.eq_of_mem_replicate h)

theorem exists_comma (l : Layout) (depth : Nat) :
    ∃ gap, l.comma depth = ',' :: gap ∧ ∀ c ∈ gap, l.Blank c := by
  cases l with
  | line => exact ⟨[' '], rfl, fun c h => .inl (List.mem_singleton.mp h)⟩
  | indented columns => exact ⟨_, rfl, fun c h => blank_of_mem_newline (l := .indented columns) h⟩

theorem skipGap_append (h : ∀ c ∈ r, l.Blank c) : skipGap (r ++ rest) = skipGap rest :=
  List.dropWhile_append_of_pos fun c hc => isGap_of_blank (h c hc)

theorem skipGap_newline : skipGap (l.newline depth ++ rest) = skipGap rest :=
  skipGap_append fun _ => blank_of_mem_newline

/-- What a value may start with. -/
def opens : List Char → Bool
  | [] => false
  | c :: _ => !(isGap c || c = ']' || c = '}' || c = '\uFEFF')

theorem skipGap_of_opens (h : opens r = true) : skipGap r = r := by
  cases r with
  | nil => rfl
  | cons c r =>
    simp only [opens, Bool.not_eq_true', Bool.or_eq_false_iff] at h
    exact skipGap_cons h.1.1.1

theorem opens_append (h : opens r = true) (rest : List Char) : opens (r ++ rest) = true := by
  cases r with
  | nil => cases h
  | cons c r => exact h

end Gaps

mutual

/-- What has a text from which it can be read: finite numbers that come back from their own text,
and mappings with distinct names. -/
def Readable : Value α → Prop
  | .float x => x.isFinite = true ∧ Decimal.read? (Decimal.render x) = some x
  | .list vs => ReadableItems vs
  | .map es => Distinct es ∧ ReadableEntries es
  | .leaf _ => False
  | _ => True

def ReadableItems : List (Value α) → Prop
  | [] => True
  | v :: vs => Readable v ∧ ReadableItems vs

def ReadableEntries : List (Key × Value α) → Prop
  | [] => True
  | (_, v) :: es => Readable v ∧ ReadableEntries es

end

theorem readableItems_iff : ReadableItems vs ↔ ∀ v ∈ vs, Readable v := by
  induction vs with
  | nil => simp [ReadableItems]
  | cons v vs ih => simp [ReadableItems, ih]

theorem readableEntries_iff : ReadableEntries es ↔ ∀ v ∈ es.map (·.2), Readable v := by
  induction es with
  | nil => simp [ReadableEntries]
  | cons e es ih => simp [ReadableEntries, ih]

/-- A readable mapping with one more name. -/
theorem readable_concat (h : Readable (.map es)) (hnew : ∀ e ∈ es, e.1 ≠ .str k)
    (hv : Readable v) : Readable (.map (es ++ [(.str k, v)])) := by
  refine ⟨distinct_concat h.1 hnew, readableEntries_iff.mpr ?_⟩
  rw [List.map_append]
  exact List.forall_mem_append.mpr ⟨readableEntries_iff.mp h.2, by simpa using hv⟩

/-- A number as it is written, if it is finite and comes back. -/
theorem exists_numeral_of_readable (h : Readable (.float x : Value α)) :
    ∃ n : Numeral, n.Proper ∧ n.Broken ∧ ofFloat x = n.text ∧ n.literal.toFloat = x := by
  obtain ⟨hfinite, hread⟩ := h
  obtain ⟨n, hproper, hbroken, htext⟩ := exists_numeral hfinite
  rw [render, htext, Numeral.read?_text hproper] at hread
  exact ⟨n, hproper, hbroken, htext, Option.some.inj hread⟩

/-- A number starts with a character of numbers, so with none that opens something else. -/
theorem head_of_proper {n : Numeral} (hn : n.Proper) :
    ∃ c cs, n.text = c :: cs ∧ ∀ d, Numeral.isPart d = false → c ≠ d := by
  obtain ⟨c, ds, hcons, -⟩ := hn.exists_cons
  obtain ⟨c, cs, htext⟩ := List.exists_cons_of_ne_nil
    (show n.text ≠ [] by simp [Numeral.text, hcons])
  have hpart := Numeral.isPart_of_mem_text hn (c := c) (by simp [htext])
  refine ⟨c, cs, htext, ?_⟩
  rintro d hd rfl
  rw [hpart] at hd
  cases hd

theorem opens_numeral {n : Numeral} (hn : n.Proper) : opens n.text = true := by
  obtain ⟨c, cs, htext, hne⟩ := head_of_proper hn
  rw [htext]
  simp [opens, isGap, hne ' ' rfl, hne '\t' rfl, hne '\n' rfl, hne '\r' rfl, hne ']' rfl,
    hne '}' rfl, hne '\uFEFF' rfl]

section Values

/-- The text of a value reads as the value, whatever stands behind it that does not go on with a
number. -/
def ReadsBack (l : Layout) (depth : Nat) (v : Value α) : Prop :=
  ∀ fuel rest, (text l depth v).length ≤ fuel → ends rest = true →
    readValue fuel (text l depth v ++ rest) = .ok (v, rest)

theorem readValue_of_readNumber? {found : Value α × Rest}
    (h : ∀ c ∈ r.head?, c ≠ '"' ∧ c ≠ '[' ∧ c ≠ '{')
    (hword : (readConstant? r : Option (Value α × Rest)) = none)
    (hnumber : readNumber? r = some found) : readValue (fuel + 1) r = .ok found := by
  cases r with
  | nil => simp [readValue, hword, hnumber]
  | cons c r =>
    obtain ⟨hquote, hbracket, hbrace⟩ := h c rfl
    simp [readValue, hquote, hbracket, hbrace, hword, hnumber]

/-- A number is no word, string, list or mapping. -/
theorem readValue_number {n : Numeral} (hn : n.Proper) (hfuel : n.text.length ≤ fuel)
    (hrest : ends rest = true) :
    readValue fuel (n.text ++ rest) = .ok ((valueOf n : Value α), rest) := by
  obtain ⟨c, cs, htext, hne⟩ := head_of_proper hn
  rw [htext, List.length_cons] at hfuel
  obtain ⟨fuel, rfl⟩ := Nat.exists_eq_add_one.mpr (show 0 < fuel by omega)
  have hplain : ∀ d ∈ (n.text ++ rest).head?, d ≠ '"' ∧ d ≠ '[' ∧ d ≠ '{' := by
    rw [htext]
    rintro d ⟨⟩
    exact ⟨hne _ rfl, hne _ rfl, hne _ rfl⟩
  exact readValue_of_readNumber? hplain (readConstant?_text hn rest) (readNumber?_text hn hrest)

/-- A string in quotes. -/
theorem readValue_string (s : String) (fuel : Nat) (rest : List Char) :
    readValue (fuel + 1) (stringText s ++ rest) = .ok ((.str s : Value α), rest) := by
  rw [stringText, List.cons_append, List.cons_append, List.append_assoc, List.singleton_append,
    readValue, readString_text]
  · simp [bind, Except.bind]
  · simp

/-- The text of a value that has one starts as a value may. -/
theorem opens_text (h : Readable v) (l : Layout) (depth : Nat) :
    opens (text l depth v) = true := by
  cases v with
  | null => rfl
  | bool b => cases b <;> rfl
  | int k =>
    rw [text, ← text_ofInt]
    exact opens_numeral (proper_ofInt k)
  | float x =>
    obtain ⟨n, hproper, -, htext, -⟩ := exists_numeral_of_readable h
    rw [text, htext]
    exact opens_numeral hproper
  | str s => rfl
  | list vs => cases vs <;> rfl
  | map es => cases es <;> rfl
  | leaf a => cases h

theorem ends_itemsText (vs : List (Value α)) (outer : Nat) :
    ends (itemsText l depth vs ++ (l.newline outer ++ ']' :: rest)) = true := by
  cases vs with
  | nil =>
    cases l <;> rfl
  | cons v vs =>
    obtain ⟨gap, hcomma, -⟩ := exists_comma l depth
    rw [itemsText, hcomma]
    rfl

/-- The last item of a list, with the closing bracket behind it. -/
theorem readItems_last (h : ReadsBack l depth v) (hfuel : (text l depth v).length ≤ fuel)
    (hends : ends r = true) (hclose : skipGap r = ']' :: rest) :
    readItems (fuel + 1) (text l depth v ++ r) = .ok ([v], rest) := by
  simp only [readItems, h fuel r hfuel hends, bind, Except.bind, hclose]

/-- An item with a comma and more items behind it. -/
theorem readItems_more (h : ReadsBack l depth v) (hfuel : (text l depth v).length ≤ fuel)
    (hends : ends r = true) (hcomma : skipGap r = ',' :: after)
    (hmore : readItems fuel (skipGap after) = .ok (vs, rest)) :
    readItems (fuel + 1) (text l depth v ++ r) = .ok (v :: vs, rest) := by
  simp only [readItems, h fuel r hfuel hends, bind, Except.bind, hcomma, hmore]

/-- The items of a list are read up to the closing bracket, if each of them reads back. -/
theorem readItems_text (rest : List Char) (outer : Nat)
    (hopens : ∀ w ∈ v :: vs, opens (text l depth w) = true)
    (h : ∀ w ∈ v :: vs, ReadsBack l depth w)
    (hfuel : (text l depth v).length + (itemsText l depth vs).length < fuel) :
    readItems fuel (text l depth v ++ (itemsText l depth vs ++ (l.newline outer ++ ']' :: rest))) =
      .ok (v :: vs, rest) := by
  induction vs generalizing v fuel with
  | nil =>
    obtain ⟨fuel, rfl⟩ := Nat.exists_eq_add_one.mpr (show 0 < fuel by omega)
    have hclose : skipGap (itemsText l depth ([] : List (Value α)) ++
        (l.newline outer ++ ']' :: rest)) = ']' :: rest := by
      rw [itemsText, List.nil_append, skipGap_newline, skipGap_cons rfl]
    exact readItems_last (h v List.mem_cons_self) (by omega) (ends_itemsText [] outer) hclose
  | cons w vs ih =>
    obtain ⟨gap, hcomma, hgap⟩ := exists_comma l depth
    have hlength : (text l depth w).length + (itemsText l depth vs).length <
        (itemsText l depth (w :: vs)).length := by
      simp [itemsText, hcomma]
    obtain ⟨fuel, rfl⟩ := Nat.exists_eq_add_one.mpr (show 0 < fuel by omega)
    have henough : (text l depth w).length + (itemsText l depth vs).length < fuel := by omega
    have hrest := ih (fun u hu => hopens u (List.mem_cons_of_mem v hu))
      (fun u hu => h u (List.mem_cons_of_mem v hu)) henough
    have hw := skipGap_of_opens (opens_append (hopens w (by simp))
      (itemsText l depth vs ++ (l.newline outer ++ ']' :: rest)))
    have hmore : skipGap (itemsText l depth (w :: vs) ++ (l.newline outer ++ ']' :: rest)) =
        ',' :: (gap ++ (text l depth w ++ (itemsText l depth vs ++
          (l.newline outer ++ ']' :: rest)))) := by
      simp only [itemsText, hcomma, List.cons_append, List.append_assoc]
      exact skipGap_cons rfl
    refine readItems_more (h v List.mem_cons_self) (by omega) (ends_itemsText _ outer) hmore ?_
    rw [skipGap_append hgap, hw, hrest]

theorem ends_entriesText (es : List (Key × Value α)) (outer : Nat) :
    ends (entriesText l depth es ++ (l.newline outer ++ '}' :: rest)) = true := by
  cases es with
  | nil => cases l <;> rfl
  | cons e es =>
    obtain ⟨gap, hcomma, -⟩ := exists_comma l depth
    rw [entriesText, hcomma]
    rfl

/-- A name in quotes is read up to its closing quote. -/
theorem readString_stringText (k : String) (rest : List Char) :
    readString (stringText k ++ rest).length (stringText k ++ rest).length
      (k.toList.flatMap escape ++ '"' :: rest) = .ok (k.toList, rest) :=
  readString_text _ _ _ (by simp [stringText])

theorem stringText_append (k : String) (rest : List Char) :
    stringText k ++ rest = '"' :: (k.toList.flatMap escape ++ '"' :: rest) := by
  simp [stringText]

theorem skipGap_stringText (k : String) (rest : List Char) :
    skipGap (stringText k ++ rest) = stringText k ++ rest :=
  stringText_append k rest ▸ skipGap_cons rfl

theorem skipGap_space (hopens : opens (text l depth v) = true) (rest : List Char) :
    skipGap (' ' :: (text l depth v ++ rest)) = text l depth v ++ rest :=
  skipGap_of_opens (opens_append hopens rest)

/-- The last entry of a mapping, with the closing brace behind it. -/
theorem readEntries_last (k : String) (hopens : opens (text l depth v) = true)
    (h : ReadsBack l depth v) (hfuel : (text l depth v).length ≤ fuel) (hends : ends r = true)
    (hclose : skipGap r = '}' :: rest) :
    readEntries (fuel + 1) (stringText k ++ (':' :: ' ' :: (text l depth v ++ r))) =
      .ok ([(.str k, v)], rest) := by
  have hname := readString_stringText k (':' :: ' ' :: (text l depth v ++ r))
  have hspace := skipGap_space hopens r
  rw [stringText_append] at hname ⊢
  simp only [readEntries, hname, bind, Except.bind, String.ofList_toList, hspace,
    skipGap_cons (show isGap ':' = false from rfl), h fuel r hfuel hends, hclose]

/-- An entry with a comma and more entries behind it. -/
theorem readEntries_more (k : String) (hopens : opens (text l depth v) = true)
    (h : ReadsBack l depth v) (hfuel : (text l depth v).length ≤ fuel) (hends : ends r = true)
    (hcomma : skipGap r = ',' :: after)
    (hmore : readEntries fuel (skipGap after) = .ok (es, rest)) :
    readEntries (fuel + 1) (stringText k ++ (':' :: ' ' :: (text l depth v ++ r))) =
      .ok ((.str k, v) :: es, rest) := by
  have hname := readString_stringText k (':' :: ' ' :: (text l depth v ++ r))
  have hspace := skipGap_space hopens r
  rw [stringText_append] at hname ⊢
  simp only [readEntries, hname, bind, Except.bind, String.ofList_toList, hspace,
    skipGap_cons (show isGap ':' = false from rfl), h fuel r hfuel hends, hcomma, hmore]

/-- The entries of a mapping are read up to the closing brace, if their values read back. -/
theorem readEntries_text (k : String) (rest : List Char) (outer : Nat)
    (hopens : ∀ w ∈ v :: es.map (·.2), opens (text l depth w) = true)
    (h : ∀ w ∈ v :: es.map (·.2), ReadsBack l depth w)
    (hnames : ∀ e ∈ es, ∃ name, e.1 = .str name)
    (hfuel : (text l depth v).length + (entriesText l depth es).length < fuel) :
    readEntries fuel (stringText k ++ (':' :: ' ' :: (text l depth v ++ (entriesText l depth es ++
      (l.newline outer ++ '}' :: rest))))) = .ok ((.str k, v) :: es, rest) := by
  induction es generalizing k v fuel with
  | nil =>
    obtain ⟨fuel, rfl⟩ := Nat.exists_eq_add_one.mpr (show 0 < fuel by omega)
    have hclose : skipGap (entriesText l depth ([] : List (Key × Value α)) ++
        (l.newline outer ++ '}' :: rest)) = '}' :: rest := by
      rw [entriesText, List.nil_append, skipGap_newline, skipGap_cons rfl]
    exact readEntries_last k (hopens v List.mem_cons_self) (h v List.mem_cons_self) (by omega)
      (ends_entriesText [] outer) hclose
  | cons e es ih =>
    obtain ⟨key, w⟩ := e
    obtain ⟨name, rfl⟩ := hnames _ List.mem_cons_self
    obtain ⟨gap, hcomma, hgap⟩ := exists_comma l depth
    have hlength : (text l depth w).length + (entriesText l depth es).length <
        (entriesText l depth ((.str name, w) :: es)).length := by
      simp [entriesText, hcomma]
      omega
    obtain ⟨fuel, rfl⟩ := Nat.exists_eq_add_one.mpr (show 0 < fuel by omega)
    have henough : (text l depth w).length + (entriesText l depth es).length < fuel := by omega
    have hrest := ih name (fun u hu => hopens u (List.mem_cons_of_mem v hu))
      (fun u hu => h u (List.mem_cons_of_mem v hu))
      (fun e he => hnames e (List.mem_cons_of_mem _ he)) henough
    have hmore : skipGap (entriesText l depth ((.str name, w) :: es) ++
        (l.newline outer ++ '}' :: rest)) = ',' :: (gap ++ (stringText name ++
          (':' :: ' ' :: (text l depth w ++ (entriesText l depth es ++
            (l.newline outer ++ '}' :: rest)))))) := by
      simp only [entriesText, keyName, hcomma, List.cons_append, List.nil_append, List.append_assoc]
      exact skipGap_cons rfl
    refine readEntries_more k (hopens v List.mem_cons_self) (h v List.mem_cons_self) (by omega)
      (ends_entriesText _ outer) hmore ?_
    rw [skipGap_append hgap, skipGap_stringText, hrest]

/-- A text reads back that is read in one step. -/
theorem readsBack_of_step (hsome : text l depth v ≠ [])
    (h : ∀ fuel rest, readValue (fuel + 1) (text l depth v ++ rest) = .ok (v, rest)) :
    ReadsBack l depth v := by
  intro fuel rest hfuel _
  have hpos := List.length_pos_of_ne_nil hsome
  obtain ⟨fuel, rfl⟩ := Nat.exists_eq_add_one.mpr (Nat.lt_of_lt_of_le hpos hfuel)
  exact h fuel rest

/-- A list reads back if its items do. -/
theorem readsBack_list (hopens : ∀ w ∈ vs, opens (text l (depth + 1) w) = true)
    (h : ∀ w ∈ vs, ReadsBack l (depth + 1) w) : ReadsBack l depth (.list vs) := by
  cases vs with
  | nil => exact readsBack_of_step (by simp [text]) fun _ _ => rfl
  | cons v vs =>
    intro fuel rest hfuel _
    have hv := opens_append (hopens v List.mem_cons_self)
      (itemsText l (depth + 1) vs ++ (l.newline depth ++ ']' :: rest))
    simp only [text, List.length_append, List.length_cons, List.length_nil] at hfuel
    obtain ⟨fuel, rfl⟩ := Nat.exists_eq_add_one.mpr (show 0 < fuel by omega)
    have henough :
        (text l (depth + 1) v).length + (itemsText l (depth + 1) vs).length < fuel := by omega
    have hitems := readItems_text rest depth hopens h henough
    simp only [text, List.cons_append, List.append_assoc, List.nil_append, readValue,
      skipGap_newline, skipGap_of_opens hv]
    split
    next r heq =>
      rw [heq] at hv
      cases hv
    next => simp only [hitems, bind, Except.bind]

/-- A mapping reads back if its values do. -/
theorem readsBack_map (hdistinct : Distinct es)
    (hopens : ∀ w ∈ es.map (·.2), opens (text l (depth + 1) w) = true)
    (h : ∀ w ∈ es.map (·.2), ReadsBack l (depth + 1) w) : ReadsBack l depth (.map es) := by
  cases es with
  | nil => exact readsBack_of_step (by simp [text]) fun _ _ => rfl
  | cons e es =>
    intro fuel rest hfuel _
    obtain ⟨key, v⟩ := e
    obtain ⟨name, rfl⟩ := hdistinct.1 _ List.mem_cons_self
    simp only [text, List.length_append, List.length_cons, List.length_nil] at hfuel
    obtain ⟨fuel, rfl⟩ := Nat.exists_eq_add_one.mpr (show 0 < fuel by omega)
    have henough :
        (text l (depth + 1) v).length + (entriesText l (depth + 1) es).length < fuel := by omega
    have hentries := readEntries_text name rest depth hopens h
      (fun e he => hdistinct.1 e (List.mem_cons_of_mem _ he)) henough
    simp only [text, keyName, List.cons_append, List.append_assoc, List.nil_append, readValue,
      skipGap_newline, skipGap_stringText]
    split
    next r heq =>
      rw [stringText_append] at heq
      cases heq
    next => simp only [hentries, bind, Except.bind, entriesOf_eq_self hdistinct]

mutual

/-- Every readable value reads back from its text. -/
theorem readsBack_of_readable {v : Value α} (h : Readable v) (l : Layout) (depth : Nat) :
    ReadsBack l depth v := by
  cases v with
  | null => exact readsBack_of_step (by simp [text]) fun _ _ => rfl
  | bool b => cases b <;> exact readsBack_of_step (by simp [text]) fun _ _ => rfl
  | int k =>
    intro fuel rest hfuel hrest
    rw [text, ← text_ofInt] at hfuel ⊢
    rw [readValue_number (proper_ofInt k) hfuel hrest, valueOf_ofInt]
  | float x =>
    intro fuel rest hfuel hrest
    obtain ⟨n, hproper, hbroken, htext, hvalue⟩ := exists_numeral_of_readable h
    rw [text, htext] at hfuel ⊢
    rw [readValue_number hproper hfuel hrest, valueOf_broken hbroken, hvalue]
  | str s => exact readsBack_of_step (by simp [text, stringText]) (readValue_string s)
  | list vs =>
    have hopens := fun w hw => opens_text (readableItems_iff.mp h w hw) l (depth + 1)
    exact readsBack_list hopens (readsBack_of_readableItems h l (depth + 1))
  | map es =>
    have hopens := fun w hw => opens_text (readableEntries_iff.mp h.2 w hw) l (depth + 1)
    exact readsBack_map h.1 hopens (readsBack_of_readableEntries h.2 l (depth + 1))
  | leaf a => cases h

theorem readsBack_of_readableItems {vs : List (Value α)} (h : ReadableItems vs) (l : Layout)
    (depth : Nat) : ∀ v ∈ vs, ReadsBack l depth v := by
  cases vs with
  | nil => simp
  | cons v vs =>
    have hv := readsBack_of_readable h.1 l depth
    have hvs := readsBack_of_readableItems h.2 l depth
    simpa using ⟨hv, hvs⟩

theorem readsBack_of_readableEntries {es : List (Key × Value α)} (h : ReadableEntries es)
    (l : Layout) (depth : Nat) : ∀ v ∈ es.map (·.2), ReadsBack l depth v := by
  cases es with
  | nil => simp
  | cons e es =>
    have hv := readsBack_of_readable h.1 l depth
    have hes := readsBack_of_readableEntries h.2 l depth
    rw [List.map_cons]
    exact List.forall_mem_cons.mpr ⟨hv, hes⟩

end

/-- Whatever the layout, the text of a readable value is decoded to this value. -/
theorem decode_text (h : Readable v) (l : Layout) :
    decode (String.ofList (text l 0 v)) = .ok v := by
  have hopens := opens_text h l 0
  have hread := readsBack_of_readable h l 0 ((text l 0 v).length + 1) [] (by omega) rfl
  rw [List.append_nil] at hread
  have hmark : (text l 0 v).head? ≠ some '\uFEFF' := by
    cases htext : text l 0 v with
    | nil => simp
    | cons c cs =>
      rintro ⟨⟩
      rw [htext] at hopens
      cases hopens
  unfold decode
  simp only [String.toList_ofList, hmark, if_false, skipGap_of_opens hopens, hread]
  rfl

end Values

end Json

end Gleaner
