import Gleaner.Proofs.Config.Tagged
import Gleaner.Proofs.Text.Utf8

/-! Queries of normal forms as they are read again. A written query is read as the named values that
it was written for, in the order and the groups that they had. -/

namespace Gleaner

namespace Text.Utf8

theorem decodeLossy_octetsOf (s : String) : decodeLossy (octetsOf s) = s := by
  have hdecode := decode_octetsOf s
  unfold decode at hdecode
  split at hdecode
  next => cases hdecode
  next => exact Except.ok.inj hdecode

end Text.Utf8

namespace Url

variable {cs field : List Char} {c : Char} {name value : String} {q : List Char}
  {p : String × String} {values acc : List (String × List String)}

section Reading

theorem runs_of_ascii (h : ∀ c ∈ cs, c.toNat < 128) (hne : cs ≠ []) : runs cs = [(true, cs)] := by
  induction cs with
  | nil => exact absurd rfl hne
  | cons c cs ih =>
    have hc := h c List.mem_cons_self
    cases cs with
    | nil => simp [runs, hc]
    | cons d cs =>
      rw [runs, ih (fun e he => h e (List.mem_cons_of_mem c he)) (List.cons_ne_nil d cs)]
      simp [hc]

theorem reading_of_ascii (h : ∀ c ∈ cs, c.toNat < 128) :
    reading cs = (Text.Utf8.decodeLossy (octetsOfEscaped cs)).toList := by
  by_cases hne : cs = []
  · subst hne
    rfl
  · rw [reading, runs_of_ascii h hne, List.flatMap_singleton, runText, if_pos rfl]

theorem toNat_lt_of_isFormChar (h : isFormChar c = true) : c.toNat < 128 := by
  simp only [isFormChar, isUnreserved, Bool.or_eq_true, decide_eq_true_eq] at h
  rcases h with (((((hletter | rfl) | rfl) | rfl) | rfl) | rfl) | rfl
  · simp only [Char.isAlphanum, Char.isAlpha, Char.isUpper, Char.isLower, Char.isDigit,
      Bool.or_eq_true, Bool.and_eq_true, decide_eq_true_eq, ge_iff_le, UInt32.le_iff_toNat_le]
      at hletter
    have hvalue : c.toNat = c.val.toNat := rfl
    have hbounds : c.val.toNat ≤ 122 := by
      rcases hletter with (⟨-, hlast⟩ | ⟨-, hlast⟩) | ⟨-, hlast⟩
      · exact hlast.trans (by decide)
      · exact hlast
      · exact hlast.trans (by decide)
    omega
  all_goals decide

/-- A name or value is read back as it was written. -/
theorem readForm_writeForm (s : String) : readForm (writeForm s) = s := by
  have hascii : ∀ c ∈ (writeForm s).map (fun c => if c = '+' then ' ' else c), c.toNat < 128 := by
    intro c hc
    obtain ⟨d, hd, rfl⟩ := List.mem_map.mp hc
    split
    next => decide
    next => exact toNat_lt_of_isFormChar (isFormChar_writeForm hd)
  rw [readForm, unescape_eq, reading_of_ascii hascii, String.ofList_toList, writeForm,
    octetsOfEscaped_flatMap, Text.Utf8.decodeLossy_octetsOf]

theorem reading_ne_nil (h : cs ≠ []) : reading cs ≠ [] := by
  obtain ⟨c, cs, rfl⟩ := List.exists_cons_of_ne_nil h
  by_cases hc : c = '%'
  · subst hc
    by_cases hdigits : ∃ h l tail a b, cs = h :: l :: tail ∧ Text.hexValue? h = some a ∧
        Text.hexValue? l = some b
    · obtain ⟨h, l, tail, a, b, rfl, hh, hl⟩ := hdigits
      by_cases hascii : 16 * a + b < 128
      · have hvalue : (Char.ofNat (16 * a + b)).toNat = 16 * a + b := by
          rw [Char.toNat_ofNat, if_pos (.inl (by omega))]
        rw [reading_escape hh hl hvalue.symm (by omega)]
        exact List.cons_ne_nil _ _
      · obtain ⟨d, more, hhead, -⟩ := head_reading_escape hh hl (by omega) tail
        rw [hhead]
        exact List.cons_ne_nil _ _
    · obtain ⟨more, hhead⟩ := head_reading_percent fun h l tail a b hcs hh hl =>
        hdigits ⟨h, l, tail, a, b, hcs, hh, hl⟩
      rw [hhead]
      exact List.cons_ne_nil _ _
  · rw [reading_cons hc]
    exact List.cons_ne_nil _ _

theorem readForm_ne_empty (h : cs ≠ []) : readForm cs ≠ "" := by
  intro hempty
  rw [readForm, unescape_eq, String.ofList_eq_empty_iff] at hempty
  exact reading_ne_nil (by simpa using h) hempty

end Reading

section Pairs

/-- The named values of a query are not empty. -/
theorem value_ne_empty (h : p ∈ pairsOf q) : p.2 ≠ "" := by
  obtain ⟨field, -, hread⟩ := List.mem_filterMap.mp h
  split at hread
  next name value _ =>
    split at hread
    next => cases hread
    next hsome =>
      cases hread
      exact readForm_ne_empty (by simpa using hsome)
  next => cases hread

theorem cutAt?_writePair (name value : String) :
    Text.cutAt? '=' (writePair name value) = some (writeForm name, writeForm value) :=
  Text.cutAt?_append (notMem_writeForm name (by decide))

theorem writeForm_ne_nil (h : value ≠ "") : writeForm value ≠ [] := by
  intro hnil
  rw [← readForm_writeForm value, hnil] at h
  exact h rfl

/-- The fields of a written query. -/
theorem splitAt_queryOf (h : entriesOf values ≠ []) :
    Text.splitAt '&' (queryOf values) = (entriesOf values).map fun p => writePair p.1 p.2 := by
  rw [Text.splitAt_eq_splitOn, queryOf_eq, splitOn_pairs h]

theorem queryOf_of_nil (h : entriesOf values = []) : queryOf values = [] := by
  rw [queryOf_eq, h]
  rfl

/-- A query is read as the values that it was written for, unless they are empty. -/
theorem pairsOf_queryOf (h : ∀ p ∈ entriesOf values, p.2 ≠ "") :
    pairsOf (queryOf values) = entriesOf values := by
  by_cases hnil : entriesOf values = []
  · rw [queryOf_of_nil hnil, hnil]
    rfl
  · rw [pairsOf, splitAt_queryOf hnil, List.filterMap_map]
    refine (List.filterMap_congr fun p hp => ?_).trans (List.filterMap_some)
    have hvalue := List.isEmpty_eq_false_iff.mpr (writeForm_ne_nil (h p hp))
    simp only [Function.comp_apply, cutAt?_writePair, hvalue, readForm_writeForm]
    rfl

end Pairs

section Groups

/-- Values that are collected under their names. -/
structure Grouped (values : List (String × List String)) : Prop where
  names : (values.map (·.1)).Nodup
  held : ∀ v ∈ values, v.2 ≠ []

theorem addValue_of_notMem (h : name ∉ acc.map (·.1)) (value : String)
    (values : List (String × List String)) :
    addValue name value (acc ++ values) = acc ++ addValue name value values := by
  induction acc with
  | nil => rfl
  | cons v acc ih =>
    obtain ⟨hname, hrest⟩ := not_or.mp (mt List.mem_cons.mpr h)
    rw [List.cons_append, addValue, if_neg (Ne.symm hname), ih hrest, List.cons_append]

theorem addValue_new (h : name ∉ acc.map (·.1)) (value : String) :
    addValue name value acc = acc ++ [(name, [value])] := by
  have hnew := addValue_of_notMem h value []
  rw [List.append_nil] at hnew
  exact hnew

theorem names_addValue (h : name ∈ values.map (·.1)) (value : String) :
    (addValue name value values).map (·.1) = values.map (·.1) := by
  induction values with
  | nil => cases h
  | cons v values ih =>
    rw [addValue]
    split
    next => rfl
    next hname =>
      have hrest := (List.mem_cons.mp h).resolve_left (Ne.symm hname)
      rw [List.map_cons, ih hrest, List.map_cons]

theorem held_addValue (h : ∀ v ∈ values, v.2 ≠ []) (name value : String) :
    ∀ v ∈ addValue name value values, v.2 ≠ [] := by
  induction values with
  | nil => simp [addValue]
  | cons v values ih =>
    have hrest := ih fun w hw => h w (List.mem_cons_of_mem v hw)
    rw [addValue]
    split
    next =>
      intro w hw
      rcases List.mem_cons.mp hw with heq | hw
      · simp [heq]
      · exact h w (List.mem_cons_of_mem v hw)
    next =>
      intro w hw
      rcases List.mem_cons.mp hw with heq | hw
      · exact heq ▸ h v List.mem_cons_self
      · exact hrest w hw

theorem grouped_addValue (h : Grouped values) (name value : String) :
    Grouped (addValue name value values) where
  names := by
    by_cases hname : name ∈ values.map (·.1)
    · rw [names_addValue hname]
      exact h.names
    · rw [addValue_new hname, List.map_append]
      simpa using h.names.concat hname
  held := held_addValue h.held name value

theorem grouped_foldl (h : Grouped values) (ps : List (String × String)) :
    Grouped (ps.foldl (fun acc p => addValue p.1 p.2 acc) values) := by
  induction ps generalizing values with
  | nil => exact h
  | cons p ps ih => exact ih (grouped_addValue h p.1 p.2)

theorem foldl_group (h : name ∉ acc.map (·.1)) (held more : List String) :
    (more.map (name, ·)).foldl (fun acc p => addValue p.1 p.2 acc) (acc ++ [(name, held)]) =
      acc ++ [(name, held ++ more)] := by
  induction more generalizing held with
  | nil => simp
  | cons value more ih =>
    rw [List.map_cons, List.foldl_cons, addValue_of_notMem h, addValue, if_pos rfl, ih]
    simp

/-- Groups that are taken apart and collected again are as they were. -/
theorem foldl_entriesOf (h : Grouped (acc ++ values)) :
    (entriesOf values).foldl (fun acc p => addValue p.1 p.2 acc) acc = acc ++ values := by
  induction values generalizing acc with
  | nil => simp [entriesOf]
  | cons v rest ih =>
    obtain ⟨name, vs⟩ := v
    have hnames := h.names
    rw [List.map_append, List.nodup_append] at hnames
    have hnew : name ∉ acc.map (·.1) := fun hmem =>
      hnames.2.2 name hmem name List.mem_cons_self rfl
    have hsome : vs ≠ [] := h.held (name, vs) (by simp)
    obtain ⟨value, more, rfl⟩ := List.exists_cons_of_ne_nil hsome
    have hrest := @ih (acc ++ [(name, value :: more)]) (by rwa [← List.append_cons])
    have hentries : entriesOf ((name, value :: more) :: rest) =
        (name, value) :: more.map (name, ·) ++ entriesOf rest := rfl
    rw [hentries, List.foldl_append, List.foldl_cons, addValue_new hnew, foldl_group hnew,
      List.singleton_append, hrest, ← List.append_cons]

end Groups

section Kept

theorem mem_remaining_of_keptValues {u : Url} (hp : p ∈ entriesOf u.keptValues) :
    p ∈ u.remaining :=
  (remaining_perm u).mem_iff.mp hp

theorem grouped_keptValues (u : Url) : Grouped u.keptValues := by
  have hnone : Grouped [] := ⟨List.nodup_nil, fun _ hv => absurd hv List.not_mem_nil⟩
  have hall : Grouped (valuesOf u.query) := grouped_foldl hnone _
  refine ⟨?_, fun v hv => hall.held v (List.mem_filter.mp hv).1⟩
  exact hall.names.sublist (List.filter_sublist.map _)

theorem pairsOf_keptQuery (u : Url) : pairsOf u.keptQuery = entriesOf u.keptValues :=
  pairsOf_queryOf fun _ hp =>
    value_ne_empty (List.mem_filter.mp (mem_remaining_of_keptValues hp)).1

theorem valuesOf_keptQuery (u : Url) : valuesOf u.keptQuery = u.keptValues := by
  rw [valuesOf, pairsOf_keptQuery]
  exact foldl_entriesOf (grouped_keptValues u)

/-- What is kept of a query is all kept when it is read again. -/
theorem keptValues_again {u v : Url} (h : v.query = u.keptQuery) : v.keptValues = u.keptValues := by
  rw [keptValues, h, valuesOf_keptQuery]
  exact List.filter_eq_self.mpr fun _ hv => (List.mem_filter.mp hv).2

theorem keptQuery_again {u v : Url} (h : v.query = u.keptQuery) : v.keptQuery = u.keptQuery :=
  congrArg queryOf (keptValues_again h)

/-- No field that is kept only tracks. -/
theorem not_isTag_keptQuery {u : Url} (hfield : field ∈ Text.splitAt '&' u.keptQuery) :
    ¬IsTag field := by
  by_cases hnil : entriesOf u.keptValues = []
  · have hempty : u.keptQuery = [] := queryOf_of_nil hnil
    rw [hempty] at hfield
    rw [List.mem_singleton.mp hfield]
    decide
  · have hsplit : Text.splitAt '&' u.keptQuery =
        (entriesOf u.keptValues).map fun p => writePair p.1 p.2 := splitAt_queryOf hnil
    rw [hsplit] at hfield
    obtain ⟨p, hp, rfl⟩ := List.mem_map.mp hfield
    have hname := (List.mem_filter.mp (mem_remaining_of_keptValues hp)).2
    rw [IsTag, cutOff, cutAt?_writePair, Option.getD_some, readForm_writeForm]
    simpa using hname

end Kept

end Url

end Gleaner
