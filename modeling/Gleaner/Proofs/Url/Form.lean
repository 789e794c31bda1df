import Gleaner.Proofs.Disk.Content
import Gleaner.Proofs.Url.Domain
import Gleaner.Url.Normal

/-! Queries as they are written. A written query tells the named values that it was written for, and
collecting values under their names loses none of them. -/

namespace Gleaner

namespace Text

theorem octetsOf_injective : Function.Injective octetsOf := by
  intro a b h
  have hdata : a.toUTF8.data = b.toUTF8.data := by
    simpa [octetsOf, ByteArray.toList, toList_loop] using h
  exact String.toByteArray_inj.mp (ByteArray.ext hdata)

end Text

namespace Url

open Text (Octets)

section Written

theorem hexValue?_upperHexDigit :
    ∀ n < 16, Text.hexValue? (upperHexDigit n) = some n := by decide

theorem isAlphanum_upperHexDigit : ∀ n < 16, (upperHexDigit n).isAlphanum = true := by decide

theorem upperHexDigit_ne_plus : ∀ n < 16, upperHexDigit n ≠ '+' := by decide

theorem toNat_ofNat_octet (b : UInt8) : (Char.ofNat b.toNat).toNat = b.toNat := by
  have hb : b.toNat < 256 := b.toNat_lt
  have hvalid : b.toNat.isValidChar := .inl (by omega)
  simp [Char.ofNat, hvalid, Char.ofNatAux, Char.toNat, UInt32.toNat]

theorem octetsOfEscaped_cons {c : Char} (cs : List Char) (h : c ≠ '%') :
    octetsOfEscaped (c :: cs) = UInt8.ofNat c.toNat :: octetsOfEscaped cs := by
  cases cs with
  | nil => simp [octetsOfEscaped]
  | cons d cs =>
    cases cs with
    | nil => simp [octetsOfEscaped]
    | cons e cs => simp [octetsOfEscaped, h]

/-- An octet is read back from its escape, once plus signs are blanks. -/
theorem octetsOfEscaped_escapeOctet (b : UInt8) (rest : List Char) :
    octetsOfEscaped ((escapeOctet b).map (fun c => if c = '+' then ' ' else c) ++ rest) =
      b :: octetsOfEscaped rest := by
  have hb : b.toNat < 256 := b.toNat_lt
  have hback : UInt8.ofNat (Char.ofNat b.toNat).toNat = b := by
    rw [toNat_ofNat_octet, UInt8.ofNat_toNat]
  unfold escapeOctet
  extract_lets c
  split
  next hc =>
    have hpercent : c ≠ '%' := by
      intro heq
      rw [heq] at hc
      exact absurd hc (by decide)
    have hplus : c ≠ '+' := by
      intro heq
      rw [heq] at hc
      exact absurd hc (by decide)
    rw [List.map_singleton, if_neg hplus, List.singleton_append, octetsOfEscaped_cons _ hpercent,
      hback]
  next =>
    split
    next hblank =>
      rw [List.map_singleton, if_pos rfl, List.singleton_append,
        octetsOfEscaped_cons _ (by decide), ← hblank, hback]
    next =>
      have hhigh : b.toNat / 16 < 16 := by omega
      have hlow : b.toNat % 16 < 16 := by omega
      have hsum : 16 * (b.toNat / 16) + b.toNat % 16 = b.toNat := by omega
      simp [octetsOfEscaped, hexValue?_upperHexDigit _ hhigh, hexValue?_upperHexDigit _ hlow,
        upperHexDigit_ne_plus _ hhigh, upperHexDigit_ne_plus _ hlow, hsum]

theorem octetsOfEscaped_flatMap (bs : Octets) :
    octetsOfEscaped ((bs.flatMap escapeOctet).map fun c => if c = '+' then ' ' else c) = bs := by
  induction bs with
  | nil => rfl
  | cons b bs ih =>
    rw [List.flatMap_cons, List.map_append, octetsOfEscaped_escapeOctet, ih]

theorem writeForm_injective : Function.Injective writeForm := by
  intro a b h
  apply Text.octetsOf_injective
  rw [← octetsOfEscaped_flatMap (Text.octetsOf a), ← octetsOfEscaped_flatMap (Text.octetsOf b)]
  exact congrArg (fun cs => octetsOfEscaped (cs.map fun c => if c = '+' then ' ' else c)) h

/-- The characters that a written name or value is made of. -/
def isFormChar (c : Char) : Bool := isUnreserved c || c = '+' || c = '%'

theorem isFormChar_escapeOctet {b : UInt8} {c : Char} (h : c ∈ escapeOctet b) :
    isFormChar c = true := by
  have hb : b.toNat < 256 := b.toNat_lt
  unfold escapeOctet at h
  extract_lets d at h
  split at h
  next hd =>
    rw [List.mem_singleton.mp h, isFormChar, hd]
    rfl
  next =>
    split at h
    next =>
      rw [List.mem_singleton.mp h]
      decide
    next =>
      have hhigh := isAlphanum_upperHexDigit (b.toNat / 16) (by omega)
      have hlow := isAlphanum_upperHexDigit (b.toNat % 16) (by omega)
      simp only [List.mem_cons, List.not_mem_nil, or_false] at h
      rcases h with rfl | rfl | rfl
      · decide
      · simp [isFormChar, isUnreserved, hhigh]
      · simp [isFormChar, isUnreserved, hlow]

theorem isFormChar_writeForm {s : String} {c : Char} (h : c ∈ writeForm s) :
    isFormChar c = true := by
  obtain ⟨b, -, hc⟩ := List.mem_flatMap.mp h
  exact isFormChar_escapeOctet hc

theorem notMem_writeForm {c : Char} (s : String) (h : isFormChar c = false) : c ∉ writeForm s := by
  intro hmem
  rw [isFormChar_writeForm hmem] at h
  exact Bool.noConfusion h

theorem mem_writePair {c : Char} {name value : String} (h : c ∈ writePair name value) :
    isFormChar c = true ∨ c = '=' := by
  rcases List.mem_append.mp h with hname | hrest
  · exact .inl (isFormChar_writeForm hname)
  · rcases List.mem_cons.mp hrest with rfl | hvalue
    · exact .inr rfl
    · exact .inl (isFormChar_writeForm hvalue)

theorem writePair_inj {n v n' v' : String} (h : writePair n v = writePair n' v') :
    n = n' ∧ v = v' := by
  have hcut : Text.cutAt? '=' (writePair n v) = some (writeForm n, writeForm v) :=
    Text.cutAt?_append (notMem_writeForm n (by decide))
  have hcut' : Text.cutAt? '=' (writePair n' v') = some (writeForm n', writeForm v') :=
    Text.cutAt?_append (notMem_writeForm n' (by decide))
  rw [h, hcut', Option.some.injEq, Prod.mk.injEq] at hcut
  exact ⟨(writeForm_injective hcut.1).symm, (writeForm_injective hcut.2).symm⟩

end Written

section Entries

/-- Named values one by one. -/
def entriesOf (values : List (String × List String)) : List (String × String) :=
  values.flatMap fun v => v.2.map (v.1, ·)

theorem queryOf_eq (values : List (String × List String)) :
    queryOf values = ['&'].intercalate ((entriesOf values).map fun p => writePair p.1 p.2) := by
  simp [queryOf, entriesOf, List.map_flatMap, Function.comp_def]

theorem mem_queryOf {c : Char} {values : List (String × List String)} (h : c ∈ queryOf values) :
    isFormChar c = true ∨ c = '=' ∨ c = '&' := by
  rw [queryOf_eq] at h
  generalize entriesOf values = ps at h
  induction ps with
  | nil => exact absurd h (by simp)
  | cons p ps ih =>
    cases ps with
    | nil =>
      rcases mem_writePair (by simpa using h) with hform | hequal
      · exact .inl hform
      · exact .inr (.inl hequal)
    | cons q ps =>
      rw [List.map_cons, List.map_cons, List.intercalate_cons_cons] at h
      rcases List.mem_append.mp h with hfirst | hrest
      · rcases List.mem_append.mp hfirst with hpair | hsep
        · rcases mem_writePair hpair with hform | hequal
          · exact .inl hform
          · exact .inr (.inl hequal)
        · exact .inr (.inr (List.mem_singleton.mp hsep))
      · exact ih hrest

theorem splitOn_pairs {ps : List (String × String)} (h : ps ≠ []) :
    (['&'].intercalate (ps.map fun p => writePair p.1 p.2)).splitOn '&' =
      ps.map fun p => writePair p.1 p.2 := by
  apply List.splitOn_intercalate
  · intro piece hpiece
    obtain ⟨p, -, rfl⟩ := List.mem_map.mp hpiece
    intro hmem
    rcases mem_writePair hmem with hform | hequal
    · exact absurd hform (by decide)
    · exact absurd hequal (by decide)
  · simpa using h

/-- A written query tells the values that it was written for, one by one. -/
theorem entriesOf_of_queryOf {v w : List (String × List String)} (h : queryOf v = queryOf w) :
    entriesOf v = entriesOf w := by
  have hnil : ∀ ps : List (String × String),
      ([] : List Char) = ['&'].intercalate (ps.map fun p => writePair p.1 p.2) → ps = [] := by
    intro ps hps
    by_contra hne
    have hsplit := splitOn_pairs hne
    rw [← hps] at hsplit
    obtain ⟨p, rest, rfl⟩ := List.exists_cons_of_ne_nil hne
    simp [writePair] at hsplit
  rw [queryOf_eq, queryOf_eq] at h
  by_cases hv : entriesOf v = []
  · rw [hv] at h ⊢
    exact (hnil _ h).symm
  · by_cases hw : entriesOf w = []
    · rw [hw] at h ⊢
      exact hnil _ h.symm
    · have hpieces := splitOn_pairs hv
      rw [h, splitOn_pairs hw] at hpieces
      exact (List.map_injective_iff.mpr
        (fun p q hpq => Prod.ext (writePair_inj hpq).1 (writePair_inj hpq).2) hpieces).symm

theorem entriesOf_addValue (name value : String) (values : List (String × List String)) :
    (entriesOf (addValue name value values)).Perm (entriesOf values ++ [(name, value)]) := by
  induction values with
  | nil => exact .refl _
  | cons v rest ih =>
    obtain ⟨n, vs⟩ := v
    rw [addValue]
    split
    next hname =>
      simp only [entriesOf, List.flatMap_cons, List.map_append, List.map_singleton, hname,
        List.append_assoc]
      exact List.perm_append_comm.append_left _
    next =>
      have hrest := ih.append_left (vs.map (n, ·))
      simpa [entriesOf] using hrest

theorem entriesOf_foldl (ps : List (String × String)) (values : List (String × List String)) :
    (entriesOf (ps.foldl (fun acc p => addValue p.1 p.2 acc) values)).Perm
      (entriesOf values ++ ps) := by
  induction ps generalizing values with
  | nil => simp
  | cons p ps ih =>
    have hadd := (entriesOf_addValue p.1 p.2 values).append_right ps
    exact (ih _).trans (by simpa using hadd)

/-- Collecting values under their names loses none of them. -/
theorem entriesOf_valuesOf (query : List Char) :
    (entriesOf (valuesOf query)).Perm (pairsOf query) :=
  entriesOf_foldl (pairsOf query) []

theorem entriesOf_filter (p : String → Bool) (values : List (String × List String)) :
    entriesOf (values.filter fun v => p v.1) = (entriesOf values).filter fun e => p e.1 := by
  induction values with
  | nil => rfl
  | cons v rest ih =>
    have hcons : ∀ vs, entriesOf (v :: vs) = v.2.map (v.1, ·) ++ entriesOf vs := fun vs => rfl
    rw [hcons, List.filter_append, ← ih, List.filter_cons]
    cases hp : p v.1 <;> simp [hp, hcons, List.filter_map, Function.comp_def]

end Entries

end Url

end Gleaner
