import Gleaner.Proofs.Url.Form

/-! How names read that are written with escapes. What is read starts with a word of ASCII letters
just when what is written starts with a spelling of that word, so that the end of a name has no part
in whether it is one that only tracks. -/

namespace Gleaner

namespace Text.Utf8

variable {b : UInt8} {bs : Octets} {o : Open} {state : Option Open} {i j : Nat}

theorem shown_piecesFrom (state : Option Open) (i j : Nat) (bs : Octets) :
    (piecesFrom state i bs).map Piece.shown = (piecesFrom state j bs).map Piece.shown := by
  induction bs generalizing state i j with
  | nil => cases state <;> simp [piecesFrom, Piece.shown]
  | cons b bs ih =>
    have hfresh : ∀ o : Option Open, (piecesFrom o (i + 1) bs).map Piece.shown =
        (piecesFrom o (j + 1) bs).map Piece.shown := fun o => ih o (i + 1) (j + 1)
    cases state with
    | none =>
      simp only [piecesFrom]
      cases begin? b <;> simp [Piece.shown, hfresh]
    | some o =>
      simp only [piecesFrom]
      cases begin? b <;> split_ifs <;> simp [Piece.shown, hfresh]

theorem decodeLossy_cons (h : b.toNat < 128) :
    (decodeLossy (b :: bs)).toList = Char.ofNat b.toNat :: (decodeLossy bs).toList := by
  have hbegin : begin? b = .whole (Char.ofNat b.toNat) := by
    unfold begin?
    exact if_pos h
  simp only [decodeLossy, String.toList_ofList, pieces, piecesFrom, hbegin, List.map_cons,
    Piece.shown, List.cons.injEq, true_and]
  exact shown_piecesFrom none 1 0 bs

/-- Not a character of ASCII, but for the zero character. -/
def IsForeign (c : Char) : Prop := c.toNat = 0 ∨ 128 ≤ c.toNat

/-- The start of a character that is going to be beyond ASCII. -/
structure Open.Foreign (o : Open) : Prop where
  low : 128 ≤ o.low
  high : o.high < 192
  bits : 128 ≤ (o.bits * 64 + (o.low - 128)) * 64 ^ (o.owed - 1)

theorem foreign_of_begin? (h : begin? b = .more o) : o.Foreign := by
  unfold begin? at h
  extract_lets n at h
  simp only [Bool.and_eq_true, decide_eq_true_eq] at h
  split_ifs at h <;> cases h <;> constructor <;> dsimp only <;> omega

theorem isForeign_ofNat {n : Nat} (h : 128 ≤ n) : IsForeign (Char.ofNat n) := by
  by_cases hvalid : n.isValidChar
  · right
    rwa [Char.toNat_ofNat, if_pos hvalid]
  · left
    rw [Char.toNat_ofNat, if_neg hvalid]

theorem head_piecesFrom_open (h : o.Foreign) (i : Nat) (bs : Octets) :
    ∃ c rest, (piecesFrom (some o) i bs).map Piece.shown = c :: rest ∧ IsForeign c := by
  have hgap : IsForeign '\uFFFD' := .inr (by decide)
  induction bs generalizing o i with
  | nil => exact ⟨_, _, by simp [piecesFrom, Piece.shown]; rfl, hgap⟩
  | cons b bs ih =>
    simp only [piecesFrom]
    split
    next hgoes =>
      simp only [Bool.and_eq_true, decide_eq_true_eq] at hgoes
      have hlow := h.low
      have hhigh := h.high
      have hmod : b.toNat % 64 = b.toNat - 128 := by omega
      have hbits : o.bits * 64 + (o.low - 128) ≤ o.bits * 64 + b.toNat % 64 := by omega
      split
      next hlast =>
        have hone : 64 ^ (o.owed - 1) = 1 := by
          rw [show o.owed - 1 = 0 by omega, pow_zero]
        have hwhole := h.bits
        rw [hone, mul_one] at hwhole
        exact ⟨_, _, rfl, isForeign_ofNat (hwhole.trans hbits)⟩
      next hmore =>
        apply ih
        refine ⟨by simp, by simp, ?_⟩
        have hpow : 64 ^ (o.owed - 1) = 64 * 64 ^ (o.owed - 1 - 1) := by
          rw [← pow_succ', show o.owed - 1 - 1 + 1 = o.owed - 1 by omega]
        calc 128 ≤ (o.bits * 64 + (o.low - 128)) * 64 ^ (o.owed - 1) := h.bits
          _ ≤ (o.bits * 64 + b.toNat % 64) * 64 ^ (o.owed - 1) := Nat.mul_le_mul_right _ hbits
          _ = _ := by rw [hpow]; simp [mul_assoc]
    next => exact ⟨_, _, rfl, hgap⟩

theorem head_decodeLossy (h : 128 ≤ b.toNat) (bs : Octets) :
    ∃ c rest, (decodeLossy (b :: bs)).toList = c :: rest ∧ IsForeign c := by
  simp only [decodeLossy, String.toList_ofList, pieces, piecesFrom]
  cases hbegin : begin? b with
  | whole c =>
    unfold begin? at hbegin
    extract_lets n at hbegin
    split_ifs at hbegin
    omega
  | more o => exact head_piecesFrom_open (foreign_of_begin? hbegin) _ bs
  | none =>
    have hgap : IsForeign '\uFFFD' := .inr (by decide)
    exact ⟨_, _, rfl, hgap⟩

end Text.Utf8

namespace Url

open Text.Utf8 (IsForeign)

variable {c h l : Char} {cs word more spelled rest : List Char} {a b : Nat}

section Reading

/-- What one run of characters reads as. -/
def runText (r : Bool × List Char) : List Char :=
  if r.1 then (Text.Utf8.decodeLossy (octetsOfEscaped r.2)).toList else r.2

/-- What is read where there may be escapes. -/
def reading (cs : List Char) : List Char := (runs cs).flatMap runText

theorem flatMap_runs (cs : List Char) : (runs cs).flatMap (·.2) = cs := by
  induction cs with
  | nil => rfl
  | cons c cs ih =>
    rw [runs]
    cases hruns : runs cs with
    | nil =>
      rw [hruns] at ih
      simpa using ih
    | cons r others =>
      rw [hruns] at ih
      simp only [List.flatMap_cons] at ih
      dsimp only
      split <;> simp [ih]

/-- Characters of ASCII join the run of such characters that they stand before, or start one. -/
theorem exists_run (cs : List Char) : ∃ run others, run <+: cs ∧
    (∀ c : Char, c.toNat < 128 → runs (c :: cs) = (true, c :: run) :: others) ∧
    reading cs = runText (true, run) ++ others.flatMap runText := by
  have hnone : runText (true, []) = [] := rfl
  cases hruns : runs cs with
  | nil =>
    refine ⟨[], [], List.nil_prefix, fun c hc => ?_, by simp [reading, hruns, hnone]⟩
    simp [runs, hruns, hc]
  | cons r others =>
    obtain ⟨kind, run⟩ := r
    cases kind with
    | true =>
      have hcs := flatMap_runs cs
      rw [hruns, List.flatMap_cons] at hcs
      refine ⟨run, others, ⟨_, hcs⟩, fun c hc => ?_, by simp [reading, hruns]⟩
      simp [runs, hruns, hc]
    | false =>
      refine ⟨[], (false, run) :: others, List.nil_prefix, fun c hc => ?_,
        by simp [reading, hruns, hnone]⟩
      simp [runs, hruns, hc]

theorem runText_cons {o : UInt8} {run tail : List Char}
    (h : octetsOfEscaped run = o :: octetsOfEscaped tail) (ho : o.toNat < 128) :
    runText (true, run) = Char.ofNat o.toNat :: runText (true, tail) := by
  simp only [runText, if_true, h, Text.Utf8.decodeLossy_cons ho]

theorem reading_cons (hc : c ≠ '%') (cs : List Char) : reading (c :: cs) = c :: reading cs := by
  by_cases hplain : c.toNat < 128
  · obtain ⟨run, others, -, hjoin, hrest⟩ := exists_run cs
    have hoctet : (UInt8.ofNat c.toNat).toNat = c.toNat := by
      simp [Nat.mod_eq_of_lt (show c.toNat < 256 by omega)]
    have hrun := runText_cons (octetsOfEscaped_cons run hc) (by omega)
    rw [hoctet, Char.ofNat_toNat] at hrun
    rw [reading, hjoin c hplain, List.flatMap_cons, hrun, hrest, List.cons_append]
  · unfold reading
    rw [runs]
    simp only [hplain, decide_false]
    cases hruns : runs cs with
    | nil => rfl
    | cons r others =>
      obtain ⟨kind, run⟩ := r
      cases kind <;> simp [runText]

theorem hexValue?_bounds (h : Text.hexValue? c = some a) : c.toNat < 128 ∧ a < 16 := by
  have hle : ∀ d e : Char, d ≤ e → d.toNat ≤ e.toNat := fun d e hde => hde
  unfold Text.hexValue? at h
  split_ifs at h with hdigit hsmall hcapital <;> cases h
  · simp only [Char.isDigit, Bool.and_eq_true, decide_eq_true_eq] at hdigit
    have hlast : c.toNat ≤ 57 := hdigit.2
    omega
  · simp only [Bool.and_eq_true, decide_eq_true_eq] at hsmall
    have hlast : c.toNat ≤ 102 := hle c 'f' hsmall.2
    omega
  · simp only [Bool.and_eq_true, decide_eq_true_eq] at hcapital
    have hlast : c.toNat ≤ 70 := hle c 'F' hcapital.2
    omega

/-- Two digits behind a percent sign are one octet, which goes first in its run. -/
theorem exists_escapeRun (hh : Text.hexValue? h = some a) (hl : Text.hexValue? l = some b)
    (cs : List Char) : ∃ (run : List Char) (others : List (Bool × List Char)),
      octetsOfEscaped ('%' :: h :: l :: run) = UInt8.ofNat (16 * a + b) :: octetsOfEscaped run ∧
      reading ('%' :: h :: l :: cs) = runText (true, '%' :: h :: l :: run) ++
        others.flatMap runText ∧
      reading cs = runText (true, run) ++ others.flatMap runText := by
  obtain ⟨run, others, -, hjoin, hrest⟩ := exists_run cs
  have hsecond := hjoin l (hexValue?_bounds hl).1
  have hfirst : runs (h :: l :: cs) = (true, h :: l :: run) :: others := by
    rw [runs, hsecond]
    simp [(hexValue?_bounds hh).1]
  have hsign : runs ('%' :: h :: l :: cs) = (true, '%' :: h :: l :: run) :: others := by
    rw [runs, hfirst]
    rfl
  exact ⟨run, others, by simp [octetsOfEscaped, hh, hl], by rw [reading, hsign]; rfl, hrest⟩

theorem reading_escape (hh : Text.hexValue? h = some a) (hl : Text.hexValue? l = some b)
    (hc : 16 * a + b = c.toNat) (hascii : c.toNat < 128) (cs : List Char) :
    reading ('%' :: h :: l :: cs) = c :: reading cs := by
  obtain ⟨run, others, hoctets, hreading, hrest⟩ := exists_escapeRun hh hl cs
  have hoctet : (UInt8.ofNat (16 * a + b)).toNat = c.toNat := by
    simp [hc, Nat.mod_eq_of_lt (show c.toNat < 256 by omega)]
  have hrun := runText_cons hoctets (by omega)
  rw [hoctet, Char.ofNat_toNat] at hrun
  rw [hreading, hrun, hrest, List.cons_append]

theorem head_reading_escape (hh : Text.hexValue? h = some a) (hl : Text.hexValue? l = some b)
    (hforeign : 128 ≤ 16 * a + b) (cs : List Char) :
    ∃ c more, reading ('%' :: h :: l :: cs) = c :: more ∧ IsForeign c := by
  obtain ⟨run, others, hoctets, hreading, -⟩ := exists_escapeRun hh hl cs
  have ha := (hexValue?_bounds hh).2
  have hb := (hexValue?_bounds hl).2
  have hoctet : 128 ≤ (UInt8.ofNat (16 * a + b)).toNat := by
    simp only [UInt8.toNat_ofNat']
    omega
  obtain ⟨c, more, hhead, hc⟩ := Text.Utf8.head_decodeLossy hoctet (octetsOfEscaped run)
  refine ⟨c, more ++ others.flatMap runText, ?_, hc⟩
  rw [hreading, runText, if_pos rfl, hoctets, hhead, List.cons_append]

theorem head_reading_percent (hnot : ∀ h l more a b, cs = h :: l :: more →
    Text.hexValue? h = some a → Text.hexValue? l ≠ some b) :
    ∃ more, reading ('%' :: cs) = '%' :: more := by
  obtain ⟨run, others, ⟨tail, hcs⟩, hjoin, -⟩ := exists_run cs
  have hoctets : octetsOfEscaped ('%' :: run) = 37 :: octetsOfEscaped run := by
    rcases run with _ | ⟨h, _ | ⟨l, run⟩⟩
    · rfl
    · simp [octetsOfEscaped]
    · have hdigits := fun a b => hnot h l (run ++ tail) a b hcs.symm
      rw [octetsOfEscaped]
      split
      next a b hh hl => exact absurd hl (hdigits a b hh)
      next => rfl
  have hrun := runText_cons hoctets (by decide)
  refine ⟨runText (true, run) ++ others.flatMap runText, ?_⟩
  rw [reading, hjoin '%' (by decide), List.flatMap_cons, hrun]
  rfl

end Reading

section Spelling

/-- A spelling of a word: each of its letters stands as it is or as an escape. -/
inductive Spells : List Char → List Char → Prop
  | nil : Spells [] []
  | plain (c : Char) {word spelled : List Char} : Spells word spelled →
      Spells (c :: word) (c :: spelled)
  | escaped {c h l : Char} {word spelled : List Char} {a b : Nat} : Text.hexValue? h = some a →
      Text.hexValue? l = some b → 16 * a + b = c.toNat → Spells word spelled →
      Spells (c :: word) ('%' :: h :: l :: spelled)

/-- Characters of ASCII that read as themselves. -/
def IsPlain (c : Char) : Prop := c ≠ '%' ∧ ¬ IsForeign c

theorem toNat_lt_of_isPlain (hc : IsPlain c) : c.toNat < 128 := by
  by_contra hle
  exact hc.2 (.inr (by omega))

/-- Reading starts with a letter just when the text starts with a spelling of it. -/
theorem reading_eq_cons (hc : IsPlain c) (hread : reading cs = c :: more) :
    ∃ first tail, cs = first ++ tail ∧ reading tail = more ∧
      ∀ word spelled, Spells word spelled → Spells (c :: word) (first ++ spelled) := by
  cases cs with
  | nil => cases hread
  | cons d cs =>
    by_cases hd : d = '%'
    · subst hd
      by_cases hdigits : ∃ h l tail a b, cs = h :: l :: tail ∧ Text.hexValue? h = some a ∧
          Text.hexValue? l = some b
      · obtain ⟨h, l, tail, a, b, rfl, hh, hl⟩ := hdigits
        by_cases hascii : 16 * a + b < 128
        · have hvalue : (Char.ofNat (16 * a + b)).toNat = 16 * a + b := by
            rw [Char.toNat_ofNat, if_pos (.inl (by omega))]
          rw [reading_escape hh hl hvalue.symm (by omega), List.cons.injEq] at hread
          obtain ⟨rfl, hmore⟩ := hread
          exact ⟨['%', h, l], tail, rfl, hmore, fun word spelled hspells =>
            .escaped hh hl hvalue.symm hspells⟩
        · obtain ⟨e, tail', hhead, he⟩ := head_reading_escape hh hl (by omega) tail
          rw [hhead, List.cons.injEq] at hread
          exact absurd (hread.1 ▸ he) hc.2
      · obtain ⟨tail, hhead⟩ : ∃ tail, reading ('%' :: cs) = '%' :: tail := by
          apply head_reading_percent
          intro h l tail a b hcs hh hl
          exact hdigits ⟨h, l, tail, a, b, hcs, hh, hl⟩
        rw [hhead, List.cons.injEq] at hread
        exact absurd hread.1.symm hc.1
    · rw [reading_cons hd, List.cons.injEq] at hread
      obtain ⟨rfl, hmore⟩ := hread
      exact ⟨[d], cs, rfl, hmore, fun word spelled hspells => .plain d hspells⟩

theorem reading_of_spells (hspells : Spells word spelled) (hword : ∀ c ∈ word, IsPlain c)
    (rest : List Char) : reading (spelled ++ rest) = word ++ reading rest := by
  induction hspells with
  | nil => rfl
  | plain c _ ih =>
    have hplain := hword c List.mem_cons_self
    rw [List.cons_append, reading_cons hplain.1,
      ih fun d hd => hword d (List.mem_cons_of_mem c hd), List.cons_append]
  | @escaped c _ _ _ _ _ _ hh hl hc _ ih =>
    have hplain := hword c List.mem_cons_self
    simp only [List.cons_append]
    rw [reading_escape hh hl hc (toNat_lt_of_isPlain hplain),
      ih fun d hd => hword d (List.mem_cons_of_mem c hd)]

/-- What is read starts with a word just when the text starts with a spelling of it. -/
theorem prefix_reading (hword : ∀ c ∈ word, IsPlain c) :
    word <+: reading cs ↔ ∃ spelled rest, cs = spelled ++ rest ∧ Spells word spelled := by
  constructor
  · intro hprefix
    induction word generalizing cs with
    | nil => exact ⟨[], cs, rfl, .nil⟩
    | cons c word ih =>
      obtain ⟨more, hmore⟩ := hprefix
      obtain ⟨first, tail, rfl, htail, hfirst⟩ :=
        reading_eq_cons (hword c List.mem_cons_self) hmore.symm
      obtain ⟨spelled, rest, rfl, hspells⟩ :=
        ih (fun d hd => hword d (List.mem_cons_of_mem c hd)) ⟨more, htail.symm⟩
      exact ⟨first ++ spelled, rest, (List.append_assoc ..).symm, hfirst word spelled hspells⟩
  · rintro ⟨spelled, rest, rfl, hspells⟩
    rw [reading_of_spells hspells hword]
    exact List.prefix_append _ _

theorem mem_of_spells (hspells : Spells word spelled) (hmem : c ∈ spelled) :
    c ∈ word ∨ c = '%' ∨ Text.isHexDigit c = true := by
  induction hspells with
  | nil => cases hmem
  | plain d _ ih =>
    rcases List.mem_cons.mp hmem with rfl | hrest
    · exact .inl List.mem_cons_self
    · exact (ih hrest).imp_left (List.mem_cons_of_mem d)
  | escaped hh hl _ _ ih =>
    simp only [List.mem_cons] at hmem
    rcases hmem with rfl | rfl | rfl | hrest
    · exact .inr (.inl rfl)
    · exact .inr (.inr (by simp [Text.isHexDigit, hh]))
    · exact .inr (.inr (by simp [Text.isHexDigit, hl]))
    · exact (ih hrest).imp_left (List.mem_cons_of_mem _)

end Spelling

section Tracking

/-- How names start that only track. -/
def trackingStart : List Char := ['u', 't', 'm', '_']

theorem unescape_eq (cs : List Char) : unescape cs = reading cs := by
  unfold unescape
  split
  next => rfl
  next hnone =>
    have hmem : '%' ∉ cs := by simpa using hnone
    clear hnone
    induction cs with
    | nil => rfl
    | cons c cs ih =>
      have hc : c ≠ '%' := fun heq => hmem (heq ▸ List.mem_cons_self)
      rw [reading_cons hc, ← ih fun hrest => hmem (List.mem_cons_of_mem c hrest)]

theorem notMem_of_spells (hspells : Spells trackingStart spelled)
    (hc : c ∉ trackingStart ∧ c ≠ '%' ∧ Text.isHexDigit c = false) : c ∉ spelled := by
  intro hmem
  rcases mem_of_spells hspells hmem with hword | hsign | hdigit
  · exact hc.1 hword
  · exact hc.2.1 hsign
  · simp [hc.2.2] at hdigit

/-- A name only tracks if it starts with a spelling of the start of such names. -/
theorem isTracking_readForm : isTracking (readForm cs) = true ↔
    ∃ spelled rest, cs = spelled ++ rest ∧ Spells trackingStart spelled := by
  have hword : ∀ c ∈ trackingStart, IsPlain c := by
    simp [trackingStart, IsPlain, IsForeign]
  have hread : isTracking (readForm cs) = true ↔
      trackingStart <+: reading (cs.map fun c => if c = '+' then ' ' else c) := by
    rw [isTracking, String.startsWith_string_iff, readForm, unescape_eq]
    simp [trackingStart]
  rw [hread, prefix_reading hword]
  constructor
  · rintro ⟨spelled, rest, hmap, hspells⟩
    obtain ⟨front, tail, rfl, hfront, -⟩ := List.map_eq_append_iff.mp hmap
    have hblank : ' ' ∉ spelled := notMem_of_spells hspells (by decide)
    have hsame : front.map (fun c => if c = '+' then ' ' else c) = front := by
      refine (List.map_congr_left fun c hc => ?_).trans (List.map_id front)
      split
      next hplus =>
        have hmem : ' ' ∈ spelled := hfront ▸ List.mem_map.mpr ⟨c, hc, if_pos hplus⟩
        exact absurd hmem hblank
      next => rfl
    exact ⟨front, tail, rfl, by rwa [← hfront, hsame] at hspells⟩
  · rintro ⟨spelled, rest, rfl, hspells⟩
    have hplus : '+' ∉ spelled := notMem_of_spells hspells (by decide)
    have hsame : spelled.map (fun c => if c = '+' then ' ' else c) = spelled := by
      refine (List.map_congr_left fun c hc => ?_).trans (List.map_id spelled)
      have hne : c ≠ '+' := fun heq => hplus (heq ▸ hc)
      exact if_neg hne
    exact ⟨spelled, _, by rw [List.map_append, hsame], hspells⟩

end Tracking

end Url

end Gleaner
