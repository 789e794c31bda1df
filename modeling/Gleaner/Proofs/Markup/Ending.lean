import Gleaner.Markup.Token
import Mathlib

/-! Where comments, marked sections and raw elements end: what was read up to the first end holds
none, and when it stands before an end again it is read up to that one. -/

namespace Gleaner.Markup

variable {test : List Char → Option (List Char)} {c m : Char} {cs body rest after more : List Char}
  {ms : List Char} {tag name : String}

/-- No place in a text passes a test. -/
def Lacks (test : List Char → Option (List Char)) : List Char → Prop
  | [] => True
  | c :: cs => test (c :: cs) = none ∧ Lacks test cs

theorem cutWhere?_eq_some (h : cutWhere? test cs = some (body, rest)) :
    ∃ after, cs = body ++ after ∧ test after = some rest := by
  induction cs generalizing body with
  | nil =>
    obtain ⟨left, hleft, hparts⟩ := Option.map_eq_some_iff.mp h
    cases hparts
    exact ⟨[], rfl, hleft⟩
  | cons c cs ih =>
    rw [cutWhere?] at h
    split at h
    next left hleft =>
      cases h
      exact ⟨c :: cs, rfl, hleft⟩
    next =>
      obtain ⟨⟨tail, left⟩, hcut, hparts⟩ := Option.map_eq_some_iff.mp h
      cases hparts
      obtain ⟨after, hcs, hafter⟩ := ih hcut
      exact ⟨after, by rw [hcs, List.cons_append], hafter⟩

/-- What stands before the first place that passes a test lacks such places, if a test that passes
does so whatever follows. -/
theorem lacks_of_cutWhere? (hmore : ∀ cs more, test (cs ++ more) = none → test cs = none)
    (h : cutWhere? test cs = some (body, rest)) : Lacks test body := by
  induction cs generalizing body with
  | nil =>
    obtain ⟨_, _, hparts⟩ := Option.map_eq_some_iff.mp h
    cases hparts
    trivial
  | cons c cs ih =>
    rw [cutWhere?] at h
    split at h
    next =>
      cases h
      trivial
    next hnone =>
      obtain ⟨⟨tail, left⟩, hcut, hparts⟩ := Option.map_eq_some_iff.mp h
      cases hparts
      obtain ⟨after, hcs, -⟩ := cutWhere?_eq_some hcut
      rw [hcs, ← List.cons_append] at hnone
      exact ⟨hmore _ _ hnone, ih hcut⟩

/-- A text without an end is read up to the end after it, if no end begins in the text and ends
behind it. -/
theorem cutWhere?_append (hlacks : Lacks test body) (hafter : test after = some rest)
    (hstraddle : ∀ c cs, test (c :: cs) = none → test (c :: cs ++ after) = none) :
    cutWhere? test (body ++ after) = some (body, rest) := by
  induction body with
  | nil =>
    cases after with
    | nil => rw [List.nil_append, cutWhere?, hafter, Option.map_some]
    | cons c cs => rw [List.nil_append, cutWhere?, hafter]
  | cons c body ih =>
    obtain ⟨hnone, hlacks⟩ := hlacks
    rw [List.cons_append, cutWhere?, ← List.cons_append, hstraddle c body hnone]
    rw [ih hlacks, Option.map_some]

theorem Lacks.drop (h : Lacks test cs) (n : Nat) : Lacks test (cs.drop n) := by
  induction n generalizing cs with
  | zero => exact h
  | succ n ih =>
    cases cs with
    | nil => exact h
    | cons c cs => exact ih h.2

theorem lacks_of_notMem {stop : Char} (htest : ∀ cs, test cs ≠ none → stop ∈ cs) (h : stop ∉ cs) :
    Lacks test cs := by
  induction cs with
  | nil => trivial
  | cons c cs ih =>
    refine ⟨?_, ih fun hmem => h (List.mem_cons_of_mem c hmem)⟩
    by_contra hsome
    exact h (htest _ hsome)

theorem dropWhile_append_of_ne_nil {p : Char → Bool} (h : cs.dropWhile p ≠ []) :
    (cs ++ more).dropWhile p = cs.dropWhile p ++ more := by
  rw [List.dropWhile_append, if_neg (by simpa using h)]

theorem takeWhile_append_of_ne_nil {p : Char → Bool} (h : cs.dropWhile p ≠ []) :
    (cs ++ more).takeWhile p = cs.takeWhile p := by
  rw [List.takeWhile_append, if_neg]
  intro hlength
  have hsplit := congrArg List.length (List.takeWhile_append_dropWhile (p := p) (l := cs))
  rw [List.length_append, hlength] at hsplit
  exact h (List.eq_nil_of_length_eq_zero (by omega))

theorem dropWhile_append_cons {p : Char → Bool} (hc : p c = false) :
    (cs ++ c :: more).dropWhile p = cs.dropWhile p ++ c :: more := by
  rw [List.dropWhile_append]
  split
  next hempty => simp [List.isEmpty_iff.mp hempty, hc]
  next => rfl

theorem takeWhile_append_cons {p : Char → Bool} (hc : p c = false) :
    (cs ++ c :: more).takeWhile p = cs.takeWhile p := by
  rw [List.takeWhile_append]
  split
  next hlength => simp [hc, (List.takeWhile_prefix p).eq_of_length hlength]
  next => rfl

theorem skipBlank_append (h : skipBlank cs ≠ []) :
    skipBlank (cs ++ more) = skipBlank cs ++ more :=
  dropWhile_append_of_ne_nil h

theorem skipBlank_append_cons (hc : Text.isBlank c = false) :
    skipBlank (cs ++ c :: more) = skipBlank cs ++ c :: more :=
  dropWhile_append_cons hc

theorem mem_of_mem_skipBlank (h : c ∈ skipBlank cs) : c ∈ cs :=
  (List.dropWhile_sublist _).mem h

theorem spaced?_singleton (m c : Char) (cs : List Char) :
    spaced? [m] (c :: cs) = if c = m then some cs else none := by
  rw [spaced?]

theorem spaced?_cons_cons (m k : Char) (ms : List Char) (c : Char) (cs : List Char) :
    spaced? (m :: k :: ms) (c :: cs) =
      if c = m then spaced? (k :: ms) (skipBlank cs) else none := by
  rw [spaced?]
  simp

theorem spaced?_append (h : spaced? (m :: ms) cs = some rest) :
    spaced? (m :: ms) (cs ++ more) = some (rest ++ more) := by
  induction ms generalizing m cs with
  | nil =>
    cases cs with
    | nil => cases h
    | cons c cs =>
      rw [spaced?_singleton] at h
      split at h
      next hc =>
        cases h
        rw [List.cons_append, spaced?_singleton, if_pos hc]
      next => cases h
  | cons k ms ih =>
    cases cs with
    | nil => cases h
    | cons c cs =>
      rw [spaced?_cons_cons] at h
      split at h
      next hc =>
        have hne : skipBlank cs ≠ [] := by
          intro hnil
          rw [hnil] at h
          cases h
        rw [List.cons_append, spaced?_cons_cons, if_pos hc, skipBlank_append hne]
        exact ih h
      next => cases h

theorem spaced?_append_none (h : spaced? (m :: ms) (cs ++ more) = none) :
    spaced? (m :: ms) cs = none := by
  cases hcs : spaced? (m :: ms) cs with
  | none => rfl
  | some rest =>
    rw [spaced?_append hcs] at h
    cases h

/-- The last mark is in the text. -/
theorem mem_of_spaced? (h : spaced? (ms ++ [m]) cs ≠ none) : m ∈ cs := by
  induction ms generalizing cs with
  | nil =>
    cases cs with
    | nil => exact absurd rfl h
    | cons c cs =>
      rw [List.nil_append, spaced?_singleton] at h
      have hc : c = m := by
        by_contra hc
        exact h (if_neg hc)
      rw [hc]
      exact List.mem_cons_self
  | cons k ms ih =>
    cases cs with
    | nil => exact absurd rfl h
    | cons c cs =>
      obtain ⟨j, js, hjs⟩ := List.exists_cons_of_ne_nil (List.append_ne_nil_of_right_ne_nil ms
        (List.cons_ne_nil m []))
      rw [List.cons_append, hjs, spaced?_cons_cons, ← hjs] at h
      split at h
      next => exact List.mem_cons_of_mem c (mem_of_mem_skipBlank (ih h))
      next => exact absurd rfl h

theorem spaced?_singleton_straddle (hne : c ≠ m) (h : spaced? [m] cs = none) :
    spaced? [m] (cs ++ c :: after) = none := by
  cases cs with
  | nil => rw [List.nil_append, spaced?_singleton, if_neg hne]
  | cons d cs =>
    rw [spaced?_singleton] at h
    rw [List.cons_append, spaced?_singleton]
    split
    next hd =>
      rw [if_pos hd] at h
      cases h
    next => rfl

/-- Where one mark more comes first, the text must have it before what follows can have the
others. -/
theorem spaced?_cons_straddle {k : Char} (hc : Text.isBlank c = false)
    (ih : ∀ cs, spaced? (k :: ms) cs = none → spaced? (k :: ms) (cs ++ c :: after) = none)
    {d : Char} (h : spaced? (m :: k :: ms) (d :: cs) = none) :
    spaced? (m :: k :: ms) (d :: cs ++ c :: after) = none := by
  rw [spaced?_cons_cons] at h
  rw [List.cons_append, spaced?_cons_cons]
  split
  next hd =>
    rw [if_pos hd] at h
    rw [skipBlank_append_cons hc]
    exact ih _ h
  next => rfl

theorem endsComment?_eq_some (h : endsComment? cs = some rest) :
    ∃ r, cs = '-' :: '-' :: r ∧ spaced? ['>'] (skipBlank r) = some rest := by
  unfold endsComment? at h
  split at h
  next r => exact ⟨r, rfl, h⟩
  next => cases h

theorem endsComment?_append_none (cs more : List Char) (h : endsComment? (cs ++ more) = none) :
    endsComment? cs = none := by
  cases hcs : endsComment? cs with
  | none => rfl
  | some rest =>
    obtain ⟨r, rfl, hr⟩ := endsComment?_eq_some hcs
    have hne : skipBlank r ≠ [] := by
      intro hnil
      rw [hnil] at hr
      cases hr
    rw [List.cons_append, List.cons_append, endsComment?, skipBlank_append hne,
      spaced?_append hr] at h
    cases h

/-- Hyphens at the end of a comment do not make its end come earlier. -/
theorem endsComment?_straddle (c : Char) (cs : List Char) (h : endsComment? (c :: cs) = none) :
    endsComment? (c :: cs ++ '-' :: '-' :: '>' :: more) = none := by
  by_contra hsome
  obtain ⟨rest, hrest⟩ := Option.ne_none_iff_exists'.mp hsome
  obtain ⟨r, hr, hspaced⟩ := endsComment?_eq_some hrest
  cases cs with
  | nil =>
    cases hr
    cases hspaced
  | cons d cs =>
    simp only [List.cons_append, List.cons.injEq] at hr
    obtain ⟨rfl, rfl, rfl⟩ := hr
    rw [skipBlank_append_cons (by decide)] at hspaced
    rw [endsComment?] at h
    rw [spaced?_singleton_straddle (by decide) h] at hspaced
    cases hspaced

theorem lacks_endsComment? (h : '>' ∉ cs) : Lacks endsComment? cs := by
  refine lacks_of_notMem (fun cs hcs => ?_) h
  obtain ⟨rest, hrest⟩ := Option.ne_none_iff_exists'.mp hcs
  obtain ⟨r, rfl, hr⟩ := endsComment?_eq_some hrest
  have hspaced : spaced? ([] ++ ['>']) (skipBlank r) ≠ none := by simp [hr]
  have hmem := mem_of_spaced? hspaced
  exact List.mem_cons_of_mem _ (List.mem_cons_of_mem _ (mem_of_mem_skipBlank hmem))

/-- Brackets at the end of a section do not make its end come earlier. -/
theorem spaced?_section_straddle (c : Char) (cs : List Char)
    (h : spaced? [']', ']', '>'] (c :: cs) = none) :
    spaced? [']', ']', '>'] (c :: cs ++ ']' :: ']' :: '>' :: more) = none := by
  have hone (cs : List Char) (h : spaced? ['>'] cs = none) :
      spaced? ['>'] (cs ++ ']' :: ']' :: '>' :: more) = none :=
    spaced?_singleton_straddle (by decide) h
  have htwo (cs : List Char) (h : spaced? [']', '>'] cs = none) :
      spaced? [']', '>'] (cs ++ ']' :: ']' :: '>' :: more) = none := by
    cases cs with
    | nil => rfl
    | cons d cs => exact spaced?_cons_straddle (by decide) hone h
  exact spaced?_cons_straddle (by decide) htwo h

/-- The closing tag of a raw element, with its angle bracket. -/
def endsRaw? (tag : String) : List Char → Option (List Char)
  | '<' :: r => closesRaw? tag r
  | _ => none

theorem cutRaw?_eq (tag : String) (cs : List Char) :
    cutRaw? tag cs = cutWhere? (endsRaw? tag) cs := by
  unfold cutRaw?
  congr 1

/-- A plain closing tag: blanks, a name, blanks, and an angle bracket. -/
theorem plainClosing?_eq_some (h : plainClosing? cs = some (name, rest)) :
    ∃ c r, skipBlank cs = c :: r ∧ c.isAlpha ∧ skipBlank (r.dropWhile isEndName) = '>' :: rest ∧
      smallName (c :: r.takeWhile isEndName) = name := by
  unfold plainClosing? at h
  split at h
  next => cases h
  next c r hcs =>
    split at h
    next hc =>
      split at h
      next left hleft =>
        cases h
        exact ⟨c, r, hcs, hc, hleft, rfl⟩
      next => cases h
    next => cases h

theorem plainClosing?_append (h : plainClosing? cs = some (name, rest)) :
    plainClosing? (cs ++ more) = some (name, rest ++ more) := by
  obtain ⟨c, r, hcs, hc, hr, rfl⟩ := plainClosing?_eq_some h
  have hname : r.dropWhile isEndName ≠ [] := by
    intro hnil
    rw [hnil] at hr
    cases hr
  rw [plainClosing?, skipBlank_append (by simp [hcs]), hcs, List.cons_append]
  simp only [hc, if_true]
  rw [dropWhile_append_of_ne_nil hname, takeWhile_append_of_ne_nil hname,
    skipBlank_append (by simp [hr]), hr, List.cons_append]
  rfl

/-- An angle bracket that opens is no part of a closing tag. -/
theorem plainClosing?_straddle (h : plainClosing? (cs ++ '<' :: more) = some (name, rest)) :
    ∃ left, plainClosing? cs = some (name, left) := by
  obtain ⟨c, r, hcs, hc, hr, rfl⟩ := plainClosing?_eq_some h
  rw [skipBlank_append_cons (by decide)] at hcs
  unfold plainClosing?
  cases hskip : skipBlank cs with
  | nil =>
    rw [hskip] at hcs
    cases hcs
    exact absurd hc (by decide)
  | cons d s =>
    rw [hskip, List.cons_append, List.cons.injEq] at hcs
    obtain ⟨rfl, rfl⟩ := hcs
    rw [dropWhile_append_cons (by decide), skipBlank_append_cons (by decide)] at hr
    rw [takeWhile_append_cons (by decide)]
    cases hleft : skipBlank (s.dropWhile isEndName) with
    | nil =>
      rw [hleft] at hr
      cases hr
    | cons e left =>
      rw [hleft, List.cons_append, List.cons.injEq] at hr
      obtain ⟨rfl, -⟩ := hr
      exact ⟨left, by simp only [hc, if_true, hleft]⟩

theorem endsRaw?_eq_some (h : endsRaw? tag cs = some rest) :
    ∃ r, cs = '<' :: '/' :: r ∧ plainClosing? r = some (tag, rest) := by
  unfold endsRaw? at h
  split at h
  next s =>
    unfold closesRaw? at h
    split at h
    next r =>
      split at h
      next name left hclosing =>
        split at h
        next hname =>
          cases h
          exact ⟨r, rfl, hname ▸ hclosing⟩
        next => cases h
      next => cases h
    next => cases h
  next => cases h

theorem endsRaw?_of_closing (h : plainClosing? cs = some (tag, rest)) :
    endsRaw? tag ('<' :: '/' :: cs) = some rest := by
  simp [endsRaw?, closesRaw?, h]

theorem endsRaw?_append_none (cs more : List Char) (h : endsRaw? tag (cs ++ more) = none) :
    endsRaw? tag cs = none := by
  cases hcs : endsRaw? tag cs with
  | none => rfl
  | some rest =>
    obtain ⟨r, rfl, hr⟩ := endsRaw?_eq_some hcs
    rw [List.cons_append, List.cons_append, endsRaw?_of_closing (plainClosing?_append hr)] at h
    cases h

/-- The start of a closing tag at the end of a raw text does not make its end come earlier. -/
theorem endsRaw?_straddle (c : Char) (cs : List Char) (h : endsRaw? tag (c :: cs) = none) :
    endsRaw? tag (c :: cs ++ '<' :: '/' :: more) = none := by
  by_contra hsome
  obtain ⟨rest, hrest⟩ := Option.ne_none_iff_exists'.mp hsome
  obtain ⟨r, hr, hclosing⟩ := endsRaw?_eq_some hrest
  cases cs with
  | nil => cases hr
  | cons d cs =>
    simp only [List.cons_append, List.cons.injEq] at hr
    obtain ⟨rfl, rfl, rfl⟩ := hr
    obtain ⟨left, hleft⟩ := plainClosing?_straddle hclosing
    rw [endsRaw?_of_closing hleft] at h
    cases h

theorem lacks_endsRaw? (h : '<' ∉ cs) : Lacks (endsRaw? tag) cs := by
  refine lacks_of_notMem (fun cs hcs => ?_) h
  obtain ⟨rest, hrest⟩ := Option.ne_none_iff_exists'.mp hcs
  obtain ⟨r, rfl, -⟩ := endsRaw?_eq_some hrest
  exact List.mem_cons_self

end Gleaner.Markup
