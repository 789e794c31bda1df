import Gleaner.Markup.Printer
import Gleaner.Proofs.Markup.Ending

/-! Texts that are read as a row of tokens whatever follows them, up to how text is cut into
tokens. -/

namespace Gleaner.Markup

variable {a b cs text text' : List Char} {ts ts' us : List Token} {c : Char} {tag : String}

/-- Two rows of tokens from which every tree grows in the same way. -/
def Alike (ts us : List Token) : Prop :=
  ∀ b : Builder, ts.foldl Builder.step b = us.foldl Builder.step b

namespace Alike

theorem refl (ts : List Token) : Alike ts ts := fun _ => rfl

theorem trans {vs : List Token} (h : Alike ts us) (h' : Alike us vs) : Alike ts vs :=
  fun b => (h b).trans (h' b)

theorem append (h : Alike ts us) (h' : Alike ts' us') : Alike (ts ++ ts') (us ++ us') := by
  intro b
  rw [List.foldl_append, List.foldl_append, h b, h' _]

end Alike

/-- Text may be cut anywhere. -/
theorem alike_textToken_append (a b : List Char) :
    Alike (textToken a ++ textToken b) (textToken (a ++ b)) := by
  intro builder
  cases a with
  | nil => rfl
  | cons c a =>
    cases b with
    | nil => simp [textToken]
    | cons d b => simp [textToken, Builder.step, Builder.addText, String.append_assoc]

/-- Reading the text yields the tokens and goes on with what follows, as if that stood alone; no
more steps are taken than the text has characters. -/
def Reads (text : List Char) (ts : List Token) : Prop :=
  ∃ k ≤ text.length, ∀ fuel rest q, pass false (fuel + 1) none rest = .ok q →
    ∃ p, pass false (fuel + 1 + k) none (text ++ rest) = .ok p ∧ p.raw = q.raw ∧
      p.rest = q.rest ∧ Alike p.tokens (ts ++ q.tokens)

theorem Reads.nil : Reads [] [] :=
  ⟨0, le_rfl, fun _ _ q hq => ⟨q, hq, rfl, rfl, .refl _⟩⟩

theorem Reads.append (h : Reads text ts) (h' : Reads text' ts') :
    Reads (text ++ text') (ts ++ ts') := by
  obtain ⟨k, hk, hread⟩ := h
  obtain ⟨k', hk', hread'⟩ := h'
  refine ⟨k' + k, by simp only [List.length_append]; omega, fun fuel rest q hq => ?_⟩
  obtain ⟨p', hp', hraw', hrest', hts'⟩ := hread' fuel rest q hq
  obtain ⟨p, hp, hraw, hrest, hts⟩ :=
    hread (fuel + k') (text' ++ rest) p' (by rw [← hp']; congr 1; omega)
  refine ⟨p, ?_, hraw.trans hraw', hrest.trans hrest', ?_⟩
  · rw [List.append_assoc, ← hp]
    congr 1
    omega
  · rw [List.append_assoc]
    exact hts.trans ((Alike.refl ts).append hts')

theorem Reads.alike (h : Reads text ts) (hts : Alike ts us) : Reads text us := by
  obtain ⟨k, hk, hread⟩ := h
  refine ⟨k, hk, fun fuel rest q hq => ?_⟩
  obtain ⟨p, hp, hraw, hrest, htokens⟩ := hread fuel rest q hq
  exact ⟨p, hp, hraw, hrest, htokens.trans (hts.append (.refl _))⟩

/-- A text that is read as tokens has no other tokens. -/
theorem Reads.tokens (h : Reads text ts) :
    ∃ us, Markup.tokens (String.ofList text) = .ok us ∧ Alike us ts := by
  obtain ⟨k, hk, hread⟩ := h
  obtain ⟨p, hp, hraw, hrest, hts⟩ := hread (text.length - k) [] ⟨[], none, []⟩ rfl
  rw [List.append_nil, show text.length - k + 1 + k = text.length + 1 by omega] at hp
  refine ⟨p.tokens, ?_, by simpa using hts⟩
  rw [Markup.tokens, String.toList_ofList]
  simp [hp, hraw, hrest, pass, textToken]

@[simp]
theorem textToken_nil : textToken [] = [] := rfl

theorem map_cons_cons (e : Except Rejection Pass) (ts us : List Token) :
    (e.map (·.cons us)).map (·.cons ts) = e.map (·.cons (ts ++ us)) := by
  cases e <;> simp [Except.map, Pass.cons]

/-- Text in front of the first mark is passed over. -/
theorem pass_text (final : Bool) (fuel : Nat) (cs : List Char) :
    pass final (fuel + 1) none cs =
      (pass final (fuel + 1) none (cs.dropWhile (!isMark ·))).map
        (·.cons (textToken (cs.takeWhile (!isMark ·)))) := by
  cases cs with
  | nil => rfl
  | cons c r =>
    have hdrop := List.dropWhile_idempotent (!isMark ·) (c :: r)
    cases hrest : (c :: r).dropWhile (!isMark ·) with
    | nil => simp [pass, hrest, Except.map, Pass.cons]
    | cons m s =>
      rw [hrest] at hdrop
      have htake : (m :: s).takeWhile (!isMark ·) = [] := by
        have hsplit := List.takeWhile_append_dropWhile (p := (!isMark ·)) (l := m :: s)
        rw [hdrop] at hsplit
        simpa using hsplit
      simp only [pass, hrest, hdrop, htake]
      split
      next hnil => cases hnil
      next q _ =>
        cases construct q with
        | error e => rfl
        | ok scanned =>
          cases scanned with
          | none =>
            dsimp only
            split
            · rw [map_cons_cons, textToken_nil, List.nil_append]
            · simp [Except.map, Pass.cons]
          | some found => simp only [map_cons_cons, textToken_nil, List.nil_append]
      next q _ _ =>
        cases textReference final q with
        | goOn found rest => simp only [map_cons_cons, textToken_nil, List.nil_append]
        | halt found rest => simp [Except.map, Pass.cons]

theorem exists_of_map_cons {e : Except Rejection Pass} {q : Pass} (h : e.map (·.cons ts) = .ok q) :
    ∃ p, e = .ok p ∧ q = p.cons ts := by
  cases e with
  | error r => cases h
  | ok p => exact ⟨p, rfl, (Except.ok.inj h).symm⟩

theorem reads_char (hc : isMark c = false) : Reads [c] (textToken [c]) := by
  refine ⟨0, Nat.zero_le _, fun fuel rest q hq => ?_⟩
  rw [pass_text] at hq
  obtain ⟨p, hp, rfl⟩ := exists_of_map_cons hq
  refine ⟨p.cons (textToken (c :: rest.takeWhile (!isMark ·))), ?_, rfl, rfl, ?_⟩
  · rw [Nat.add_zero, List.singleton_append, pass_text, List.dropWhile_cons, if_pos (by simp [hc]),
      List.takeWhile_cons, if_pos (by simp [hc]), hp]
    rfl
  · simp only [Pass.cons, ← List.append_assoc]
    refine Alike.append (fun b => ?_) (.refl _)
    exact (alike_textToken_append [c] _ b).symm

/-- What is read in one step from an angle bracket on. -/
theorem reads_construct (text : List Char)
    (h : ∀ rest, construct (text ++ rest) = .ok (some (ts, rest)))
    (hraw : rawAfter ts = none) : Reads ('<' :: text) ts := by
  refine ⟨1, by simp, fun fuel rest q hq => ⟨q.cons ts, ?_, rfl, rfl, .refl _⟩⟩
  rw [List.cons_append, pass]
  · simp [isMark, h, hraw, hq, Except.map]
  · simp

/-- What is read in one step from an ampersand on. -/
theorem reads_reference (text : List Char)
    (h : ∀ rest, textReference false (text ++ rest) = .goOn ts rest) :
    Reads ('&' :: text) ts := by
  refine ⟨1, by simp, fun fuel rest q hq => ⟨q.cons ts, ?_, rfl, rfl, .refl _⟩⟩
  rw [List.cons_append, pass]
  · simp [isMark, h, hq, Except.map]
  · simp

theorem pass_raw {rest : List Char} (final : Bool) (fuel : Nat)
    (h : cutRaw? tag text = some (cs, rest)) :
    pass final (fuel + 1) (some tag) text =
      (pass final fuel none rest).map (·.cons (textToken cs ++ [.closing tag])) := by
  cases text with
  | nil => cases h
  | cons c r => simp only [pass, h]

/-- A raw element is read in two steps: its opening tag, and its text with the closing tag. -/
theorem reads_raw (text text' : List Char)
    (h : ∀ rest, construct (text ++ rest) = .ok (some (ts, rest)))
    (hraw : rawAfter ts = some tag) (hlacks : Lacks (endsRaw? tag) cs)
    (hclosing : ∀ rest, plainClosing? (text' ++ rest) = some (tag, rest)) :
    Reads ('<' :: text ++ cs ++ '<' :: '/' :: text') (ts ++ textToken cs ++ [.closing tag]) := by
  refine ⟨2, by simp only [List.length_append, List.length_cons]; omega, fun fuel rest q hq =>
    ⟨q.cons (ts ++ textToken cs ++ [.closing tag]), ?_, rfl, rfl, .refl _⟩⟩
  have hcut : cutRaw? tag (cs ++ '<' :: '/' :: (text' ++ rest)) = some (cs, rest) := by
    rw [cutRaw?_eq]
    exact cutWhere?_append hlacks (endsRaw?_of_closing (hclosing rest)) endsRaw?_straddle
  have hopening := h (cs ++ '<' :: '/' :: (text' ++ rest))
  simp only [List.cons_append, List.append_assoc]
  rw [pass]
  · simp [isMark, hopening, hraw, pass_raw false (fuel + 1) hcut, hq, Except.map, Pass.cons]
  · simp

theorem reads_escape (c : Char) : Reads (escape c) (textToken [c]) := by
  unfold escape
  split
  next hc =>
    subst hc
    exact reads_reference _ fun rest => rfl
  next =>
    split
    next hc =>
      subst hc
      exact reads_reference _ fun rest => rfl
    next =>
      split
      next hc =>
        subst hc
        exact reads_reference _ fun rest => rfl
      next hamp hlt hgt => exact reads_char (by simp [isMark, hamp, hlt])

theorem reads_escapeAll (cs : List Char) : Reads (escapeAll cs) (textToken cs) := by
  induction cs with
  | nil => exact .nil
  | cons c cs ih =>
    have hboth := (reads_escape c).append ih
    exact hboth.alike (alike_textToken_append [c] cs)

end Gleaner.Markup
