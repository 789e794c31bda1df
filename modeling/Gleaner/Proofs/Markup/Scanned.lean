import Gleaner.Proofs.Markup.Sound

/-! What scanning yields: names in small letters without signs, texts without the marks that end
them, and each raw element with its text right before its closing tag. -/

namespace Gleaner.Markup

variable {cs body rest after r : List Char} {c : Char} {tag name : String} {ts us : List Token}
  {t : Token} {final : Bool}

theorem smallName_smallName (cs : List Char) : smallName (smallName cs).toList = smallName cs := by
  rw [smallName, String.ofList_toList, smallName, Text.lower_lower]

theorem toList_smallName (cs : List Char) : (smallName cs).toList = Text.lowerList [] cs := by
  simp only [smallName, Text.lower, String.toList_ofList]

theorem endsName_of_isLetterlike (h : Text.IsLetterlike c) : endsName c = false := by
  simp only [endsName, Bool.or_eq_false_iff, decide_eq_false_iff_not]
  refine ⟨⟨⟨⟨⟨⟨⟨?_, ?_⟩, ?_⟩, ?_⟩, ?_⟩, ?_⟩, ?_⟩, ?_⟩ <;> exact h.ne (by decide) (by decide)

theorem isNameRest_of_isLetterlike (h : Text.IsLetterlike c) : isNameRest c := by
  have hslash : c ≠ '/' := h.ne (by decide) (by decide)
  have hclose : c ≠ '>' := h.ne (by decide) (by decide)
  have hsign : c ≠ '=' := h.ne (by decide) (by decide)
  simp [isNameRest, isNameStart, h.isBlank_eq_false, hslash, hclose, hsign]

theorem isTagName_smallName (hc : c.isAlpha) (hr : ∀ d ∈ c :: r, endsName d = false) :
    IsTagName (smallName (c :: r)) where
  small := smallName_smallName _
  start := by
    rw [toList_smallName, Text.lowerList_cons_of_isAlpha _ _ hc]
    exact ⟨_, _, rfl, Text.isAlpha_toLower hc⟩
  inner := by
    intro d hd
    rw [toList_smallName] at hd
    exact (Text.mem_or_isLetterlike hd).elim (hr d) endsName_of_isLetterlike

theorem isAttributeName_smallName (hc : isNameStart c) (hr : ∀ d ∈ r, isNameRest d) :
    IsAttributeName (smallName (c :: r)) where
  small := smallName_smallName _
  parts := by
    obtain ⟨d, small, heq, ⟨-, hd⟩, hsmall⟩ := Text.lowerList_cons [] c r
    rw [toList_smallName, heq]
    refine ⟨d, _, rfl, ?_, fun e he => ?_⟩
    · rcases hd with rfl | hletter
      · exact hc
      · have hrest := isNameRest_of_isLetterlike hletter
        simp only [isNameRest, Bool.and_eq_true] at hrest
        exact hrest.1
    · rcases List.mem_append.mp he with he | he
      · exact isNameRest_of_isLetterlike (hsmall e he).2
      · exact (Text.mem_or_isLetterlike he).elim (hr e) isNameRest_of_isLetterlike

/-- What is true of every token that scanning finds. -/
def Token.Sound : Token → Prop
  | .opening tag found => IsTagName tag ∧ ∀ a ∈ found, IsAttributeName a.1
  | .single tag found => IsTagName tag ∧ ∀ a ∈ found, IsAttributeName a.1
  | .comment s => Lacks endsComment? s.toList
  | .doctype s => '>' ∉ s.toList
  | .instruction s => '>' ∉ s.toList
  | .section s => (s.toList.take 6).map Char.toUpper = "CDATA[".toList →
      Lacks (spaced? [']', ']', '>']) s.toList
  | .text _ => True
  | .closing _ => True

/-- A construct is one token or none. -/
def IsSoundConstruct (ts : List Token) : Prop := ts = [] ∨ ∃ t : Token, ts = [t] ∧ t.Sound

theorem isAttributeName_of_attributes {fuel : Nat} {previous : Char} {a : Attribute}
    (h : a ∈ (attributes fuel previous cs).1) : IsAttributeName a.1 := by
  induction fuel generalizing previous cs with
  | zero => cases h
  | succ fuel ih =>
    cases cs with
    | nil => cases h
    | cons c r =>
      rw [attributes] at h
      split at h
      next hstart =>
        rw [Bool.and_eq_true] at hstart
        rcases List.mem_cons.mp h with rfl | hmem
        · exact isAttributeName_smallName hstart.2 fun d hd => List.mem_takeWhile_imp hd
        · exact ih hmem
      next => cases h

theorem isTagName_of_tagName? (h : tagName? cs = some (body, rest)) :
    IsTagName (smallName body) := by
  cases cs with
  | nil => cases h
  | cons c r =>
    rw [tagName?] at h
    split at h
    next hc =>
      cases h
      have hinner : ∀ d ∈ (c :: r).takeWhile (!endsName ·), endsName d = false := fun d hd => by
        simpa using List.mem_takeWhile_imp hd
      have hfirst : endsName c = false := endsName_of_isLetterlike (.inl hc)
      rw [List.takeWhile_cons, if_pos (by simp [hfirst])] at hinner ⊢
      exact isTagName_smallName hc hinner
    next => cases h

theorem isSoundConstruct_openingTag (h : openingTag cs = some (ts, rest)) :
    IsSoundConstruct ts := by
  unfold openingTag at h
  split at h
  next => cases h
  next name afterName hname =>
    have htag := isTagName_of_tagName? hname
    have hnames (previous : Char) (a : Attribute)
        (ha : a ∈ (attributes cs.length previous (skipFiller afterName)).1) :
        IsAttributeName a.1 := isAttributeName_of_attributes ha
    dsimp only at h
    split at h
    next =>
      cases h
      exact .inr ⟨_, rfl, htag, hnames _⟩
    next =>
      cases h
      exact .inr ⟨_, rfl, htag, hnames _⟩
    next => cases h
    next =>
      split at h
      next => cases h
      next =>
        cases h
        exact .inr ⟨_, rfl, trivial⟩

theorem isSoundConstruct_bogusComment (h : bogusComment cs = some (ts, rest)) :
    IsSoundConstruct ts := by
  obtain ⟨⟨body, left⟩, hcut, hparts⟩ := Option.map_eq_some_iff.mp h
  cases hparts
  refine .inr ⟨_, rfl, ?_⟩
  rw [Token.Sound, String.toList_ofList]
  exact lacks_endsComment? (Text.notMem_of_cutAt? hcut)

theorem isSoundConstruct_closingTag (h : closingTag cs = some (ts, rest)) :
    IsSoundConstruct ts := by
  unfold closingTag at h
  split at h
  next => cases h
  next =>
    split at h
    next =>
      cases h
      exact .inr ⟨_, rfl, trivial⟩
    next =>
      split at h
      next =>
        obtain ⟨_, _, hparts⟩ := Option.map_eq_some_iff.mp h
        cases hparts
        exact .inr ⟨_, rfl, trivial⟩
      next =>
        split at h
        next =>
          cases h
          exact .inl rfl
        next => exact isSoundConstruct_bogusComment h

theorem isSoundConstruct_commentToken (h : commentToken cs = some (ts, rest)) :
    IsSoundConstruct ts := by
  obtain ⟨⟨body, left⟩, hcut, hparts⟩ := Option.map_eq_some_iff.mp h
  cases hparts
  refine .inr ⟨_, rfl, ?_⟩
  rw [Token.Sound, String.toList_ofList]
  exact lacks_of_cutWhere? endsComment?_append_none hcut

theorem isSoundConstruct_instructionToken (h : instructionToken cs = some (ts, rest)) :
    IsSoundConstruct ts := by
  obtain ⟨⟨body, left⟩, hcut, hparts⟩ := Option.map_eq_some_iff.mp h
  cases hparts
  refine .inr ⟨_, rfl, ?_⟩
  rw [Token.Sound, String.toList_ofList]
  exact Text.notMem_of_cutAt? hcut

theorem toUpper_of_foreign (h : 128 ≤ c.toNat) : c.toUpper = c := by
  unfold Char.toUpper
  rw [dif_neg]
  rintro ⟨-, hlast⟩
  have hz : 'z'.val.toNat = 122 := rfl
  have hval : c.toNat = c.val.toNat := rfl
  rw [UInt32.le_iff_toNat_le] at hlast
  omega

/-- A character whose capital is a letter is that letter in either case. -/
theorem toLower_of_toUpper (h : c.toUpper.isUpper) :
    c.isAlpha ∧ c.toLower = c.toUpper.toLower := by
  rcases Nat.lt_or_ge c.toNat 128 with hascii | hforeign
  · have hfacts : ∀ n < 128, (Char.ofNat n).toUpper.isUpper →
        (Char.ofNat n).isAlpha ∧ (Char.ofNat n).toLower = (Char.ofNat n).toUpper.toLower := by
      decide
    exact Text.ascii_induction (P := fun c => c.toUpper.isUpper →
      c.isAlpha ∧ c.toLower = c.toUpper.toLower) hfacts hascii h
  · rw [toUpper_of_foreign hforeign] at h ⊢
    exact ⟨by simp [Char.isAlpha, h], rfl⟩

theorem eq_bracket_of_toUpper (h : c.toUpper = '[') : c = '[' := by
  rcases Nat.lt_or_ge c.toNat 128 with hascii | hforeign
  · have hfacts : ∀ n < 128, (Char.ofNat n).toUpper = '[' → Char.ofNat n = '[' := by decide
    exact Text.ascii_induction (P := fun c => c.toUpper = '[' → c = '[') hfacts hascii h
  · rwa [toUpper_of_foreign hforeign] at h

theorem lowerList_of_isAlpha (before : List Char) (h : ∀ c ∈ cs, c.isAlpha) :
    Text.lowerList before cs = cs.map Char.toLower := by
  induction cs generalizing before with
  | nil => rfl
  | cons c cs ih =>
    rw [Text.lowerList_cons_of_isAlpha _ _ (h c List.mem_cons_self),
      ih _ fun d hd => h d (List.mem_cons_of_mem c hd), List.map_cons]

/-- A text that starts like character data has the name of it. -/
theorem smallName_of_cdata (after : List Char)
    (h : (cs.take 6).map Char.toUpper = "CDATA[".toList) :
    smallName ((cs ++ after).takeWhile isSectionName) = "cdata" := by
  have hlength : (cs.take 6).length = 6 := by
    rw [← List.length_map Char.toUpper, h]
    rfl
  match cs, hlength with
  | c₁ :: c₂ :: c₃ :: c₄ :: c₅ :: c₆ :: r, _ =>
    have hletters : [c₁, c₂, c₃, c₄, c₅].map Char.toUpper = ['C', 'D', 'A', 'T', 'A'] ∧
        c₆.toUpper = '[' := by
      simpa [and_assoc] using h
    obtain ⟨hname, hbracket⟩ := hletters
    have hupper : ∀ c ∈ [c₁, c₂, c₃, c₄, c₅], c.isAlpha ∧ c.toLower = c.toUpper.toLower := by
      intro c hc
      have hmem : c.toUpper ∈ [c₁, c₂, c₃, c₄, c₅].map Char.toUpper := List.mem_map_of_mem hc
      have hall : ∀ d ∈ ['C', 'D', 'A', 'T', 'A'], d.isUpper := List.all_eq_true.mp rfl
      rw [hname] at hmem
      exact toLower_of_toUpper (hall _ hmem)
    have htake : (c₁ :: c₂ :: c₃ :: c₄ :: c₅ :: c₆ :: r ++ after).takeWhile isSectionName =
        [c₁, c₂, c₃, c₄, c₅] := by
      have hsection : ∀ c ∈ [c₁, c₂, c₃, c₄, c₅], isSectionName c := fun c hc => by
        simp [isSectionName, Char.isAlphanum, (hupper c hc).1]
      have hstop : isSectionName c₆ = false := by
        rw [eq_bracket_of_toUpper hbracket]
        decide
      have hsplit : c₁ :: c₂ :: c₃ :: c₄ :: c₅ :: c₆ :: r ++ after =
          [c₁, c₂, c₃, c₄, c₅] ++ c₆ :: (r ++ after) := rfl
      rw [hsplit, takeWhile_append_cons hstop, List.takeWhile_eq_self_iff.mpr hsection]
    have hlower : [c₁, c₂, c₃, c₄, c₅].map Char.toLower = ['c', 'd', 'a', 't', 'a'] := by
      rw [List.map_congr_left fun c hc => (hupper c hc).2]
      have hmap := congrArg (List.map Char.toLower) hname
      rw [List.map_map] at hmap
      exact hmap.trans (by decide)
    rw [htake, smallName, Text.lower, String.toList_ofList,
      lowerList_of_isAlpha [] fun c hc => (hupper c hc).1, hlower]

theorem isSoundConstruct_markedSection {start : List Char}
    (h : markedSection start cs = .ok (some (ts, rest))) : IsSoundConstruct ts := by
  cases cs with
  | nil => cases h
  | cons c r =>
    unfold markedSection at h
    dsimp only at h
    split at h
    next => cases h
    next halpha =>
      split at h
      next => cases h
      next =>
        split at h
        next => cases h
        next marks hmarks =>
          obtain ⟨⟨body, left⟩, hcut, hparts⟩ := Option.map_eq_some_iff.mp (Except.ok.inj h)
          cases hparts
          refine .inr ⟨_, rfl, ?_⟩
          rw [Token.Sound, String.toList_ofList]
          intro hstart
          obtain ⟨after, hbody, -⟩ := cutWhere?_eq_some hcut
          have hsection : isSectionName c := by
            simp only [Bool.not_eq_true', Bool.not_eq_false] at halpha
            simp [isSectionName, Char.isAlphanum, halpha]
          have hname := smallName_of_cdata after hstart
          rw [← hbody, List.takeWhile_cons, if_pos hsection] at hname
          rw [hname, if_pos (by decide)] at hmarks
          cases hmarks
          exact lacks_of_cutWhere? (fun _ _ => spaced?_append_none) hcut

theorem isSoundConstruct_declaration (h : declaration cs = .ok (some (ts, rest))) :
    IsSoundConstruct ts := by
  unfold declaration at h
  split at h
  next => exact isSoundConstruct_commentToken (Except.ok.inj h)
  next => exact isSoundConstruct_markedSection h
  next =>
    split at h
    next hname =>
      obtain ⟨⟨body, left⟩, hcut, hparts⟩ := Option.map_eq_some_iff.mp (Except.ok.inj h)
      cases hparts
      refine .inr ⟨_, rfl, ?_⟩
      rw [Token.Sound, String.toList_ofList, List.drop_append]
      rw [List.drop_eq_nil_of_le (by simp only [List.length_take]; omega), List.nil_append]
      exact fun hmem => Text.notMem_of_cutAt? hcut (List.mem_of_mem_drop hmem)
    next => exact isSoundConstruct_bogusComment (Except.ok.inj h)

/-- Every construct is one sound token or none. -/
theorem isSoundConstruct_construct (h : construct cs = .ok (some (ts, rest))) :
    IsSoundConstruct ts := by
  unfold construct at h
  split at h
  next => exact isSoundConstruct_closingTag (Except.ok.inj h)
  next => exact isSoundConstruct_declaration h
  next => exact isSoundConstruct_instructionToken (Except.ok.inj h)
  next =>
    split at h
    next => exact isSoundConstruct_openingTag (Except.ok.inj h)
    next =>
      cases h
      exact .inr ⟨_, rfl, trivial⟩
  next => cases h

/-- Rows of sound tokens from one state of scanning to another: outside of raw elements, or in the
one whose opening tag came last. Its text and its closing tag come together. -/
inductive Chain : Option String → List Token → Option String → Prop
  | done (raw : Option String) : Chain raw [] raw
  | token {t : Token} {ts : List Token} {raw : Option String} (sound : t.Sound)
      (rest : Chain (rawAfter [t]) ts raw) : Chain none (t :: ts) raw
  | raw {tag : String} {body : List Char} {ts : List Token} {raw : Option String}
      (lacks : Lacks (endsRaw? tag) body) (rest : Chain none ts raw) :
      Chain (some tag) (textToken body ++ .closing tag :: ts) raw

variable {raw middle : Option String}

theorem Chain.append (h : Chain raw ts middle) (h' : Chain middle us raw') :
    Chain raw (ts ++ us) raw' := by
  induction h with
  | done => exact h'
  | token sound rest ih => exact .token sound (ih h')
  | raw lacks rest ih => simpa using Chain.raw lacks (ih h')

theorem chain_textToken (cs : List Char) : Chain none (textToken cs) none := by
  unfold textToken
  split
  · exact .done none
  · exact .token trivial (.done none)

theorem chain_construct (h : IsSoundConstruct ts) (hus : Chain (rawAfter ts) us raw) :
    Chain none (ts ++ us) raw := by
  rcases h with rfl | ⟨t, rfl, ht⟩
  · exact hus
  · exact .token ht hus

theorem chain_textReference {found : List Token}
    (h : textReference final cs = .goOn found rest ∨ textReference final cs = .halt found rest) :
    Chain none found none := by
  have hone (s : String) : Chain none [.text s] none := .token trivial (.done none)
  unfold textReference at h
  split at h
  next =>
    split at h
    next =>
      rcases h with h | h <;> cases h
      exact hone _
    next =>
      split at h
      next =>
        rcases h with h | h <;> cases h
        exact hone _
      next =>
        rcases h with h | h <;> cases h
        exact .done none
  next =>
    rcases h with h | h <;> cases h
    exact .done none
  next =>
    split at h
    next =>
      rcases h with h | h <;> cases h
      exact hone _
    next =>
      split at h
      next =>
        rcases h with h | h <;> cases h
        exact .done none
      next =>
        rcases h with h | h <;> cases h
        exact hone _

theorem unfinished_text (cs : List Char) : ∃ s, (unfinished cs).1 = .text s := by
  unfold unfinished
  split
  · exact ⟨_, rfl⟩
  · split
    · exact ⟨_, rfl⟩
    · split <;> exact ⟨_, rfl⟩

/-- A pass goes from the state it starts in to the one it ends in. -/
theorem chain_pass {fuel : Nat} {p : Pass} (h : pass final fuel raw cs = .ok p) :
    Chain raw p.tokens p.raw := by
  induction fuel generalizing raw cs p with
  | zero =>
    rw [pass] at h
    cases h
    exact .done raw
  | succ fuel ih =>
    rcases cs with _ | ⟨c, r⟩
    · simp only [pass] at h
      cases h
      exact .done raw
    cases raw with
    | some tag =>
      simp only [pass] at h
      split at h
      next =>
        cases h
        exact .done _
      next body left hcut =>
        obtain ⟨q, hq, rfl⟩ := exists_of_map_cons h
        rw [cutRaw?_eq] at hcut
        have hlacks := lacks_of_cutWhere? endsRaw?_append_none hcut
        simpa [Pass.cons] using Chain.raw hlacks (ih hq)
    | none =>
      simp only [pass] at h
      have htext := chain_textToken ((c :: r).takeWhile (!isMark ·))
      split at h
      next =>
        cases h
        exact htext
      next q hdrop =>
        split at h
        next => cases h
        next found left hfound =>
          obtain ⟨p, hp, rfl⟩ := exists_of_map_cons h
          have hrest := chain_construct (isSoundConstruct_construct hfound) (ih hp)
          simpa [Pass.cons] using htext.append hrest
        next =>
          split at h
          next =>
            obtain ⟨p, hp, rfl⟩ := exists_of_map_cons h
            obtain ⟨s, hs⟩ := unfinished_text ('<' :: q)
            have hrest : Chain none ((unfinished ('<' :: q)).1 :: p.tokens) p.raw := by
              rw [hs]
              exact .token trivial (ih hp)
            simpa [Pass.cons] using htext.append hrest
          next =>
            cases h
            exact htext
      next =>
        split at h
        next found left hfound =>
          obtain ⟨p, hp, rfl⟩ := exists_of_map_cons h
          have hrest := (chain_textReference (.inl hfound)).append (ih hp)
          simpa [Pass.cons] using htext.append hrest
        next found left hfound =>
          cases h
          exact htext.append (chain_textReference (.inr hfound))

/-- The tokens of a text are sound ones in a row. -/
theorem chain_tokens {markup : String} (h : tokens markup = .ok ts) : ∃ raw, Chain none ts raw := by
  unfold tokens at h
  dsimp only at h
  split at h
  next => cases h
  next first hfirst =>
    split at h
    next => cases h
    next second hsecond =>
      cases h
      have hpasses := (chain_pass hfirst).append (chain_pass hsecond)
      cases hraw : second.raw with
      | some tag => exact ⟨_, by simpa using hpasses⟩
      | none =>
        rw [hraw] at hpasses
        exact ⟨none, by simpa using hpasses.append (chain_textToken second.rest)⟩

end Gleaner.Markup
