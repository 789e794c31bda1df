import Gleaner.Proofs.Markup.Builder
import Gleaner.Proofs.Markup.Scanned

/-! Every node of a page is sound: the tree that grows from sound tokens has sound nodes at every
step, and a raw element gets nothing but its text. -/

namespace Gleaner.Markup

variable {b b' : Builder} {n : Node} {tag : String} {written : List Attribute} {s : String}
  {ts : List Token} {raw raw' : Option String}

theorem putAttribute_names (found : List Attribute) (a : Attribute) :
    (putAttribute found a).map (·.1) =
      if a.1 ∈ found.map (·.1) then found.map (·.1) else found.map (·.1) ++ [a.1] := by
  induction found with
  | nil => simp [putAttribute]
  | cons b rest ih =>
    rw [putAttribute]
    split
    next hb => simp [hb]
    next hb =>
      rw [List.map_cons, ih]
      simp only [List.map_cons, List.mem_cons, Ne.symm hb, false_or]
      split <;> simp

theorem attributesOf_names (rule : WordRule) (tag : String) (written : List Attribute) :
    (attributesOf rule tag written).map (·.1) = (written.foldl putAttribute []).map (·.1) := by
  cases rule <;> simp [attributesOf, Function.comp_def]

theorem attributesOf_nodup (rule : WordRule) (tag : String) (written : List Attribute) :
    ((attributesOf rule tag written).map (·.1)).Nodup := by
  rw [attributesOf_names]
  suffices h : ∀ found : List Attribute, (found.map (·.1)).Nodup →
      ((written.foldl putAttribute found).map (·.1)).Nodup from h [] List.nodup_nil
  induction written with
  | nil => exact fun found h => h
  | cons a written ih =>
    intro found h
    refine ih _ ?_
    rw [putAttribute_names]
    split
    next => exact h
    next hnew => simpa [List.nodup_append_comm, hnew] using h

theorem mem_attributesOf_names {rule : WordRule} {name : String}
    (h : name ∈ (attributesOf rule tag written).map (·.1)) : name ∈ written.map (·.1) := by
  rw [attributesOf_names] at h
  suffices hfold : ∀ found : List Attribute, name ∈ (written.foldl putAttribute found).map (·.1) →
      name ∈ found.map (·.1) ∨ name ∈ written.map (·.1) by
    simpa using hfold [] h
  clear h
  induction written with
  | nil => exact fun found h => .inl h
  | cons a written ih =>
    intro found h
    rcases ih _ h with hmem | hmem
    · rw [putAttribute_names] at hmem
      split at hmem
      next => exact .inl hmem
      next =>
        rcases List.mem_append.mp hmem with hmem | hmem
        · exact .inl hmem
        · exact .inr (by simpa using .inl (List.mem_singleton.mp hmem))
    · exact .inr (List.mem_cons_of_mem _ hmem)

/-- What holds of a text and of single blanks holds of the text as it is kept. -/
theorem settle_induction {P : String → Prop} (hs : P s) (hline : P "\n") (hblank : P " ")
    (b : Builder) : P (b.settle s) := by
  unfold Builder.settle
  split
  · split
    · exact hline
    · exact hblank
  · exact hs

/-- Open elements that may have content, and whose nodes are sound. -/
structure OpenElement.Sound (e : OpenElement) : Prop where
  name : IsTagName e.tag
  filled : isVoid e.tag = false
  names : ∀ a ∈ e.attributes, IsAttributeName a.1
  distinct : (e.attributes.map (·.1)).Nodup
  children : ∀ n ∈ e.children, n.Sound

/-- Nothing but sound nodes is in the tree, no raw element is open, and only elements without
content are settled. -/
structure Builder.Sound (b : Builder) : Prop where
  top : ∀ n ∈ b.top, n.Sound
  stack : ∀ e ∈ b.stack, e.Sound
  plain : ∀ e ∈ b.stack, isRawTag e.tag = false
  settled : ∀ tag ∈ b.settled, isVoid tag

theorem Builder.sound_start (rule : WordRule) : (Builder.start rule).Sound where
  top := by simp [Builder.start]
  stack := by simp [Builder.start]
  plain := by simp [Builder.start]
  settled := by simp [Builder.start]

namespace Builder.Sound

theorem add (h : b.Sound) (hn : n.Sound) : (b.add n).Sound := by
  unfold Builder.add
  split
  next hstack =>
    refine ⟨?_, h.stack, h.plain, h.settled⟩
    simpa using ⟨hn, h.top⟩
  next e rest hstack =>
    obtain ⟨he, hrest⟩ := List.forall_mem_cons.mp (hstack ▸ h.stack)
    obtain ⟨hplain, hothers⟩ := List.forall_mem_cons.mp (hstack ▸ h.plain)
    refine ⟨h.top, List.forall_mem_cons.mpr ⟨⟨he.name, he.filled, he.names, he.distinct, ?_⟩,
      hrest⟩,
      List.forall_mem_cons.mpr ⟨hplain, hothers⟩, h.settled⟩
    simpa using ⟨hn, he.children⟩

theorem of_pending (h : b.Sound) (pending : Option String) : { b with pending }.Sound :=
  ⟨h.top, h.stack, h.plain, h.settled⟩

theorem flush (h : b.Sound) : b.flush.Sound := by
  unfold Builder.flush
  split
  next => exact h
  next s _ => exact (h.of_pending none).add (.text _ _)

theorem addMarked {make : String → Node} (h : b.Sound) (hs : (make s).Sound)
    (hline : (make "\n").Sound) (hblank : (make " ").Sound) : (b.addMarked make s).Sound :=
  h.flush.add (settle_induction (P := fun s => (make s).Sound) hs hline hblank _)

theorem pop (h : b.Sound) : b.pop.Sound := by
  unfold Builder.pop
  split
  next => exact h
  next e rest hstack =>
    obtain ⟨he, hrest⟩ := List.forall_mem_cons.mp (hstack ▸ h.stack)
    obtain ⟨hplain, hothers⟩ := List.forall_mem_cons.mp (hstack ▸ h.plain)
    have hbelow : { b with stack := rest }.Sound := ⟨h.top, hrest, hothers, h.settled⟩
    refine hbelow.add (.element he.name he.names he.distinct ?_ ?_ ?_)
    · simp [he.filled]
    · simp [hplain]
    · simpa using he.children

theorem pops (h : b.Sound) (k : Nat) : (b.pops k).Sound := by
  induction k generalizing b with
  | zero => exact h
  | succ k ih => exact ih h.pop

theorem close (h : b.Sound) (tag : String) : (b.close tag).Sound := by
  unfold Builder.close
  dsimp only
  split
  next => exact h.flush
  next => exact h.flush.pops _

theorem closing (h : b.Sound) (tag : String) : (b.closing tag).Sound := by
  unfold Builder.closing
  split
  next => exact ⟨h.top, h.stack, h.plain, fun t ht => h.settled t (List.mem_of_mem_erase ht)⟩
  next => exact h.close tag

theorem finish (h : b.Sound) : ∀ n ∈ b.finish, n.Sound := by
  intro n hn
  exact (h.flush.pops _).top n (List.mem_reverse.mp hn)

end Builder.Sound

theorem attributesOf_sound (rule : WordRule) (tag : String)
    (hnames : ∀ a ∈ written, IsAttributeName a.1) :
    ∀ a ∈ attributesOf rule tag written, IsAttributeName a.1 := by
  intro a ha
  have hmem := mem_attributesOf_names (List.mem_map_of_mem ha)
  obtain ⟨a', ha', heq⟩ := List.mem_map.mp hmem
  exact heq ▸ hnames a' ha'

/-- An element that a tag opens, as long as nothing is in it. -/
theorem sound_opened (rule : WordRule) (htag : IsTagName tag)
    (hnames : ∀ a ∈ written, IsAttributeName a.1) (hvoid : isVoid tag = false) :
    OpenElement.Sound ⟨tag, attributesOf rule tag written, []⟩ where
  name := htag
  filled := hvoid
  names := attributesOf_sound rule tag hnames
  distinct := attributesOf_nodup rule tag written
  children := by simp

/-- An element that is opened and at once closed, whatever its name is. -/
theorem Builder.Sound.close_opened (h : b.Sound) (htag : IsTagName tag)
    (hnames : ∀ a ∈ written, IsAttributeName a.1) :
    ((b.openElement tag written).close tag).Sound := by
  rw [close_openElement]
  exact h.flush.add (.element htag (attributesOf_sound b.rule tag hnames)
    (attributesOf_nodup b.rule tag written) (fun _ => rfl) (fun _ => .inl rfl) (by simp))

theorem Builder.Sound.openElement (h : b.Sound) (htag : IsTagName tag)
    (hnames : ∀ a ∈ written, IsAttributeName a.1) (hvoid : isVoid tag = false)
    (hraw : isRawTag tag = false) : (b.openElement tag written).Sound where
  top := h.flush.top
  stack := List.forall_mem_cons.mpr ⟨sound_opened _ htag hnames hvoid, h.flush.stack⟩
  plain := List.forall_mem_cons.mpr ⟨hraw, h.flush.plain⟩
  settled := h.flush.settled

theorem isVoid_of_isRawTag (h : isRawTag tag) : isVoid tag = false := by
  simp only [isRawTag, Bool.or_eq_true, decide_eq_true_eq] at h
  rcases h with rfl | rfl <;> decide

/-- What a builder is like where scanning is outside of raw elements, or in one: there the element
is the innermost one, nothing is in it, and no text waits. -/
inductive Fits : Option String → Builder → Prop
  | plain {b : Builder} (sound : b.Sound) : Fits none b
  | raw {tag : String} {attributes : List Attribute} {b : Builder} (isRaw : isRawTag tag)
      (opened : OpenElement.Sound ⟨tag, attributes, []⟩) (sound : b.Sound)
      (pending : b.pending = none) : Fits (some tag) (b.push tag attributes)

theorem Builder.Sound.notMem_settled (h : b.Sound) (hraw : isRawTag tag) : tag ∉ b.settled := by
  intro hmem
  have hvoid := h.settled tag hmem
  rw [isVoid_of_isRawTag hraw] at hvoid
  cases hvoid

/-- A raw element gets its text, if there is any, and is closed. -/
theorem Fits.closeRaw {body : List Char} (h : Fits (some tag) b)
    (hlacks : Lacks (endsRaw? tag) body) :
    Fits none ((textToken body ++ [Token.closing tag]).foldl Builder.step b) := by
  cases h with
  | @raw _ as b isRaw opened sound pending =>
    have hsettled := sound.notMem_settled isRaw
    have helement (children : List Node) (hraw : IsRawContent tag children)
        (hsound : ∀ n ∈ children, n.Sound) : (Node.element tag as children).Sound :=
      .element opened.name opened.names opened.distinct (by simp [isVoid_of_isRawTag isRaw])
        (fun _ => hraw) hsound
    refine .plain ?_
    cases body with
    | nil =>
      have hflush : (b.push tag as).flush = List.foldl Builder.add (b.push tag as) [] :=
        flush_of_pending pending
      simp only [textToken_nil, List.nil_append, List.foldl_cons, List.foldl_nil, Builder.step,
        closing_innermost hflush hsettled]
      exact sound.add (helement [] (.inl rfl) (by simp))
    | cons c r =>
      have hflush : ((b.push tag as).addText (String.ofList (c :: r))).flush =
          List.foldl Builder.add (b.push tag as) [.text (b.push tag as).voice
            ((b.push tag as).settle (String.ofList (c :: r)))] :=
        flush_addText (push_pending.trans pending) _
      have htext :
          Lacks (endsRaw? tag) ((b.push tag as).settle (String.ofList (c :: r))).toList :=
        settle_induction (P := fun s => Lacks (endsRaw? tag) s.toList)
          (by simpa using hlacks) (lacks_endsRaw? (by decide)) (lacks_endsRaw? (by decide)) _
      simp only [textToken, List.isEmpty_cons, Bool.false_eq_true, if_false, List.singleton_append,
        List.foldl_cons, List.foldl_nil, Builder.step]
      rw [closing_innermost hflush hsettled]
      exact sound.add (helement _ (.inr ⟨_, _, rfl, htext⟩) (by simpa using .text _ _))

theorem Fits.opening (h : b.Sound) (htag : IsTagName tag)
    (hnames : ∀ a ∈ written, IsAttributeName a.1) :
    Fits (rawAfter [.opening tag written]) (b.step (.opening tag written)) := by
  simp only [rawAfter, Builder.step]
  cases hraw : isRawTag tag with
  | true =>
    have hvoid := isVoid_of_isRawTag hraw
    rw [if_pos rfl, if_neg (by simp [hvoid]), openElement_eq]
    exact .raw hraw (sound_opened b.rule htag hnames hvoid) h.flush (flush_pending b)
  | false =>
    rw [if_neg (by decide)]
    refine .plain ?_
    split
    next hvoid =>
      have hclosed := h.close_opened htag hnames
      refine ⟨hclosed.top, hclosed.stack, hclosed.plain, fun t ht => ?_⟩
      rcases List.mem_append.mp ht with ht | ht
      · exact hclosed.settled t ht
      · exact List.mem_singleton.mp ht ▸ hvoid
    next hvoid => exact h.openElement htag hnames (by simpa using hvoid) hraw

theorem Builder.Sound.marked (h : b.Sound) (hs : Token.Sound (.section s)) :
    (b.step (.section s)).Sound := by
  simp only [Builder.step]
  split
  next hstart =>
    refine h.addMarked ?_ (.rawSection ⟨rfl, trivial⟩) (.rawSection ⟨rfl, trivial⟩)
    refine .rawSection ?_
    rw [String.toList_ofList]
    exact (hs hstart).drop 6
  next => exact h.addMarked (.declaration s) (.declaration _) (.declaration _)

/-- What one token does outside of raw elements. -/
theorem Fits.step (h : b.Sound) {t : Token} (ht : t.Sound) : Fits (rawAfter [t]) (b.step t) := by
  cases t with
  | text s => exact .plain (h.of_pending _)
  | opening tag written => exact .opening h ht.1 ht.2
  | single tag written => exact .plain (h.close_opened ht.1 ht.2)
  | closing tag => exact .plain (h.closing tag)
  | comment s =>
    exact .plain (h.addMarked (.comment ht) (.comment (lacks_endsComment? (by decide)))
      (.comment (lacks_endsComment? (by decide))))
  | doctype s =>
    exact .plain (h.addMarked (.doctype ht) (.doctype (by decide)) (.doctype (by decide)))
  | instruction s =>
    exact .plain
      (h.addMarked (.instruction ht) (.instruction (by decide)) (.instruction (by decide)))
  | «section» s => exact .plain (h.marked ht)

/-- Along a row of tokens, builders are what scanning says. -/
theorem Fits.foldl (hts : Chain raw ts raw') (h : Fits raw b) :
    Fits raw' (ts.foldl Builder.step b) := by
  induction hts generalizing b with
  | done => exact h
  | token sound rest ih =>
    cases h with
    | plain hb => exact ih (Fits.step hb sound)
  | raw lacks rest ih =>
    have hclosed := ih (h.closeRaw lacks)
    simpa [List.foldl_append] using hclosed

/-- Whatever is open at the end, the tree is sound. -/
theorem Fits.finish (h : Fits raw b) : ∀ n ∈ b.finish, n.Sound := by
  cases h with
  | plain sound => exact sound.finish
  | @raw tag as b isRaw opened sound pending =>
    have helement : (Node.element tag as []).Sound :=
      .element opened.name opened.names opened.distinct (fun _ => rfl) (fun _ => .inl rfl)
        opened.children
    intro n hn
    have hflush : (b.push tag as).flush = b.push tag as := flush_of_pending pending
    rw [Builder.finish, hflush, List.mem_reverse] at hn
    exact ((sound.add helement).pops b.stack.length).top n hn

/-- Every node of a page is sound. -/
theorem sound_of_parse {markup : String} {rule : WordRule} {nodes : List Node}
    (h : parse markup rule = .ok nodes) : ∀ n ∈ nodes, n.Sound := by
  unfold parse at h
  cases hts : tokens markup with
  | error r =>
    rw [hts] at h
    cases h
  | ok ts =>
    rw [hts] at h
    cases h
    obtain ⟨raw, hchain⟩ := chain_tokens hts
    exact (Fits.foldl hchain (.plain (Builder.sound_start rule))).finish

end Gleaner.Markup
