import Gleaner.Proofs.Markup.Origin

/-! The tree that grows from the tokens of a node: the node again, with its attributes in the order
of their names and the text between its nodes run together and settled anew. -/

namespace Gleaner.Markup

variable {b : Builder} {n : Node} {nodes : List Node} {tag : String} {as : List Attribute}
  {v : Voice} {keep : Bool} {pending : Option String}

/-- Text of blanks alone as it is kept, where blanks count or not. -/
def settleText (keep : Bool) (s : String) : String :=
  if !keep && s.toList.all Builder.isAsciiBlank then
    if s.toList.contains '\n' then "\n" else " "
  else s

/-- More text behind the text that waits. -/
def join (pending : Option String) (s : String) : Option String :=
  if s.toList.isEmpty then pending else some (pending.getD "" ++ s)

/-- The text that waits, as a node. -/
def waiting (v : Voice) (keep : Bool) (pending : Option String) : List Node :=
  (pending.map fun s => Node.text v (settleText keep s)).toList

/-- The text that comes with a node: a document type is written with a line end. -/
def Node.trailing : Node → Option String
  | .doctype _ => some "\n"
  | _ => none

mutual

/-- A node read again from its text, inside of elements that give text its voice and let blanks
count or not. -/
def Node.reread (v : Voice) (keep : Bool) : Node → Node
  | .element tag attributes children =>
    .element tag (sorted attributes)
      (rereadAll ((voiceOf? tag).getD v) (keep || keepsBlanks tag) none children)
  | .text _ s => .text v (settleText keep s)
  | .comment s => .comment (settleText keep s)
  | .rawSection s => .rawSection (settleText keep s)
  | .instruction s => .instruction (settleText keep s)
  | .declaration s => .instruction (settleText keep (s ++ "?"))
  | .doctype s => .doctype (settleText keep s)

/-- Nodes read again from their texts, after text that waits. -/
def rereadAll (v : Voice) (keep : Bool) : Option String → List Node → List Node
  | pending, [] => waiting v keep pending
  | pending, .text _ s :: ns => rereadAll v keep (join pending s) ns
  | pending, n :: ns =>
    waiting v keep pending ++ n.reread v keep :: rereadAll v keep n.trailing ns

end

theorem settle_eq (b : Builder) (s : String) : b.settle s = settleText b.keeps s := rfl

theorem flush_eq (b : Builder) :
    b.flush = (waiting b.voice b.keeps b.pending).foldl Builder.add { b with pending := none } := by
  unfold Builder.flush
  split
  next h =>
    rw [h, pending_none h]
    rfl
  next s h => simp [waiting, h, settle_eq]

/-- What the tokens of a node make of a builder. -/
def Builder.grown (b : Builder) : Node → Builder
  | .text _ s => { b with pending := join b.pending s }
  | n => { b.flush.add (n.reread b.voice b.keeps) with pending := n.trailing }

theorem grown_of_trailing (h : n.trailing = none) (htext : ∀ v s, n ≠ .text v s) :
    b.grown n = b.flush.add (n.reread b.voice b.keeps) := by
  have hpending : (b.flush.add (n.reread b.voice b.keeps)).pending = none := by simp
  rw [Builder.grown, h]
  · exact pending_none hpending
  · exact htext

/-- The tokens of a node grow into the node read again. -/
def Node.Grows (n : Node) : Prop :=
  ∀ b : Builder, b.rule = .asWritten → b.settled = [] → n.tokens.foldl Builder.step b = b.grown n

theorem grown_frame (b : Builder) (n : Node) :
    (b.grown n).rule = b.rule ∧ (b.grown n).settled = b.settled ∧
      (b.grown n).stack.map (·.tag) = b.stack.map (·.tag) := by
  cases n <;> simp [Builder.grown]

/-- Nodes in a row grow into what they are read again as, once the text behind them is in the
tree. -/
theorem flush_foldl_tokensAll (hnodes : ∀ n ∈ nodes, n.Grows) (hrule : b.rule = .asWritten)
    (hsettled : b.settled = []) :
    ((tokensAll nodes).foldl Builder.step b).flush =
      (rereadAll b.voice b.keeps b.pending nodes).foldl Builder.add { b with pending := none } := by
  induction nodes generalizing b with
  | nil => exact flush_eq b
  | cons n nodes ih =>
    obtain ⟨hrule', hsettled', htags⟩ := grown_frame b n
    have hrest := ih (fun m hm => hnodes m (List.mem_cons_of_mem n hm)) (hrule'.trans hrule)
      (hsettled'.trans hsettled)
    rw [voice_congr htags, keeps_congr htags] at hrest
    rw [tokensAll, List.foldl_append, hnodes n List.mem_cons_self b hrule hsettled, hrest]
    have hgrown : { b.flush.add (n.reread b.voice b.keeps) with pending := none } =
        b.flush.add (n.reread b.voice b.keeps) := pending_none (by simp)
    cases n with
    | text => rfl
    | _ =>
      rw [rereadAll, List.foldl_append, List.foldl_cons, ← flush_eq, ← hgrown]
      · rfl
      · simp

theorem putAttribute_new {found : List Attribute} {a : Attribute} (h : a.1 ∉ found.map (·.1)) :
    putAttribute found a = found ++ [a] := by
  induction found with
  | nil => rfl
  | cons b rest ih =>
    rw [List.map_cons, List.mem_cons, not_or] at h
    rw [putAttribute, if_neg (Ne.symm h.1), ih h.2, List.cons_append]

/-- Attributes with different names are set as they are written. -/
theorem attributesOf_asWritten (tag : String) (h : (as.map (·.1)).Nodup) :
    attributesOf .asWritten tag as = as := by
  suffices hfold : ∀ found : List Attribute, ((found ++ as).map (·.1)).Nodup →
      as.foldl putAttribute found = found ++ as from hfold [] h
  clear h
  induction as with
  | nil => simp
  | cons a as ih =>
    intro found h
    have hnew : a.1 ∉ found.map (·.1) := by
      rw [List.map_append, List.map_cons] at h
      exact fun hmem => (List.nodup_append.mp h).2.2 _ hmem _ List.mem_cons_self rfl
    rw [List.foldl_cons, putAttribute_new hnew, ih]
    · simp
    · simpa using h

theorem nodup_sorted (h : (as.map (·.1)).Nodup) : ((sorted as).map (·.1)).Nodup :=
  ((List.mergeSort_perm as _).map _).nodup_iff.mpr h

/-- The tokens of an element grow into the element read again, if those of its children do. -/
theorem grows_element {children : List Node} (distinct : (as.map (·.1)).Nodup)
    (hollow : isVoid tag → children = []) (inner : ∀ n ∈ children, n.Grows) :
    (Node.element tag as children).Grows := by
  intro b hrule hsettled
  have hwritten : attributesOf b.rule tag (sorted as) = sorted as := by
    rw [hrule, attributesOf_asWritten tag (nodup_sorted distinct)]
  rw [grown_of_trailing rfl (by simp), Node.tokens, Node.reread]
  split
  next hvoid =>
    rw [hollow hvoid, List.foldl_cons, List.foldl_nil, Builder.step, close_openElement, hwritten]
    rfl
  next hvoid =>
    have hchildren :
        ((tokensAll children).foldl Builder.step (b.flush.push tag (sorted as))).flush =
          (rereadAll ((voiceOf? tag).getD b.voice) (b.keeps || keepsBlanks tag) none
            children).foldl Builder.add (b.flush.push tag (sorted as)) := by
      have hgrown := flush_foldl_tokensAll (b := b.flush.push tag (sorted as)) inner
        (by simpa using hrule) (by simpa using hsettled)
      rw [pending_none (by simp)] at hgrown
      simpa using hgrown
    rw [List.foldl_append, List.foldl_cons, List.foldl_cons, List.foldl_nil]
    simp only [Builder.step, if_neg hvoid, openElement_eq, hwritten]
    exact closing_innermost hchildren (by simp [hsettled])

theorem step_rawSection (b : Builder) (s : String) :
    b.step (.section ("CDATA[" ++ s)) = b.addMarked .rawSection s := by
  have hparts : ("CDATA[" ++ s).toList = "CDATA[".toList ++ s.toList := String.toList_append
  have hstart : (("CDATA[" ++ s).toList.take 6).map Char.toUpper = "CDATA[".toList := by
    rw [hparts]
    rfl
  have hrest : String.ofList (("CDATA[" ++ s).toList.drop 6) = s := by
    rw [hparts]
    exact String.ofList_toList
  rw [Builder.step, if_pos hstart, hrest]

/-- What has text of its own grows into what it is read again as. -/
theorem addMarked_eq (b : Builder) (make : String → Node) (s : String) :
    b.addMarked make s = b.flush.add (make (settleText b.keeps s)) := by
  rw [Builder.addMarked, settle_eq, flush_keeps]

/-- The tokens of every sound and portable node grow into the node read again. -/
theorem Node.Sound.grows (h : n.Sound) (hportable : n.Portable) : n.Grows := by
  induction h with
  | element name names distinct hollow raw inner ih =>
    cases hportable with
    | element closable written portable =>
      exact grows_element distinct hollow fun n hn => ih n hn (portable n hn)
  | text v s =>
    intro b _ _
    rw [Node.tokens, Builder.grown, join, textToken]
    split
    · rfl
    · simp [Builder.step, Builder.addText]
  | comment h =>
    intro b _ _
    rw [grown_of_trailing rfl (by simp)]
    exact addMarked_eq b .comment _
  | rawSection h =>
    intro b _ _
    rw [grown_of_trailing rfl (by simp)]
    exact (step_rawSection b _).trans (addMarked_eq b .rawSection _)
  | instruction h =>
    intro b _ _
    rw [grown_of_trailing rfl (by simp)]
    exact addMarked_eq b .instruction _
  | declaration s =>
    intro b _ _
    rw [grown_of_trailing rfl (by simp)]
    exact addMarked_eq b .instruction _
  | @doctype s h =>
    intro b _ _
    have hmarked := addMarked_eq b .doctype s
    simp [Node.tokens, hmarked, Builder.step, Builder.addText, Builder.grown, Node.reread,
      Node.trailing]

/-- An element that is written and read again is one element alone. -/
theorem parse_render (h : (Node.element tag as nodes).Sound)
    (hportable : (Node.element tag as nodes).Portable) :
    parse (Node.element tag as nodes).render .asWritten =
      .ok [(Node.element tag as nodes).reread .plain false] := by
  obtain ⟨ts, htokens, halike⟩ := (h.reads hportable).tokens
  have hgrown := h.grows hportable (Builder.start .asWritten) rfl rfl
  rw [← halike, grown_of_trailing rfl (by simp)] at hgrown
  rw [parse, Node.render, htokens]
  simp only [Except.map, ofTokens, hgrown]
  rfl

end Gleaner.Markup
