import Gleaner.Markup.Tree
import Mathlib

/-! What the steps of a builder leave as it is, and what the closing tag of the innermost element
does. -/

namespace Gleaner.Markup

variable {b b' : Builder} {tag : String} {as : List Attribute}

@[simp]
theorem add_rule (b : Builder) (n : Node) : (b.add n).rule = b.rule := by
  unfold Builder.add
  split <;> rfl

@[simp]
theorem add_settled (b : Builder) (n : Node) : (b.add n).settled = b.settled := by
  unfold Builder.add
  split <;> rfl

@[simp]
theorem add_pending (b : Builder) (n : Node) : (b.add n).pending = b.pending := by
  unfold Builder.add
  split <;> rfl

@[simp]
theorem add_tags (b : Builder) (n : Node) : (b.add n).stack.map (·.tag) = b.stack.map (·.tag) := by
  unfold Builder.add
  split
  next h => rw [h]
  next h => rw [h, List.map_cons, List.map_cons]

@[simp]
theorem flush_rule (b : Builder) : b.flush.rule = b.rule := by
  unfold Builder.flush
  split <;> simp

@[simp]
theorem flush_settled (b : Builder) : b.flush.settled = b.settled := by
  unfold Builder.flush
  split <;> simp

@[simp]
theorem flush_pending (b : Builder) : b.flush.pending = none := by
  unfold Builder.flush
  split
  next h => exact h
  next => simp

@[simp]
theorem flush_tags (b : Builder) : b.flush.stack.map (·.tag) = b.stack.map (·.tag) := by
  unfold Builder.flush
  split <;> simp

theorem flush_of_pending (h : b.pending = none) : b.flush = b := by
  simp [Builder.flush, h]

/-- With no text waiting, nothing changes when none is set to wait. -/
theorem pending_none (h : b.pending = none) : { b with pending := none } = b := by
  rw [← h]

theorem flush_addText (h : b.pending = none) (s : String) :
    (b.addText s).flush = b.add (.text b.voice (b.settle s)) := by
  have hwaiting : b.addText s = { b with pending := some s } := by
    simp [Builder.addText, h]
  rw [hwaiting]
  change { b with pending := none }.add (.text b.voice (b.settle s)) = _
  rw [pending_none h]

/-- Whether blanks count at this place. -/
def Builder.keeps (b : Builder) : Bool := b.stack.any fun e => keepsBlanks e.tag

theorem voice_congr (h : b.stack.map (·.tag) = b'.stack.map (·.tag)) : b.voice = b'.voice := by
  have hvoice (c : Builder) : c.voice = ((c.stack.map (·.tag)).findSome? voiceOf?).getD .plain := by
    rw [Builder.voice, List.findSome?_map]
    rfl
  rw [hvoice, hvoice, h]

theorem keeps_congr (h : b.stack.map (·.tag) = b'.stack.map (·.tag)) : b.keeps = b'.keeps := by
  have hkeeps (c : Builder) : c.keeps = (c.stack.map (·.tag)).any keepsBlanks := by
    rw [Builder.keeps, List.any_map]
    rfl
  rw [hkeeps, hkeeps, h]

@[simp]
theorem flush_voice (b : Builder) : b.flush.voice = b.voice := voice_congr (flush_tags b)

@[simp]
theorem flush_keeps (b : Builder) : b.flush.keeps = b.keeps := keeps_congr (flush_tags b)

/-- One element more is open, with nothing in it. -/
def Builder.push (b : Builder) (tag : String) (as : List Attribute) : Builder :=
  { b with stack := ⟨tag, as, []⟩ :: b.stack }

theorem openElement_eq (b : Builder) (tag : String) (written : List Attribute) :
    b.openElement tag written = b.flush.push tag (attributesOf b.rule tag written) := by
  rw [← flush_rule]
  rfl

@[simp]
theorem push_rule : (b.push tag as).rule = b.rule := rfl

@[simp]
theorem push_settled : (b.push tag as).settled = b.settled := rfl

@[simp]
theorem push_pending : (b.push tag as).pending = b.pending := rfl

@[simp]
theorem push_voice : (b.push tag as).voice = (voiceOf? tag).getD b.voice := by
  simp only [Builder.push, Builder.voice, List.findSome?_cons]
  cases voiceOf? tag <;> rfl

@[simp]
theorem push_keeps : (b.push tag as).keeps = (b.keeps || keepsBlanks tag) := by
  simp only [Builder.push, Builder.keeps, List.any_cons]
  exact Bool.or_comm _ _

/-- Nodes that are added come into the innermost element. -/
theorem foldl_add_push (nodes : List Node) :
    nodes.foldl Builder.add (b.push tag as) =
      { b with stack := ⟨tag, as, nodes.reverse⟩ :: b.stack } := by
  suffices h : ∀ children,
      nodes.foldl Builder.add { b with stack := ⟨tag, as, children⟩ :: b.stack } =
        { b with stack := ⟨tag, as, nodes.reverse ++ children⟩ :: b.stack } by
    rw [Builder.push, h, List.append_nil]
  induction nodes with
  | nil => exact fun children => rfl
  | cons n nodes ih =>
    intro children
    rw [List.foldl_cons, Builder.add, ih]
    simp

/-- Closing the name of the innermost element closes that element alone, with all that came into
it. -/
theorem close_innermost {nodes : List Node}
    (hflush : b'.flush = nodes.foldl Builder.add (b.push tag as)) :
    b'.close tag = b.add (.element tag as nodes) := by
  rw [foldl_add_push] at hflush
  unfold Builder.close
  rw [hflush]
  simp [List.findIdx?_cons, Builder.pops, Builder.pop]

/-- So does its closing tag, unless that is one that has been settled. -/
theorem closing_innermost {nodes : List Node}
    (hflush : b'.flush = nodes.foldl Builder.add (b.push tag as)) (hsettled : tag ∉ b.settled) :
    b'.closing tag = b.add (.element tag as nodes) := by
  have hopen : tag ∉ b'.settled := by
    rw [foldl_add_push] at hflush
    rw [← flush_settled, hflush]
    exact hsettled
  rw [Builder.closing, if_neg (by simpa using hopen), close_innermost hflush]

/-- An element that is opened and at once closed. -/
theorem close_openElement (b : Builder) (tag : String) (written : List Attribute) :
    (b.openElement tag written).close tag =
      b.flush.add (.element tag (attributesOf b.rule tag written) []) := by
  have hflush : (b.openElement tag written).flush =
      List.foldl Builder.add (b.flush.push tag (attributesOf b.rule tag written)) [] := by
    rw [openElement_eq, flush_of_pending (by simp), List.foldl_nil]
  exact close_innermost hflush

end Gleaner.Markup
