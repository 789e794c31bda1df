import Gleaner.Markup.Place
import Gleaner.Proofs.Markup.Rebuild

/-! A node and the same node read again have the same elements in the same order, and the same text
where nothing in the node depends on what is around it. -/

namespace Gleaner.Markup

variable {n : Node} {nodes : List Node} {v w : Voice} {keep : Bool} {pending : Option String}
  {other : String} {as : List Attribute} {around : Option Place} {before after : List Node} {p : Place}

mutual

/-- The elements of a node, outermost first. -/
def Node.elements : Node → List Element
  | .element tag attributes children => ⟨tag, attributes, children⟩ :: elementsOf children
  | _ => []

def elementsOf : List Node → List Element
  | [] => []
  | n :: ns => n.elements ++ elementsOf ns

end

mutual

/-- Places are reached in the order of the elements. -/
theorem map_element_reach (around : Option Place) (before after : List Node) (n : Node) :
    (Place.reach around before after n).map (·.element) = n.elements := by
  cases n with
  | element tag as children =>
    rw [Place.reach, List.map_cons, map_element_reachAll, Node.elements]
    rfl
  | _ => rfl

theorem map_element_reachAll (around : Option Place) (before nodes : List Node) :
    (Place.reachAll around before nodes).map (·.element) = elementsOf nodes := by
  cases nodes with
  | nil => rfl
  | cons n ns =>
    rw [Place.reachAll, List.map_append, map_element_reach, map_element_reachAll, elementsOf]

end

theorem map_element_descendants (p : Place) :
    (p :: p.descendants).map (·.element) = p.nodeOf.elements := by
  rw [List.map_cons, Place.descendants, map_element_reachAll, Place.nodeOf, Node.elements]

theorem exists_of_mem_reachAll (h : p ∈ Place.reachAll around before nodes) :
    ∃ n ∈ nodes, ∃ before after, p ∈ Place.reach around before after n := by
  induction nodes generalizing before with
  | nil => cases h
  | cons n nodes ih =>
    rw [Place.reachAll] at h
    rcases List.mem_append.mp h with hn | hrest
    · exact ⟨n, List.mem_cons_self, _, _, hn⟩
    · obtain ⟨m, hm, hreach⟩ := ih hrest
      exact ⟨m, List.mem_cons_of_mem n hm, hreach⟩

/-- What is reached from a sound node is sound. -/
theorem Node.Sound.reach (h : n.Sound) (hp : p ∈ Place.reach around before after n) :
    p.nodeOf.Sound := by
  induction h generalizing around before after with
  | element name names distinct hollow raw inner ih =>
    rw [Place.reach] at hp
    rcases List.mem_cons.mp hp with rfl | hp
    · exact .element name names distinct hollow raw inner
    · obtain ⟨m, hm, _, _, hreach⟩ := exists_of_mem_reachAll hp
      exact ih m hm hreach
  | _ => cases hp

theorem attribute?_eq_some_iff {name value : String} (h : (as.map (·.1)).Nodup) :
    attribute? as name = some value ↔ (name, value) ∈ as := by
  induction as with
  | nil => simp [attribute?]
  | cons a as ih =>
    rw [List.map_cons, List.nodup_cons] at h
    have hrest := ih h.2
    rw [attribute?] at hrest ⊢
    rw [List.find?_cons, List.mem_cons]
    by_cases ha : a.1 = name
    · have hnew : (name, value) ∉ as := fun hmem =>
        h.1 (ha ▸ List.mem_map_of_mem (f := (·.1)) hmem)
      simp [ha, hnew, Prod.ext_iff, eq_comm]
    · have hne : (name, value) ≠ a := fun heq => ha (heq ▸ rfl)
      simpa [ha, hne] using hrest

/-- The order of attributes does not change what they are. -/
theorem attribute?_sorted (h : (as.map (·.1)).Nodup) (name : String) :
    attribute? (sorted as) name = attribute? as name := by
  ext value
  rw [attribute?_eq_some_iff (nodup_sorted h), attribute?_eq_some_iff h, mem_sorted]

/-- Elements with one name and the same values of their attributes. -/
def Element.Same (x y : Element) : Prop :=
  y.tag = x.tag ∧ ∀ name, attribute? y.attributes name = attribute? x.attributes name

theorem elementsOf_append (ms ns : List Node) :
    elementsOf (ms ++ ns) = elementsOf ms ++ elementsOf ns := by
  induction ms with
  | nil => rfl
  | cons m ms ih => rw [List.cons_append, elementsOf, elementsOf, ih, List.append_assoc]

theorem elementsOf_waiting : elementsOf (waiting v keep pending) = [] := by
  cases pending <;> rfl

/-- Nodes read again have the same elements if each of them has. -/
theorem forall₂_elementsOf_rereadAll {R : Element → Element → Prop}
    (h : ∀ n ∈ nodes, List.Forall₂ R n.elements (n.reread v keep).elements) :
    List.Forall₂ R (elementsOf nodes) (elementsOf (rereadAll v keep pending nodes)) := by
  induction nodes generalizing pending with
  | nil =>
    rw [rereadAll, elementsOf_waiting]
    exact .nil
  | cons n nodes ih =>
    have hnodes : ∀ m ∈ nodes, List.Forall₂ R m.elements (m.reread v keep).elements :=
      fun m hm => h m (List.mem_cons_of_mem n hm)
    cases n with
    | text w s =>
      rw [rereadAll]
      exact ih hnodes
    | _ =>
      rw [rereadAll, elementsOf_append, elementsOf_waiting, elementsOf, elementsOf]
      · exact List.rel_append (h _ List.mem_cons_self) (ih hnodes)
      · simp

/-- An element read again has the same elements, with the same attributes. -/
theorem Node.Sound.same (h : n.Sound) (v : Voice) (keep : Bool) :
    List.Forall₂ Element.Same n.elements (n.reread v keep).elements := by
  induction h generalizing v keep with
  | element name names distinct hollow raw inner ih =>
    rw [Node.reread, Node.elements, Node.elements]
    exact .cons ⟨rfl, attribute?_sorted distinct⟩
      (forall₂_elementsOf_rereadAll fun n hn => ih n hn _ _)
  | _ => exact .nil

/-- What becomes of the text that waits. -/
def settled (keep : Bool) (pending : Option String) : String :=
  (pending.map (settleText keep)).getD ""

mutual

/-- Reading a node again leaves its text as it is: text has the voice that the elements from the
node on give it, and its pieces in a row are kept as they are when they are one piece, with a line
end in front where a document type stands before them. -/
def Node.Stays (v : Voice) (keep : Bool) : Node → Prop
  | .element tag _ children =>
    StayAll ((voiceOf? tag).getD v) (keep || keepsBlanks tag) none "" children
  | .text w s => w = v ∧ settleText keep s = s
  | .rawSection s => settleText keep s = s
  | _ => True

/-- The same of nodes in a row, where text waits that takes the place of other text. -/
def StayAll (v : Voice) (keep : Bool) : Option String → String → List Node → Prop
  | pending, other, [] => settled keep pending = other
  | pending, other, .text w s :: ns => w = v ∧ StayAll v keep (join pending s) (other ++ s) ns
  | pending, other, n :: ns =>
    settled keep pending = other ∧ n.Stays v keep ∧ StayAll v keep n.trailing "" ns

end

theorem nodesVoice_append (ms ns : List Node) :
    nodesVoice w (ms ++ ns) = nodesVoice w ms ++ nodesVoice w ns := by
  induction ms with
  | nil => rfl
  | cons m ms ih => rw [List.cons_append, nodesVoice, nodesVoice, ih, List.append_assoc]

theorem nodesVoice_waiting (pending : Option String) :
    nodesVoice w (waiting v keep pending) =
      if v = w then (settled keep pending).toList else [] := by
  cases pending <;> simp [waiting, settled, nodesVoice, nodeVoice]

/-- Nodes that stay have the same text of every voice when they are read again, if each has. -/
theorem nodesVoice_rereadAll (h : ∀ n ∈ nodes, n.Stays v keep →
      nodeVoice w (n.reread v keep) = nodeVoice w n)
    (hstay : StayAll v keep pending other nodes) :
    nodesVoice w (rereadAll v keep pending nodes) =
      (if v = w then other.toList else []) ++ nodesVoice w nodes := by
  induction nodes generalizing pending other with
  | nil =>
    have hother : settled keep pending = other := hstay
    rw [rereadAll, nodesVoice_waiting, hother, nodesVoice, List.append_nil]
  | cons n nodes ih =>
    have hnodes : ∀ m ∈ nodes, m.Stays v keep → nodeVoice w (m.reread v keep) = nodeVoice w m :=
      fun m hm => h m (List.mem_cons_of_mem n hm)
    cases n with
    | text u s =>
      obtain ⟨rfl, hstay⟩ := hstay
      rw [rereadAll, ih hnodes hstay, nodesVoice, nodeVoice]
      split <;> simp
    | _ =>
      obtain ⟨hother, hn, hrest⟩ := hstay
      rw [rereadAll, nodesVoice_append, nodesVoice_waiting, hother, nodesVoice, nodesVoice,
        h _ List.mem_cons_self hn, ih hnodes hrest]
      · simp
      · simp

/-- A node that stays has the same text of every voice when it is read again. -/
theorem Node.Sound.nodeVoice_reread (h : n.Sound) (hstays : n.Stays v keep) :
    nodeVoice w (n.reread v keep) = nodeVoice w n := by
  induction h generalizing v keep with
  | element name names distinct hollow raw inner ih =>
    have hinner := nodesVoice_rereadAll (w := w) (fun n hn hstays => ih n hn hstays) hstays
    simpa [Node.reread, nodeVoice] using hinner
  | text u s =>
    obtain ⟨rfl, hs⟩ := hstays
    rw [Node.reread, hs]
  | @rawSection s hs =>
    have hsettled : settleText keep s = s := hstays
    rw [Node.reread, hsettled]
  | _ => rfl

/-- Elements that show the same text. -/
def Element.Shows (x y : Element) : Prop := shownText y.tag y.children = shownText x.tag x.children

theorem StayAll.of_mem (h : StayAll v keep pending other nodes) (hn : n ∈ nodes) :
    (∃ u s, n = .text u s) ∨ n.Stays v keep := by
  induction nodes generalizing pending other with
  | nil => cases hn
  | cons m nodes ih =>
    cases m with
    | text u s =>
      rcases List.mem_cons.mp hn with rfl | hn
      · exact .inl ⟨u, s, rfl⟩
      · exact ih h.2 hn
    | _ =>
      rcases List.mem_cons.mp hn with rfl | hn
      · exact .inr h.2.1
      · exact ih h.2.2 hn

/-- The elements of a node that stays show the same texts when it is read again. -/
theorem Node.Sound.shows (h : n.Sound) (hstays : n.Stays v keep) :
    List.Forall₂ Element.Shows n.elements (n.reread v keep).elements := by
  induction h generalizing v keep with
  | @element tag as children name names distinct hollow raw inner ih =>
    rw [Node.reread, Node.elements, Node.elements]
    refine .cons ?_ (forall₂_elementsOf_rereadAll fun n hn => ?_)
    · have hinner := nodesVoice_rereadAll (w := hears tag)
        (fun n hn hstays => (inner n hn).nodeVoice_reread hstays) hstays
      exact congrArg String.ofList (by simpa using hinner)
    · rcases StayAll.of_mem hstays hn with ⟨u, s, rfl⟩ | hn'
      · exact .nil
      · exact ih n hn hn'
  | _ => exact .nil

end Gleaner.Markup
