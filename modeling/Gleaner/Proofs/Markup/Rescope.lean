import Gleaner.Document
import Gleaner.Field.Extraction
import Gleaner.Proofs.Markup.Elements

/-! An element taken out of its page as a page of its own. It is written and read again, so what is
written in another way than it was read, and what depended on the elements around it, may change;
all else is as it was. -/

namespace Gleaner.Document

open Markup

variable {markup parser selector : String} {location : Option String} {rule : WordRule}
  {page : Document} {found : List Place} {p : Place}

theorem facts_of_ofMarkup (h : ofMarkup markup location parser rule = .ok page) :
    page.parser = defaultParser ∧ ∀ n ∈ page.nodes, n.Sound := by
  unfold ofMarkup at h
  split at h
  next => cases h
  next hparser =>
    split at h
    next => cases h
    next nodes hnodes =>
      cases h
      exact ⟨not_not.mp hparser, sound_of_parse hnodes⟩

/-- A query finds some of the elements of a page, in their order. -/
theorem query_eq_ok (h : page.query selector = .ok found) :
    ∃ s, found = (Place.whole page.nodes).descendants.filter (Selector.anyHolds s ·) := by
  unfold query at h
  cases hs : Selector.parse selector with
  | error e =>
    rw [hs] at h
    cases h
  | ok s =>
    rw [hs] at h
    exact ⟨s, (Except.ok.inj h).symm⟩

/-- An element that a query finds is sound. -/
theorem sound_of_query (hpage : ofMarkup markup location parser rule = .ok page)
    (hfound : page.query selector = .ok found) (hp : p ∈ found) : p.nodeOf.Sound := by
  obtain ⟨s, rfl⟩ := query_eq_ok hfound
  obtain ⟨n, hn, _, _, hreach⟩ := exists_of_mem_reachAll (List.mem_filter.mp hp).1
  exact ((facts_of_ofMarkup hpage).2 n hn).reach hreach

/-- A sound element that is portable has a page of its own, with the element read again. -/
theorem rescope_eq (hpage : ofMarkup markup location parser rule = .ok page)
    (hsound : p.nodeOf.Sound) (portable : p.nodeOf.Portable) (inner : Option String) :
    page.rescope p inner = .ok ⟨[p.nodeOf.reread .plain false], inner, defaultParser⟩ := by
  have hparse : parse p.render .asWritten = .ok [p.nodeOf.reread .plain false] :=
    parse_render hsound portable
  rw [rescope, (facts_of_ofMarkup hpage).1, ofMarkup, if_neg (by simp), hparse]

/-- A query that finds the outermost element of a page finds it first. -/
theorem head_of_query {root : Place} {inside : List Place}
    (hroot : (Place.whole page.nodes).descendants = root :: inside)
    (h : page.query selector = .ok found) (hmem : root ∈ found) :
    ∃ others, found = root :: others := by
  obtain ⟨s, rfl⟩ := query_eq_ok h
  have hholds : Selector.anyHolds s root := (List.mem_filter.mp hmem).2
  exact ⟨inside.filter (Selector.anyHolds s ·), by rw [hroot, List.filter_cons, if_pos hholds]⟩

/-- Elements with one name and the same values of their attributes. -/
structure Mirrors (p q : Place) : Prop where
  tag : q.tag = p.tag
  attributes : ∀ name, q.attribute? name = p.attribute? name

/-- The value that a list of attributes yields, if one of them has a value that is not blank. -/
def Legible (p : Place) (attributes : List String) : Prop :=
  ∃ a ∈ attributes, Text.trim ((p.attribute? a).getD "") ≠ ""

/-- What is read from attributes is read from the copy of an element as well. -/
theorem Mirrors.extract_eq {q : Place} {others : List Place} {attributes : List String}
    (h : Mirrors p q) (hread : Legible p attributes ∨ q.text = p.text) :
    Field.extract (q :: others) attributes = Field.extract [p] attributes := by
  simp only [Field.extract, Field.valueOf, h.attributes]
  rcases hread with ⟨a, ha, hvalue⟩ | htext
  · have hfound : ((attributes.map fun a => Text.trim ((p.attribute? a).getD "")).find?
        (· ≠ "")).isSome := by
      rw [List.find?_isSome]
      exact ⟨_, List.mem_map_of_mem ha, by simpa using hvalue⟩
    obtain ⟨value, hvalue⟩ := Option.isSome_iff_exists.mp hfound
    rw [hvalue, Option.getD_some, Option.getD_some]
  · rw [htext]

/-- An element that can be written and read again is the only content of its own page: the elements
there are it and the elements in it, in their order, with their names and attributes. A query that
finds it there yields the value of an attribute that it had in its page. Where its text does not
depend on what is around it, the elements show the same texts as well, and a query yields any value
that it had in its page. -/
theorem rescope_faithful (hpage : ofMarkup markup location parser rule = .ok page)
    (hfound : page.query selector = .ok found) (hp : p ∈ found) (portable : p.nodeOf.Portable)
    (inner : Option String) :
    ∃ item root, page.rescope p inner = .ok item ∧ item.nodes = [root.nodeOf] ∧
      (Place.whole item.nodes).descendants = root :: root.descendants ∧
      List.Forall₂ Mirrors (p :: p.descendants) (root :: root.descendants) ∧
      (p.nodeOf.Stays .plain false →
        List.Forall₂ (fun x y : Place => y.text = x.text) (p :: p.descendants)
          (root :: root.descendants)) ∧
      ∀ query matched attributes, item.query query = .ok matched → root ∈ matched →
        Legible p attributes ∨ p.nodeOf.Stays .plain false →
        Field.extract matched attributes = Field.extract [p] attributes := by
  have hsound := sound_of_query hpage hfound hp
  let copy := p.nodeOf.reread .plain false
  let root : Place := .mk ⟨p.tag, sorted p.element.attributes, rereadAll (hears p.tag)
    (keepsBlanks p.tag) none p.element.children⟩ [] [] (some (.whole [copy]))
  have hcopy : root.nodeOf = copy := rfl
  have hrescope := rescope_eq hpage hsound portable inner
  have hdescendants : (Place.whole [copy]).descendants = root :: root.descendants :=
    List.append_nil _
  have helements : (root :: root.descendants).map (·.element) = copy.elements :=
    map_element_descendants root
  have hmirrors : List.Forall₂ Mirrors (p :: p.descendants) (root :: root.descendants) := by
    have hsame := hsound.same .plain false
    rw [← map_element_descendants, ← helements, List.forall₂_map_left_iff,
      List.forall₂_map_right_iff] at hsame
    exact hsame.imp fun _ _ h => ⟨h.1, h.2⟩
  have hshows (hstays : p.nodeOf.Stays .plain false) :
      List.Forall₂ (fun x y : Place => y.text = x.text) (p :: p.descendants)
        (root :: root.descendants) := by
    have hshows := hsound.shows hstays
    rwa [← map_element_descendants, ← helements, List.forall₂_map_left_iff,
      List.forall₂_map_right_iff] at hshows
  refine ⟨_, root, hrescope, rfl, hdescendants, hmirrors, hshows,
    fun query matched attributes hmatched hmem hread => ?_⟩
  obtain ⟨others, rfl⟩ := head_of_query hdescendants hmatched hmem
  have hroot : Mirrors p root := (List.forall₂_cons.mp hmirrors).1
  exact hroot.extract_eq (hread.imp id fun hstays => (List.forall₂_cons.mp (hshows hstays)).1)

/-- A list item with an attribute, and with a line break and an element in it. -/
theorem rescope_faithful_item : ∃ page p,
    ofMarkup "<ul><li id=a>x <br><b>y</b></li></ul>" none defaultParser .asWritten = .ok page ∧
    page.query "li" = .ok [p] ∧ p.nodeOf.Portable ∧ p.nodeOf.Stays .plain false ∧
    ∃ item root, page.rescope p none = .ok item ∧ item.nodes = [root.nodeOf] ∧
      List.Forall₂ Mirrors (p :: p.descendants) (root :: root.descendants) ∧
      List.Forall₂ (fun x y : Place => y.text = x.text) (p :: p.descendants)
        (root :: root.descendants) ∧
      item.query "li" = .ok [root] ∧ Field.extract [root] ["id"] = "a" := by
  let inner : Node := .element "b" [] [.text .plain "y"]
  let item : Node := .element "li" [("id", "a")] [.text .plain "x ", .element "br" [] [], inner]
  let p : Place := .mk ⟨"li", [("id", "a")], [.text .plain "x ", .element "br" [] [], inner]⟩ [] []
    (some (.mk ⟨"ul", [], [item]⟩ [] [] (some (.whole [.element "ul" [] [item]]))))
  have hpage : ofMarkup "<ul><li id=a>x <br><b>y</b></li></ul>" none defaultParser .asWritten =
      .ok ⟨[.element "ul" [] [item]], none, defaultParser⟩ := by cbv
  have hfound : query ⟨[.element "ul" [] [item]], none, defaultParser⟩ "li" = .ok [p] := by cbv
  have hinner : inner.Portable :=
    .element (fun _ => rfl) (by simp) (by simpa using .text .plain "y")
  have hitem : item.Portable :=
    .element (fun _ => rfl) (by simp [writtenValue]) (by
      simpa using ⟨.text .plain "x ", .element (fun _ => rfl) (by simp) (by simp), hinner⟩)
  have hstays : item.Stays .plain false := by
    simp [item, inner, Node.Stays, StayAll, Node.trailing, join, settled, settleText, keepsBlanks,
      voiceOf?, Builder.isAsciiBlank]
  have hread : Legible p ["id"] := ⟨"id", by simp, by decide +kernel⟩
  obtain ⟨own, root, hown, hnodes, hplaces, hmirrors, htexts, hextract⟩ :=
    rescope_faithful hpage hfound List.mem_cons_self hitem none
  have hquery : own.query "li" = .ok [root] := by
    have hcopy : p.nodeOf.reread .plain false = item := by
      simp [p, item, inner, Place.nodeOf, Place.element, Node.reread, sorted, rereadAll, join,
        waiting, settleText, keepsBlanks, voiceOf?, Builder.isAsciiBlank, Node.trailing]
    have hrescope := rescope_eq hpage (sound_of_query hpage hfound List.mem_cons_self) hitem none
    rw [hown, hcopy] at hrescope
    cases hrescope
    let copy : Place := .mk ⟨"li", [("id", "a")], [.text .plain "x ", .element "br" [] [], inner]⟩
      [] [] (some (.whole [item]))
    have hroot : copy = root := (List.cons.inj hplaces).1
    rw [← hroot]
    cbv
  refine ⟨_, p, hpage, hfound, hitem, hstays, own, root, hown, hnodes, hmirrors, htexts hstays,
    hquery, ?_⟩
  rw [hextract "li" [root] ["id"] hquery List.mem_cons_self (.inl hread)]
  decide +kernel

/-- Blanks that counted in an element around it do not count in an element on its own. -/
theorem rescope_settles_blanks : ∃ page p item,
    ofMarkup "<pre><b>  </b></pre>" none defaultParser .asWritten = .ok page ∧
    page.query "b" = .ok [p] ∧ page.rescope p none = .ok item ∧
    ¬List.Forall₂ (fun x y : Place => y.text = x.text) (p :: p.descendants)
      (Place.whole item.nodes).descendants := by
  let b : Node := .element "b" [] [.text .plain "  "]
  let p : Place := .mk ⟨"b", [], [.text .plain "  "]⟩ [] []
    (some (.mk ⟨"pre", [], [b]⟩ [] [] (some (.whole [.element "pre" [] [b]]))))
  have hpage : ofMarkup "<pre><b>  </b></pre>" none defaultParser .asWritten =
      .ok ⟨[.element "pre" [] [b]], none, defaultParser⟩ := by cbv
  have hfound : query ⟨[.element "pre" [] [b]], none, defaultParser⟩ "b" = .ok [p] := by cbv
  have hb : b.Portable :=
    .element (fun _ => rfl) (by simp) (by simpa using .text .plain "  ")
  have hrescope := rescope_eq hpage (sound_of_query hpage hfound List.mem_cons_self) hb none
  have hcopy : p.nodeOf.reread .plain false = .element "b" [] [.text .plain " "] := by
    simp [p, Place.nodeOf, Place.element, Node.reread, sorted, rereadAll, join, waiting, settleText,
      keepsBlanks, voiceOf?, Builder.isAsciiBlank]
  rw [hcopy] at hrescope
  refine ⟨_, p, _, hpage, hfound, hrescope, fun htexts => ?_⟩
  have htext : String.ofList [' '] = String.ofList [' ', ' '] := (List.forall₂_cons.mp htexts).1
  exact absurd htext (by decide)

end Gleaner.Document
