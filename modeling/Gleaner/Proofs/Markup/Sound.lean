import Gleaner.Proofs.Markup.Writing

/-! Nodes as pages hold them, and those among them that are written in such a way that reading
yields the same elements again. -/

namespace Gleaner.Markup

variable {tag : String} {as : List Attribute} {children nodes : List Node} {n : Node}

/-- What a raw element may hold: nothing, or text without its closing tag. -/
def IsRawContent (tag : String) (children : List Node) : Prop :=
  children = [] ∨ ∃ v s, children = [.text v s] ∧ Lacks (endsRaw? tag) s.toList

/-- What is true of every node of a page: among others, an element that has no content holds
nothing. -/
inductive Node.Sound : Node → Prop
  | element {tag : String} {attributes : List Attribute} {children : List Node}
      (name : IsTagName tag) (names : ∀ a ∈ attributes, IsAttributeName a.1)
      (distinct : (attributes.map (·.1)).Nodup) (hollow : isVoid tag → children = [])
      (raw : isRawTag tag → IsRawContent tag children) (inner : ∀ n ∈ children, n.Sound) :
      Sound (.element tag attributes children)
  | text (voice : Voice) (s : String) : Sound (.text voice s)
  | comment {s : String} (h : Lacks endsComment? s.toList) : Sound (.comment s)
  | rawSection {s : String} (h : Lacks (spaced? [']', ']', '>']) s.toList) : Sound (.rawSection s)
  | instruction {s : String} (h : '>' ∉ s.toList) : Sound (.instruction s)
  | declaration (s : String) : Sound (.declaration s)
  | doctype {s : String} (h : '>' ∉ s.toList) : Sound (.doctype s)

/-- What a node must not hold if the elements in it are to be read again from its text: a name that
no closing tag can have, a value that is written as another one, and a declaration in which an angle
bracket closes. -/
inductive Node.Portable : Node → Prop
  | element {tag : String} {attributes : List Attribute} {children : List Node}
      (closable : IsClosable tag)
      (written : ∀ a ∈ attributes, writtenValue tag attributes a = a.2.toList)
      (inner : ∀ n ∈ children, n.Portable) : Portable (.element tag attributes children)
  | text (voice : Voice) (s : String) : Portable (.text voice s)
  | comment (s : String) : Portable (.comment s)
  | rawSection (s : String) : Portable (.rawSection s)
  | instruction (s : String) : Portable (.instruction s)
  | declaration {s : String} (h : '>' ∉ s.toList) : Portable (.declaration s)
  | doctype (s : String) : Portable (.doctype s)

mutual

/-- The tokens that the text of a node is read as. Declarations are written as instructions, and a
document type with a line end. -/
def Node.tokens : Node → List Token
  | .element tag attributes children =>
    if isVoid tag then [.single tag (sorted attributes)]
    else .opening tag (sorted attributes) :: tokensAll children ++ [.closing tag]
  | .text _ s => textToken s.toList
  | .comment s => [.comment s]
  | .rawSection s => [.section ("CDATA[" ++ s)]
  | .instruction s => [.instruction s]
  | .declaration s => [.instruction (s ++ "?")]
  | .doctype s => [.doctype s, .text "\n"]

def tokensAll : List Node → List Token
  | [] => []
  | n :: ns => n.tokens ++ tokensAll ns

end

theorem nodeText_element (raw : Bool) (tag : String) (as : List Attribute) (children : List Node) :
    nodeText raw (.element tag as children) =
      if isVoid tag && children.isEmpty then
        '<' :: tag.toList ++ attributesText tag as ++ ['/', '>']
      else '<' :: tag.toList ++ attributesText tag as ++
        '>' :: nodesText (isRawTag tag) children ++ '<' :: '/' :: tag.toList ++ ['>'] := rfl

theorem nodeText_declaration (raw : Bool) (s : String) :
    nodeText raw (.declaration s) = ['<', '?'] ++ s.toList ++ ['?', '>'] := rfl

theorem nodesText_cons (raw : Bool) (n : Node) (nodes : List Node) :
    nodesText raw (n :: nodes) = nodeText raw n ++ nodesText raw nodes := rfl

theorem reads_nodesText (h : ∀ n ∈ nodes, Reads (nodeText false n) n.tokens) :
    Reads (nodesText false nodes) (tokensAll nodes) := by
  induction nodes with
  | nil => exact .nil
  | cons n nodes ih =>
    rw [nodesText_cons, tokensAll]
    exact (h n List.mem_cons_self).append (ih fun m hm => h m (List.mem_cons_of_mem n hm))

/-- What a raw element holds is one text at most. -/
theorem IsRawContent.text (h : IsRawContent tag children) :
    tokensAll children = textToken (nodesText true children) ∧
      Lacks (endsRaw? tag) (nodesText true children) := by
  rcases h with rfl | ⟨v, s, rfl, hlacks⟩
  · exact ⟨rfl, trivial⟩
  · have htext : nodesText true [.text v s] = s.toList := List.append_nil _
    rw [htext]
    exact ⟨List.append_nil _, hlacks⟩

theorem mem_sorted {a : Attribute} : a ∈ sorted as ↔ a ∈ as := by
  rw [sorted, List.mem_mergeSort]

theorem attributesText_eq (h : ∀ a ∈ as, writtenValue tag as a = a.2.toList) :
    attributesText tag as = (sorted as).flatMap writtenAttribute := by
  refine List.flatMap_congr fun a ha => ?_
  rw [attributeText, h a (mem_sorted.mp ha), writtenAttribute]

/-- The text of an element is read as its tokens. -/
theorem reads_element (name : IsTagName tag) (names : ∀ a ∈ as, IsAttributeName a.1)
    (raw : isRawTag tag → IsRawContent tag children) (closable : IsClosable tag)
    (hollow : isVoid tag → children = [])
    (written : ∀ a ∈ as, writtenValue tag as a = a.2.toList)
    (inner : Reads (nodesText false children) (tokensAll children)) :
    Reads (nodeText false (.element tag as children)) (Node.element tag as children).tokens := by
  have hsorted : ∀ a ∈ sorted as, IsAttributeName a.1 := fun a ha => names a (mem_sorted.mp ha)
  rw [nodeText_element, attributesText_eq written, Node.tokens]
  by_cases hvoid : isVoid tag
  · simpa [hvoid, hollow hvoid, writtenTag] using reads_single name hsorted
  · rw [if_neg (by simp [hvoid]), if_neg hvoid]
    cases hraw : isRawTag tag with
    | true =>
      obtain ⟨htokens, hlacks⟩ := (raw hraw).text
      rw [htokens]
      simpa [writtenTag] using reads_rawElement name hraw hsorted hlacks
    | false =>
      have hread := ((reads_opening name hraw hsorted).append inner).append
        (reads_closing name closable)
      simpa [writtenTag] using hread

/-- The text of a portable node is read as its tokens. -/
theorem Node.Sound.reads (h : n.Sound) (hportable : n.Portable) :
    Reads (nodeText false n) n.tokens := by
  induction h with
  | element name names distinct hollow raw inner ih =>
    cases hportable with
    | element closable written portable =>
      exact reads_element name names raw closable hollow written
        (reads_nodesText fun n hn => ih n hn (portable n hn))
  | text voice s => exact reads_escapeAll s.toList
  | comment h => exact reads_comment h
  | rawSection h => exact reads_rawSection h
  | instruction h => exact reads_instruction h
  | declaration s =>
    cases hportable with
    | declaration h =>
      have hmark : '>' ∉ (s ++ "?").toList := by simpa using h
      simpa [nodeText_declaration, Node.tokens] using reads_instruction hmark
  | doctype h => exact reads_doctype h

end Gleaner.Markup
