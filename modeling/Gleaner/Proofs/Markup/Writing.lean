import Gleaner.Proofs.Markup.Reading
import Gleaner.Proofs.Text.Lower
import Gleaner.Proofs.Url.Domain

/-! Each construct that is written is read back: tags with their attributes, and all that has text
of its own. -/

namespace Gleaner.Markup

variable {cs body rest more tail : List Char} {c quote previous : Char} {tag name s : String}
  {as : List Attribute}

/-- The characters are read as one character of a value, in one step. -/
def Spells (cs : List Char) (c : Char) : Prop :=
  0 < cs.length ∧
    ∀ fuel rest, resolveValue (fuel + 1) (cs ++ rest) = c :: resolveValue fuel rest

theorem resolveValue_flatMap {spell : Char → List Char} (h : ∀ c, Spells (spell c) c)
    (cs : List Char) {fuel : Nat} (hfuel : (cs.flatMap spell).length ≤ fuel) :
    resolveValue fuel (cs.flatMap spell) = cs := by
  induction cs generalizing fuel with
  | nil => cases fuel <;> rfl
  | cons c cs ih =>
    obtain ⟨hpos, hread⟩ := h c
    rw [List.flatMap_cons, List.length_append] at hfuel
    obtain ⟨fuel, rfl⟩ : ∃ k, fuel = k + 1 := ⟨fuel - 1, by omega⟩
    rw [List.flatMap_cons, hread, ih (by omega)]

theorem spells_self (hc : c ≠ '&') : Spells [c] c :=
  ⟨by simp, fun fuel rest => by rw [List.singleton_append, resolveValue, if_neg hc]⟩

theorem spells_reference (h : ∀ rest, valueReference (cs ++ rest) = ([c], rest)) :
    Spells ('&' :: cs) c :=
  ⟨by simp, fun fuel rest => by simp [resolveValue, h]⟩

theorem spells_escape (c : Char) : Spells (escape c) c := by
  unfold escape
  split
  next hc =>
    subst hc
    exact spells_reference fun rest => rfl
  next hamp =>
    split
    next hc =>
      subst hc
      exact spells_reference fun rest => rfl
    next =>
      split
      next hc =>
        subst hc
        exact spells_reference fun rest => rfl
      next => exact spells_self hamp

theorem spells_escapeQuote (c : Char) : Spells ((escape c).flatMap escapeQuote) c := by
  by_cases hc : c = '"'
  · subst hc
    exact spells_reference fun rest => rfl
  · have hkeep : (escape c).flatMap escapeQuote = escape c := by
      unfold escape
      split_ifs <;> simp [escapeQuote, hc]
    rw [hkeep]
    exact spells_escape c

theorem valueText_escapeAll (cs : List Char) : valueText (escapeAll cs) = cs :=
  resolveValue_flatMap spells_escape cs le_rfl

theorem valueText_escapeQuote (cs : List Char) :
    valueText ((escapeAll cs).flatMap escapeQuote) = cs := by
  rw [escapeAll, List.flatMap_assoc]
  exact resolveValue_flatMap spells_escapeQuote cs le_rfl

/-- A value in quotes that are not part of it. -/
theorem attributeValue?_quoted (hquote : isQuote quote) (h : quote ∉ body) (more : List Char) :
    attributeValue? ('=' :: quote :: body ++ quote :: more) = some (body, more) := by
  have hsign : quote ≠ '=' := by
    rintro rfl
    exact absurd hquote (by decide)
  have hblank : Text.isBlank quote = false := by
    simp only [isQuote, Bool.or_eq_true, decide_eq_true_eq] at hquote
    rcases hquote with rfl | rfl <;> decide
  have hequals : Text.isBlank '=' = false := by decide
  simp [attributeValue?, skipBlank, hsign, hblank, hequals, hquote, closedBy?,
    Text.cutAt?_append h]

/-- A written value is read back as it was. -/
theorem attributeValue?_quoteValue (cs more : List Char) :
    ∃ value, attributeValue? ('=' :: quoteValue cs ++ more) = some (value, more) ∧
      valueText value = cs := by
  have hdouble : isQuote '"' := by decide
  have hsingle : isQuote '\x27' := by decide
  unfold quoteValue
  extract_lets body
  split
  next =>
    split
    next =>
      refine ⟨_, ?_, valueText_escapeQuote cs⟩
      have hnone : '"' ∉ body.flatMap escapeQuote := by
        rw [List.mem_flatMap]
        rintro ⟨c, -, hc⟩
        unfold escapeQuote at hc
        split at hc
        next => exact absurd hc (by decide)
        next hne => exact hne (List.mem_singleton.mp hc).symm
      simpa using attributeValue?_quoted hdouble hnone more
    next hnone =>
      refine ⟨_, ?_, valueText_escapeAll cs⟩
      simpa using attributeValue?_quoted hsingle (by simpa using hnone) more
  next hnone =>
    refine ⟨_, ?_, valueText_escapeAll cs⟩
    simpa using attributeValue?_quoted hdouble (by simpa using hnone) more

/-- The name of a tag: a letter first, no character that ends it, and no capitals. -/
structure IsTagName (tag : String) : Prop where
  small : smallName tag.toList = tag
  start : ∃ c r, tag.toList = c :: r ∧ c.isAlpha
  inner : ∀ c ∈ tag.toList, endsName c = false

/-- The name of an attribute. Its first character may be the sign that ends others. -/
structure IsAttributeName (name : String) : Prop where
  small : smallName name.toList = name
  parts : ∃ c r, name.toList = c :: r ∧ isNameStart c ∧ ∀ d ∈ r, isNameRest d

/-- An attribute as it is written when its value is written as it is. -/
def writtenAttribute (a : Attribute) : List Char :=
  ' ' :: a.1.toList ++ '=' :: quoteValue a.2.toList

/-- What ends a tag. -/
def IsTagEnd (cs : List Char) : Prop := ∃ r, cs = '>' :: r ∨ cs = '/' :: '>' :: r

theorem skipFiller_tagEnd (h : IsTagEnd tail) : skipFiller tail = tail := by
  obtain ⟨r, rfl | rfl⟩ := h
  · rw [skipFiller, if_neg (by decide), if_neg (by simp)]
  · rw [skipFiller, if_neg (by decide), if_neg (by simp)]

theorem attributes_tagEnd (h : IsTagEnd tail) (fuel : Nat) (previous : Char) :
    attributes fuel previous tail = ([], tail) := by
  obtain ⟨r, rfl | rfl⟩ := h <;> cases fuel <;> simp [attributes, isNameStart]

theorem lastBefore_append (cs rest : List Char) (previous : Char) :
    lastBefore (cs ++ rest) rest previous = cs.getLast?.getD previous := by
  simp [lastBefore]

theorem skipFiller_blank (h : IsAttributeName name) :
    skipFiller (' ' :: name.toList ++ more) = name.toList ++ more := by
  obtain ⟨c, r, hname, hc, -⟩ := h.parts
  simp only [isNameStart, Bool.not_eq_true', Bool.or_eq_false_iff, decide_eq_false_iff_not] at hc
  have hspace : Text.isBlank ' ' := by decide
  simp [skipFiller, hname, hc, hspace]

/-- One attribute, and what may follow it. -/
theorem attributes_cons {a : Attribute} (hname : IsAttributeName a.1)
    (hprevious : mayPrecede previous) (fuel : Nat) (more : List Char) :
    attributes (fuel + 1) previous (a.1.toList ++ '=' :: quoteValue a.2.toList ++ more) =
      let rest := skipFiller more
      let before := lastBefore (a.1.toList ++ '=' :: quoteValue a.2.toList ++ more) rest previous
      (a :: (attributes fuel before rest).1, (attributes fuel before rest).2) := by
  obtain ⟨c, r, hparts, hc, hr⟩ := hname.parts
  obtain ⟨value, hvalue, htext⟩ := attributeValue?_quoteValue a.2.toList more
  have htake : (r ++ '=' :: (quoteValue a.2.toList ++ more)).takeWhile isNameRest = r := by
    rw [takeWhile_append_cons (by decide), List.takeWhile_eq_self_iff.mpr hr]
  have hdrop : (r ++ '=' :: (quoteValue a.2.toList ++ more)).dropWhile isNameRest =
      '=' :: quoteValue a.2.toList ++ more := by
    rw [dropWhile_append_cons (by decide), List.dropWhile_eq_nil_iff.mpr hr, List.nil_append,
      List.cons_append]
  have hsmall : smallName (c :: r) = a.1 := hparts ▸ hname.small
  simp only [hparts, List.cons_append, List.append_assoc]
  rw [attributes]
  simp only [hprevious, hc, Bool.and_self, if_true, htake, hdrop, hvalue, htext, hsmall,
    String.ofList_toList]

/-- What stands before a written attribute is the blank in front of its name. -/
theorem mayPrecede_written (before tail : List Char) (previous : Char)
    (has : ∀ a ∈ as, IsAttributeName a.1) (hne : as ≠ []) :
    mayPrecede (lastBefore (before ++ (as.flatMap writtenAttribute ++ tail))
      (skipFiller (as.flatMap writtenAttribute ++ tail)) previous) := by
  obtain ⟨a, as, rfl⟩ := List.exists_cons_of_ne_nil hne
  have hname := has a List.mem_cons_self
  rw [List.flatMap_cons, writtenAttribute, List.append_assoc, List.append_assoc,
    skipFiller_blank hname]
  simp only [List.cons_append]
  rw [← List.singleton_append, ← List.append_assoc, lastBefore_append, List.getLast?_concat,
    Option.getD_some]
  decide

/-- Attributes that are written one after the other are read back one after the other. -/
theorem attributes_written (has : ∀ a ∈ as, IsAttributeName a.1) (htail : IsTagEnd tail)
    {fuel : Nat} (hfuel : as.length ≤ fuel) (hprevious : as ≠ [] → mayPrecede previous) :
    attributes fuel previous (skipFiller (as.flatMap writtenAttribute ++ tail)) = (as, tail) := by
  induction as generalizing fuel previous with
  | nil =>
    rw [List.flatMap_nil, List.nil_append, skipFiller_tagEnd htail, attributes_tagEnd htail]
  | cons a as ih =>
    obtain ⟨fuel, rfl⟩ : ∃ k, fuel = k + 1 := ⟨fuel - 1, by simp at hfuel; omega⟩
    have hname := has a List.mem_cons_self
    have hall : ∀ b ∈ as, IsAttributeName b.1 := fun b hb => has b (List.mem_cons_of_mem a hb)
    have hlength : as.length ≤ fuel := by simpa using hfuel
    have hnext := mayPrecede_written (a.1.toList ++ '=' :: quoteValue a.2.toList) tail previous hall
    rw [List.flatMap_cons, writtenAttribute, List.append_assoc, List.append_assoc,
      skipFiller_blank hname]
    have hstep := attributes_cons hname (hprevious (List.cons_ne_nil a as)) fuel
      (as.flatMap writtenAttribute ++ tail)
    simp only [ih hall hlength hnext] at hstep
    rw [← hstep]
    simp

/-- The text of a tag without its first angle bracket and its end. -/
def writtenTag (tag : String) (as : List Attribute) : List Char :=
  tag.toList ++ as.flatMap writtenAttribute

theorem tagName?_written (htag : IsTagName tag) (hc : endsName c) (more : List Char) :
    tagName? (tag.toList ++ c :: more) = some (tag.toList, c :: more) := by
  have hinner : ∀ d ∈ tag.toList, (!endsName d) = true := by simpa using htag.inner
  have htake : (tag.toList ++ c :: more).takeWhile (!endsName ·) = tag.toList := by
    rw [takeWhile_append_cons (by simp [hc]), List.takeWhile_eq_self_iff.mpr hinner]
  have hdrop : (tag.toList ++ c :: more).dropWhile (!endsName ·) = c :: more := by
    rw [dropWhile_append_cons (by simp [hc]), List.dropWhile_eq_nil_iff.mpr hinner,
      List.nil_append]
  obtain ⟨d, r, hparts, hd⟩ := htag.start
  rw [hparts, List.cons_append] at htake hdrop ⊢
  simp only [tagName?, hd, if_true, htake, hdrop]

theorem length_le_flatMap (as : List Attribute) :
    as.length ≤ (as.flatMap writtenAttribute).length := by
  induction as with
  | nil => exact le_rfl
  | cons a as ih =>
    rw [List.flatMap_cons, List.length_append, writtenAttribute]
    simp only [List.cons_append, List.length_cons]
    omega

/-- A written tag is read back up to its end. -/
theorem openingTag_written (htag : IsTagName tag) (has : ∀ a ∈ as, IsAttributeName a.1)
    (htail : IsTagEnd tail) :
    openingTag (writtenTag tag as ++ tail) =
      match tail with
      | '>' :: r => some ([.opening tag as], r)
      | '/' :: '>' :: r => some ([.single tag as], r)
      | _ => none := by
  obtain ⟨c, more, hmore, hc⟩ : ∃ c more,
      as.flatMap writtenAttribute ++ tail = c :: more ∧ endsName c := by
    cases as with
    | nil =>
      obtain ⟨r, rfl | rfl⟩ := htail
      · exact ⟨_, _, rfl, by decide⟩
      · exact ⟨_, _, rfl, by decide⟩
    | cons a as => exact ⟨_, _, rfl, by decide⟩
  have hname : tagName? (writtenTag tag as ++ tail) =
      some (tag.toList, as.flatMap writtenAttribute ++ tail) := by
    rw [writtenTag, List.append_assoc, hmore, tagName?_written htag hc]
  have hlength : as.length ≤ (writtenTag tag as ++ tail).length := by
    have hflat := length_le_flatMap as
    simp only [writtenTag, List.length_append]
    omega
  have hnext := mayPrecede_written tag.toList tail '<' has
  rw [← List.append_assoc, ← writtenTag] at hnext
  rw [openingTag, hname]
  simp only [attributes_written has htail hlength hnext, htag.small]
  obtain ⟨r, rfl | rfl⟩ := htail <;> rfl

theorem construct_of_isAlpha (hc : c.isAlpha) (cs : List Char) :
    construct (c :: cs) = .ok (openingTag (c :: cs)) := by
  unfold construct
  split
  next h => exact absurd hc ((List.cons.inj h).1 ▸ by decide)
  next h => exact absurd hc ((List.cons.inj h).1 ▸ by decide)
  next h => exact absurd hc ((List.cons.inj h).1 ▸ by decide)
  next h =>
    obtain ⟨rfl, rfl⟩ := List.cons.inj h
    rw [if_pos hc]
  next h => cases h

theorem construct_writtenTag (htag : IsTagName tag) (as : List Attribute) (tail : List Char) :
    construct (writtenTag tag as ++ tail) = .ok (openingTag (writtenTag tag as ++ tail)) := by
  obtain ⟨c, r, hparts, hc⟩ := htag.start
  rw [writtenTag, hparts]
  exact construct_of_isAlpha hc _

theorem construct_opening (htag : IsTagName tag) (has : ∀ a ∈ as, IsAttributeName a.1)
    (rest : List Char) :
    construct (writtenTag tag as ++ ['>'] ++ rest) = .ok (some ([.opening tag as], rest)) := by
  have hread := openingTag_written htag has ⟨rest, .inl (Eq.refl ('>' :: rest))⟩
  rw [List.append_assoc]
  exact (construct_writtenTag htag as _).trans (congrArg Except.ok hread)

theorem construct_single (htag : IsTagName tag) (has : ∀ a ∈ as, IsAttributeName a.1)
    (rest : List Char) :
    construct (writtenTag tag as ++ ['/', '>'] ++ rest) = .ok (some ([.single tag as], rest)) := by
  have hread := openingTag_written htag has ⟨rest, .inr (Eq.refl ('/' :: '>' :: rest))⟩
  rw [List.append_assoc]
  exact (construct_writtenTag htag as _).trans (congrArg Except.ok hread)

/-- The name does not end in blanks after characters that are read as the name of a closing tag: a
closing tag may have blanks after its name, which are then not part of it. -/
def IsClosable (tag : String) : Prop :=
  skipBlank (tag.toList.dropWhile isEndName) = [] → tag.toList.dropWhile isEndName = []

theorem dropWhile_isEndName_cons (hc : c.isAlpha) (cs : List Char) :
    (c :: cs).dropWhile isEndName = cs.dropWhile isEndName := by
  rw [List.dropWhile_cons, if_pos]
  simp [isEndName, Char.isAlphanum, hc]

theorem isBlank_of_isAlpha (hc : c.isAlpha) : Text.isBlank c = false :=
  Text.IsLetterlike.isBlank_eq_false (.inl hc)

theorem plainClosing?_written (htag : IsTagName tag) (h : tag.toList.dropWhile isEndName = [])
    (rest : List Char) :
    plainClosing? (tag.toList ++ '>' :: rest) = some (tag, rest) := by
  obtain ⟨c, r, hparts, hc⟩ := htag.start
  have hsmall := htag.small
  rw [hparts, dropWhile_isEndName_cons hc] at h
  rw [hparts] at hsmall ⊢
  have htake : (r ++ '>' :: rest).takeWhile isEndName = r := by
    rw [takeWhile_append_cons (by decide)]
    exact List.takeWhile_eq_self_iff.mpr (List.dropWhile_eq_nil_iff.mp h)
  have hdrop : skipBlank ((r ++ '>' :: rest).dropWhile isEndName) = '>' :: rest := by
    rw [dropWhile_append_cons (by decide), h, List.nil_append]
    rfl
  have hskip : skipBlank (c :: (r ++ '>' :: rest)) = c :: (r ++ '>' :: rest) := by
    rw [skipBlank, List.dropWhile_cons, if_neg (by simp [isBlank_of_isAlpha hc])]
  rw [List.cons_append, plainClosing?, hskip]
  simp only [hc, if_true, hdrop, htake, hsmall]

/-- A name that goes on after what a plain closing tag may hold is read by the other rule. -/
theorem plainClosing?_written_none (htag : IsTagName tag)
    (h : skipBlank (tag.toList.dropWhile isEndName) ≠ []) (rest : List Char) :
    plainClosing? (tag.toList ++ '>' :: rest) = none := by
  by_contra hsome
  obtain ⟨⟨name, left⟩, hfound⟩ := Option.ne_none_iff_exists'.mp hsome
  obtain ⟨c, r, hskip, hc, hend, -⟩ := plainClosing?_eq_some hfound
  obtain ⟨d, s, hparts, hd⟩ := htag.start
  have hsame : c = d ∧ r = s ++ '>' :: rest := by
    rw [hparts, List.cons_append, skipBlank, List.dropWhile_cons,
      if_neg (by simp [isBlank_of_isAlpha hd])] at hskip
    simpa [eq_comm] using hskip
  obtain ⟨rfl, rfl⟩ := hsame
  rw [dropWhile_append_cons (by decide), skipBlank_append_cons (by decide)] at hend
  rw [hparts, dropWhile_isEndName_cons hd] at h
  obtain ⟨e, left', he⟩ := List.exists_cons_of_ne_nil h
  rw [he, List.cons_append, List.cons.injEq] at hend
  have hmem : e ∈ tag.toList := by
    rw [hparts]
    refine List.mem_cons_of_mem c ?_
    exact (List.dropWhile_sublist _).mem (mem_of_mem_skipBlank (he ▸ List.mem_cons_self))
  have hinner := htag.inner e hmem
  rw [hend.1] at hinner
  exact absurd hinner (by decide)

theorem closingTag_written (htag : IsTagName tag) (hclosable : IsClosable tag)
    (rest : List Char) :
    closingTag (tag.toList ++ '>' :: rest) = some ([.closing tag], rest) := by
  unfold closingTag
  rw [if_neg (by simp)]
  by_cases hend : skipBlank (tag.toList.dropWhile isEndName) = []
  · rw [plainClosing?_written htag (hclosable hend)]
  · rw [plainClosing?_written_none htag hend]
    have hfiller : skipFiller ('>' :: rest) = '>' :: rest :=
      skipFiller_tagEnd ⟨rest, .inl rfl⟩
    have hname := tagName?_written htag (c := '>') (by decide) rest
    simp only [hname, hfiller, Text.cutAt?, if_true, Option.map_some, htag.small]

theorem reads_opening (htag : IsTagName tag) (hraw : isRawTag tag = false)
    (has : ∀ a ∈ as, IsAttributeName a.1) :
    Reads ('<' :: writtenTag tag as ++ ['>']) [.opening tag as] :=
  reads_construct _ (construct_opening htag has) (by simp [rawAfter, hraw])

theorem reads_single (htag : IsTagName tag) (has : ∀ a ∈ as, IsAttributeName a.1) :
    Reads ('<' :: writtenTag tag as ++ ['/', '>']) [.single tag as] :=
  reads_construct _ (construct_single htag has) rfl

theorem reads_closing (htag : IsTagName tag) (hclosable : IsClosable tag) :
    Reads ('<' :: '/' :: tag.toList ++ ['>']) [.closing tag] := by
  refine reads_construct ('/' :: tag.toList ++ ['>']) (fun rest => ?_) rfl
  rw [List.append_assoc, List.cons_append]
  exact congrArg Except.ok (closingTag_written htag hclosable rest)

theorem reads_rawElement (htag : IsTagName tag) (hraw : isRawTag tag)
    (has : ∀ a ∈ as, IsAttributeName a.1) (hlacks : Lacks (endsRaw? tag) cs) :
    Reads ('<' :: writtenTag tag as ++ ['>'] ++ cs ++ '<' :: '/' :: tag.toList ++ ['>'])
      (.opening tag as :: textToken cs ++ [.closing tag]) := by
  have hend : tag.toList.dropWhile isEndName = [] := by
    simp only [isRawTag, Bool.or_eq_true, decide_eq_true_eq] at hraw
    rcases hraw with rfl | rfl <;> decide
  have hread := reads_raw _ (tag.toList ++ ['>']) (construct_opening htag has)
    (by simp [rawAfter, hraw]) hlacks
    fun rest => by simpa using plainClosing?_written htag hend rest
  simpa using hread

theorem reads_comment (h : Lacks endsComment? s.toList) :
    Reads (['<', '!', '-', '-'] ++ s.toList ++ ['-', '-', '>']) [.comment s] := by
  refine reads_construct (['!', '-', '-'] ++ s.toList ++ ['-', '-', '>']) (fun rest => ?_) rfl
  have hcut : cutWhere? endsComment? (s.toList ++ '-' :: '-' :: '>' :: rest) =
      some (s.toList, rest) := cutWhere?_append h rfl endsComment?_straddle
  simp [construct, declaration, commentToken, hcut]

/-- A marked section of character data is read up to two brackets and an angle bracket. -/
theorem markedSection_cdata (start rest : List Char) (h : Lacks (spaced? [']', ']', '>']) cs) :
    markedSection start ("CDATA[".toList ++ cs ++ ']' :: ']' :: '>' :: rest) =
      .ok (some ([.section (String.ofList ("CDATA[".toList ++ cs))], rest)) := by
  have hlacks : Lacks (spaced? [']', ']', '>']) ("CDATA[".toList ++ cs) :=
    ⟨rfl, rfl, rfl, rfl, rfl, rfl, h⟩
  have hend : spaced? [']', ']', '>'] (']' :: ']' :: '>' :: rest) = some rest := rfl
  have hcut := cutWhere?_append hlacks hend spaced?_section_straddle
  have hname : smallName ['C', 'D', 'A', 'T', 'A'] = "cdata" := by decide
  have htake (r : List Char) : ('D' :: 'A' :: 'T' :: 'A' :: '[' :: r).takeWhile isSectionName =
      ['D', 'A', 'T', 'A'] := rfl
  have hdrop (r : List Char) :
      skipBlank (('D' :: 'A' :: 'T' :: 'A' :: '[' :: r).dropWhile isSectionName) = '[' :: r := rfl
  have hmarks : closedByTwo.contains "cdata" := by decide
  have halpha : 'C'.isAlpha := by decide
  have hstart : "CDATA[".toList = ['C', 'D', 'A', 'T', 'A', '['] := rfl
  rw [hstart] at hcut ⊢
  simp only [List.cons_append, List.nil_append] at hcut ⊢
  rw [markedSection]
  simp only [halpha, Bool.not_true, Bool.false_eq_true, if_false, htake, hdrop, hname, hmarks,
    if_true, hcut, List.isEmpty_cons, Option.map_some]

theorem reads_rawSection (h : Lacks (spaced? [']', ']', '>']) s.toList) :
    Reads ("<![CDATA[".toList ++ s.toList ++ [']', ']', '>']) [.section ("CDATA[" ++ s)] := by
  refine reads_construct ("![CDATA[".toList ++ s.toList ++ [']', ']', '>']) (fun rest => ?_) rfl
  have hread := markedSection_cdata
    ("<![CDATA[".toList ++ s.toList ++ [']', ']', '>'] ++ rest) rest h
  have hname : String.ofList ("CDATA[".toList ++ s.toList) = "CDATA[" ++ s := by
    rw [String.ofList_append, String.ofList_toList, String.ofList_toList]
  rw [hname] at hread
  simpa [construct, declaration] using hread

theorem reads_instruction (h : '>' ∉ s.toList) :
    Reads (['<', '?'] ++ s.toList ++ ['>']) [.instruction s] := by
  refine reads_construct (['?'] ++ s.toList ++ ['>']) (fun rest => ?_) rfl
  simp [construct, instructionToken, Text.cutAt?_append h]

/-- The line end after a document type is read as text. -/
theorem reads_doctype (h : '>' ∉ s.toList) :
    Reads ("<!DOCTYPE ".toList ++ s.toList ++ ['>', '\n']) [.doctype s, .text "\n"] := by
  have hname : Reads ("<!DOCTYPE ".toList ++ s.toList ++ ['>']) [.doctype s] := by
    refine reads_construct ("!DOCTYPE ".toList ++ s.toList ++ ['>']) (fun rest => ?_) rfl
    have hsmall : smallName ['D', 'O', 'C', 'T', 'Y', 'P', 'E'] = "doctype" := by decide
    have hspace : '>' ∉ ' ' :: s.toList := by simpa using h
    have hcut := Text.cutAt?_append (b := rest) hspace
    simp only [List.cons_append] at hcut
    simp [construct, declaration, hsmall, hcut]
  have hline : Reads ['\n'] [.text "\n"] := reads_char (by decide)
  simpa using hname.append hline

end Gleaner.Markup
