import Gleaner.Proofs.Config.Sitemaps

/-! What comes in the place of the sitemaps of a list of items: one item for each entry whose text
is not empty. The text is trimmed afterwards, so an entry of white space gives an item without an
address. -/

namespace Gleaner

namespace Text

/-- Nothing but white space. -/
def Blank (s : String) : Prop := s.toList.all isBlank = true

instance : DecidablePred Blank := fun _ => decEq _ _

theorem blank_empty : Blank "" := rfl

theorem trimOf_eq_nil {p : Char → Bool} {cs : List Char} :
    trimOf p cs = [] ↔ ∀ c ∈ cs, p c = true := by
  rw [trimOf, List.reverse_eq_nil_iff, List.dropWhile_eq_nil_iff]
  simp only [List.mem_reverse]
  constructor
  · intro h
    by_contra hnot
    push Not at hnot
    -- The first character that is not dropped would be dropped from the other end.
    cases hrest : cs.dropWhile p with
    | nil =>
      obtain ⟨c, hc, hpc⟩ := hnot
      exact hpc (List.dropWhile_eq_nil_iff.mp hrest c hc)
    | cons c rest =>
      have hfirst := List.head_dropWhile_not p (by simp [hrest] : cs.dropWhile p ≠ [])
      simp only [hrest, List.head_cons] at hfirst
      have hdropped := h c (by simp [hrest])
      simp [hfirst] at hdropped
  · exact fun h c hc => h c ((List.dropWhile_sublist p).subset hc)

theorem trim_eq_empty {s : String} : trim s = "" ↔ Blank s := by
  rw [trim, Blank, List.all_eq_true, ← trimOf_eq_nil, ← String.toList_inj, String.toList_ofList]
  rfl

end Text

namespace Xml.Node

/-- What an element holds. -/
def content : Node → List Node
  | .text _ => []
  | .element _ _ inner => inner

/-- What stands at a place: the place tells, level by level, which part of the content to go to. -/
def at? (n : Node) : List Nat → Option Node
  | [] => some n
  | k :: place => n.content[k]?.bind fun part => part.at? place

end Xml.Node

namespace Sitemap

open Xml (Node)

/-- Texts with their places, in the order of the document: what holds something comes before what it
holds, and that comes before what follows it. -/
structure InOrder (E : List Nat → String → Prop) (found : List (List Nat × String)) : Prop where
  ordered : found.Pairwise fun x y => x.1 < y.1
  exact : ∀ place text, (place, text) ∈ found ↔ E place text

namespace InOrder

variable {E F : List Nat → String → Prop} {found more : List (List Nat × String)}

theorem congr (h : InOrder E found) (hEF : ∀ place text, E place text ↔ F place text) :
    InOrder F found :=
  ⟨h.ordered, fun place text => (h.exact place text).trans (hEF place text)⟩

theorem nil (hnone : ∀ place text, ¬ E place text) : InOrder E [] :=
  ⟨.nil, fun place text => iff_of_false List.not_mem_nil (hnone place text)⟩

/-- What is found is found in one way only. -/
theorem unique (h : InOrder E found) (h' : InOrder E more) : found = more := by
  have hirrefl : Std.Irrefl fun x y : List Nat × String => x.1 < y.1 :=
    ⟨fun x => List.lt_irrefl x.1⟩
  have hantisymm : Std.Antisymm fun x y : List Nat × String => x.1 < y.1 :=
    ⟨fun x y hxy hyx => absurd (List.lt_trans hxy hyx) (List.lt_irrefl x.1)⟩
  exact h.ordered.eq_of_mem_iff h'.ordered fun x => (h.exact x.1 x.2).trans (h'.exact x.1 x.2).symm

theorem filter (h : InOrder E found) (P : String → Prop) [DecidablePred P] :
    InOrder (fun place text => E place text ∧ P text) (found.filter fun x => P x.2) := by
  refine ⟨h.ordered.filter _, fun place text => ?_⟩
  rw [List.mem_filter, h.exact, decide_eq_true_iff]

theorem cons {text : String} (h : InOrder E found)
    (hbelow : ∀ place text, E place text → place ≠ []) :
    InOrder (fun place t => (place = [] ∧ t = text) ∨ E place t) (([], text) :: found) := by
  refine ⟨List.pairwise_cons.mpr ⟨fun x hx => ?_, h.ordered⟩, fun place t => ?_⟩
  · have hne := hbelow x.1 x.2 ((h.exact _ _).mp hx)
    cases hplace : x.1 with
    | nil => exact absurd hplace hne
    | cons k rest => exact List.nil_lt_cons k rest
  · rw [List.mem_cons, Prod.mk.injEq, h.exact]

/-- What is found in one part of a content, and what is found in later parts. -/
theorem append {k : Nat} (h : InOrder E found) (h' : InOrder F more)
    (hlater : ∀ place text, F place text → ∃ j rest, k < j ∧ place = j :: rest) :
    InOrder (fun place text => (∃ rest, place = k :: rest ∧ E rest text) ∨ F place text)
      (found.map (fun x => (k :: x.1, x.2)) ++ more) := by
  refine ⟨List.pairwise_append.mpr ⟨?_, h'.ordered, ?_⟩, fun place text => ?_⟩
  · refine List.pairwise_map.mpr (h.ordered.imp fun hlt => ?_)
    exact List.cons_lt_cons_iff.mpr (.inr ⟨rfl, hlt⟩)
  · intro x hx y hy
    obtain ⟨z, -, rfl⟩ := List.mem_map.mp hx
    obtain ⟨j, rest, hlt, hplace⟩ := hlater y.1 y.2 ((h'.exact _ _).mp hy)
    rw [hplace]
    exact List.cons_lt_cons_iff.mpr (.inl hlt)
  · rw [List.mem_append, h'.exact, List.mem_map]
    refine or_congr_left ⟨?_, ?_⟩
    · rintro ⟨x, hx, heq⟩
      cases heq
      exact ⟨x.1, rfl, (h.exact _ _).mp hx⟩
    · rintro ⟨rest, rfl, hrest⟩
      exact ⟨(rest, text), (h.exact _ _).mpr hrest, rfl⟩

end InOrder

/-- An entry with this text stands at a place of a document. -/
def EntryAt (document : Node) (place : List Nat) (text : String) : Prop :=
  ∃ inner, document.at? place = some (.element space entryName inner) ∧
    Node.leadingText inner = text

/-- The same in a content whose first part has this number. -/
def EntryIn (k : Nat) (content : List Node) (place : List Nat) (text : String) : Prop :=
  ∃ j rest part, place = (k + j) :: rest ∧ content[j]? = some part ∧ EntryAt part rest text

variable {document n : Node} {content : List Node} {place : List Nat} {text : String} {k : Nat}

theorem entryIn_nil : ¬ EntryIn k [] place text := by
  rintro ⟨j, rest, part, -, hpart, -⟩
  simp at hpart

theorem entryIn_cons : EntryIn k (n :: content) place text ↔
    (∃ rest, place = k :: rest ∧ EntryAt n rest text) ∨ EntryIn (k + 1) content place text := by
  constructor
  · rintro ⟨j, rest, part, rfl, hpart, hentry⟩
    cases j with
    | zero =>
      cases hpart
      exact .inl ⟨rest, rfl, hentry⟩
    | succ j => exact .inr ⟨j, rest, part, by rw [Nat.succ_add_eq_add_succ], hpart, hentry⟩
  · rintro (⟨rest, rfl, hentry⟩ | ⟨j, rest, part, rfl, hpart, hentry⟩)
    · exact ⟨0, rest, n, rfl, rfl, hentry⟩
    · exact ⟨j + 1, rest, part, by rw [Nat.succ_add_eq_add_succ], hpart, hentry⟩

theorem entryIn_later (h : EntryIn (k + 1) content place text) :
    ∃ j rest, k < j ∧ place = j :: rest := by
  obtain ⟨j, rest, part, rfl, -, -⟩ := h
  exact ⟨k + 1 + j, rest, by omega, rfl⟩

theorem entryAt_below : place ≠ [] ∧ EntryAt document place text ↔
    EntryIn 0 document.content place text := by
  cases place with
  | nil => simp [EntryIn]
  | cons j rest =>
    simp only [EntryAt, EntryIn, Node.at?, Option.bind_eq_some_iff]
    constructor
    · rintro ⟨-, inner, ⟨part, hpart, hat⟩, htext⟩
      exact ⟨j, rest, part, by rw [Nat.zero_add], hpart, inner, hat, htext⟩
    · rintro ⟨i, below, part, hplace, hpart, inner, hat, htext⟩
      rw [Nat.zero_add] at hplace
      cases hplace
      exact ⟨List.cons_ne_nil j rest, inner, ⟨part, hpart, hat⟩, htext⟩

theorem not_entryAt_text {s : String} : ¬ EntryAt (.text s) place text := by
  rintro ⟨inner, hat, -⟩
  cases place <;> cases hat

theorem entryAt_element {s name : String} : EntryAt (.element s name content) place text ↔
    (place = [] ∧ (s = space ∧ name = entryName) ∧ text = Node.leadingText content) ∨
      EntryIn 0 content place text := by
  have hbelow : place ≠ [] ∧ EntryAt (.element s name content) place text ↔
      EntryIn 0 content place text := entryAt_below
  rw [← hbelow]
  cases place with
  | nil => simp [EntryAt, Node.at?, eq_comm, and_assoc]
  | cons j rest => simp

mutual

/-- The texts of the entries are found in the order of the document. -/
theorem inOrder_textsOf : (n : Node) →
    ∃ found, InOrder (EntryAt n) found ∧ found.map (·.2) = textsOf n
  | .text s => ⟨[], .nil fun _ _ => not_entryAt_text, rfl⟩
  | .element s name content => by
    obtain ⟨found, hfound, htexts⟩ := inOrder_textsIn content 0
    rw [textsOf]
    by_cases hentry : s = space ∧ name = entryName
    · refine ⟨([], Node.leadingText content) :: found, ?_, ?_⟩
      · refine (hfound.cons fun place text h => ?_).congr fun place text => ?_
        · have hat : place ≠ [] ∧ EntryAt (.element s name content) place text :=
            entryAt_below.mpr h
          exact hat.1
        · simp [entryAt_element, hentry]
      · simp [hentry, htexts]
    · refine ⟨found, hfound.congr fun place text => ?_, ?_⟩
      · simp [entryAt_element, hentry]
      · simp [hentry, htexts]

theorem inOrder_textsIn : (content : List Node) → (k : Nat) →
    ∃ found, InOrder (EntryIn k content) found ∧ found.map (·.2) = textsIn content
  | [], _ => ⟨[], .nil fun _ _ => entryIn_nil, rfl⟩
  | n :: rest, k => by
    obtain ⟨found, hfound, htexts⟩ := inOrder_textsOf n
    obtain ⟨more, hmore, hothers⟩ := inOrder_textsIn rest (k + 1)
    refine ⟨found.map (fun x => (k :: x.1, x.2)) ++ more, ?_, ?_⟩
    · exact (hfound.append hmore fun _ _ => entryIn_later).congr fun _ _ => entryIn_cons.symm
    · simp [textsIn, ← htexts, ← hothers]

end

/-- The trimmed texts of the entries below the root whose text is of a kind, in the order of the
document. -/
def Lists (document : Node) (P : String → Prop) (urls : List String) : Prop :=
  ∃ found, InOrder (fun place text => (place ≠ [] ∧ EntryAt document place text) ∧ P text) found ∧
    urls = found.map fun x => Text.trim x.2

theorem lists_addresses (document : Node) : Lists document (· ≠ "") (addresses document) := by
  obtain ⟨found, hfound, htexts⟩ := inOrder_textsIn document.content 0
  have hbelow : InOrder (fun place text => place ≠ [] ∧ EntryAt document place text) found :=
    hfound.congr fun _ _ => entryAt_below.symm
  refine ⟨_, hbelow.filter (· ≠ ""), ?_⟩
  have haddresses : addresses document =
      ((textsIn document.content).filter (· ≠ "")).map Text.trim := by cases document <;> rfl
  rw [haddresses, ← htexts, List.filter_map, List.map_map]
  rfl

section Lists

variable {P Q : String → Prop} {urls more : List String}

theorem Lists.mem (h : Lists document P urls) {url : String} : url ∈ urls ↔
    ∃ place text, (place ≠ [] ∧ EntryAt document place text) ∧ P text ∧ Text.trim text = url := by
  obtain ⟨found, hfound, rfl⟩ := h
  rw [List.mem_map]
  constructor
  · rintro ⟨x, hx, rfl⟩
    obtain ⟨hentry, hP⟩ := (hfound.exact x.1 x.2).mp hx
    exact ⟨x.1, x.2, hentry, hP, rfl⟩
  · rintro ⟨place, text, hentry, hP, rfl⟩
    exact ⟨(place, text), (hfound.exact place text).mpr ⟨hentry, hP⟩, rfl⟩

theorem Lists.congr (h : Lists document P urls)
    (hPQ : ∀ place text, place ≠ [] → EntryAt document place text → (P text ↔ Q text)) :
    Lists document Q urls := by
  obtain ⟨found, hfound, rfl⟩ := h
  exact ⟨found, hfound.congr fun place text => and_congr_right fun hentry =>
    hPQ place text hentry.1 hentry.2, rfl⟩

/-- Of fewer texts, fewer addresses come. -/
theorem Lists.sublist [DecidablePred Q] (h : Lists document P urls) (h' : Lists document Q more)
    (hQP : ∀ text, Q text → P text) : more.Sublist urls := by
  obtain ⟨found, hfound, rfl⟩ := h
  obtain ⟨fewer, hfewer, rfl⟩ := h'
  have hfilter : fewer = found.filter fun x => Q x.2 := by
    refine hfewer.unique ((hfound.filter Q).congr fun place text => ?_)
    exact ⟨fun h => ⟨h.1.1, h.2⟩, fun h => ⟨⟨h.1, hQP text h.2⟩, h.2⟩⟩
  rw [hfilter]
  exact List.filter_sublist.map _

/-- No entry holds a text of white space. -/
def Tidy (document : Node) : Prop :=
  ∀ place text, place ≠ [] → EntryAt document place text → Text.Blank text → text = ""

theorem Lists.empty_mem (h : Lists document (· ≠ "") urls) : "" ∈ urls ↔ ¬ Tidy document := by
  rw [h.mem, Tidy]
  push Not
  constructor
  · rintro ⟨place, text, ⟨hbelow, hentry⟩, hne, htrim⟩
    exact ⟨place, text, hbelow, hentry, Text.trim_eq_empty.mp htrim, hne⟩
  · rintro ⟨place, text, hbelow, hentry, hblank, hne⟩
    exact ⟨place, text, ⟨hbelow, hentry⟩, hne, Text.trim_eq_empty.mpr hblank⟩

theorem Lists.empty_not_mem (h : Lists document (¬ Text.Blank ·) urls) : "" ∉ urls := by
  intro hmem
  obtain ⟨-, text, -, hnot, htrim⟩ := h.mem.mp hmem
  exact hnot (Text.trim_eq_empty.mp htrim)

/-- The addresses of the texts that are not empty are those of the texts that are not blank, just if
the document is tidy. -/
theorem Lists.not_blank_iff (h : Lists document (· ≠ "") urls) :
    Lists document (¬ Text.Blank ·) urls ↔ Tidy document := by
  constructor
  · intro h'
    by_contra hnot
    exact h'.empty_not_mem (h.empty_mem.mpr hnot)
  · intro htidy
    refine h.congr fun place text hbelow hentry => not_congr ⟨?_, htidy place text hbelow hentry⟩
    rintro rfl
    exact Text.blank_empty

end Lists

/-- A sitemap answers with octets that are a well-formed document. -/
def Answers (w : Web) (url : String) (document : Node) : Prop :=
  ∃ a, w.ask url = .ok a ∧ Xml.parse a.content = .ok document

variable {w : Web} {url : String}

theorem Answers.unique {other : Node} (h : Answers w url document) (h' : Answers w url other) :
    document = other := by
  obtain ⟨a, hask, hparse⟩ := h
  obtain ⟨b, hask', hparse'⟩ := h'
  cases hask.symm.trans hask'
  exact Except.ok.inj (hparse.symm.trans hparse')

theorem exists_answers {a : Web.Answer} (hask : w.ask url = .ok a)
    (hparse : (Xml.parse a.content).toOption.isSome = true) :
    ∃ document, Answers w url document := by
  obtain ⟨document, hdocument⟩ := Option.isSome_iff_exists.mp hparse
  exact ⟨document, a, hask, eq_ok_of_toOption hdocument⟩

theorem Answers.not_fails (h : Answers w url document) (f : Failure) : ¬ Fails w url f := by
  obtain ⟨a, hask, hparse⟩ := h
  intro hfails
  cases hfails with
  | fault hask' => cases hask.symm.trans hask'
  | encoding hask' hparse' =>
    cases hask.symm.trans hask'
    cases hparse.symm.trans hparse'

theorem Answers.listing (h : Answers w url document) : listing w url = addresses document := by
  obtain ⟨a, hask, hparse⟩ := h
  simp only [Sitemap.listing, hask, hparse]

theorem listing_of_not_answers (h : ∀ document, ¬ Answers w url document) : listing w url = [] := by
  unfold listing
  split
  next => rfl
  next a hask =>
    split
    next => rfl
    next document hparse => exact absurd ⟨a, hask, hparse⟩ (h document)

end Sitemap

namespace Item

open Xml (Node)

variable {w : Web} {t : Web.Seconds} {P : String → Prop} {i : Item} {part : List Item}
  {items : List Item} {parts fewer : List (List Item)}

theorem opens_of_page (hpage : i.isSitemap = false) : i.Opens w :=
  fun hsitemap => by simp [hpage] at hsitemap

/-- A sitemap that answers opens. -/
theorem opens_of_answers {document : Node} (h : Sitemap.Answers w i.url document) : i.Opens w :=
  fun _ f => h.not_fails f

/-- What comes in the place of an item, where a sitemap lists the entries whose texts are of a
kind. -/
inductive Replaces (w : Web) (P : String → Prop) (i : Item) : List Item → Prop where
  | page : i.isSitemap = false → Replaces w P i [i]
  | listed {document : Node} {urls : List String} : i.isSitemap = true →
      Sitemap.Answers w i.url document → Sitemap.Lists document P urls →
      Replaces w P i (urls.map fun url => { url, schema := i.schema, isSitemap := false })
  | unread : i.isSitemap = true → (∀ document, ¬ Sitemap.Answers w i.url document) →
      Replaces w P i []

/-- What comes in the place of all items, one after the other. -/
def Expands (w : Web) (P : String → Prop) (items all : List Item) : Prop :=
  ∃ parts, List.Forall₂ (Replaces w P) items parts ∧ all = parts.flatten

/-- If the item is a sitemap that answers, no entry of it holds a text of white space. -/
def Tidy (w : Web) (i : Item) : Prop :=
  i.isSitemap = true → ∀ document, Sitemap.Answers w i.url document → Sitemap.Tidy document

theorem replaces_pages (w : Web) (i : Item) : Replaces w (· ≠ "") i (pages w i) := by
  unfold pages
  cases hsitemap : i.isSitemap with
  | false => exact .page hsitemap
  | true =>
    by_cases hanswers : ∃ document, Sitemap.Answers w i.url document
    · obtain ⟨document, hdocument⟩ := hanswers
      simp only [hdocument.listing, if_true]
      exact .listed hsitemap hdocument (Sitemap.lists_addresses document)
    · rw [not_exists] at hanswers
      simp only [Sitemap.listing_of_not_answers hanswers, if_true]
      exact .unread hsitemap hanswers

theorem tidy_of_page (hpage : i.isSitemap = false) : Tidy w i :=
  fun hsitemap => by simp [hpage] at hsitemap

theorem tidy_of_unread (hunread : ∀ document, ¬ Sitemap.Answers w i.url document) : Tidy w i :=
  fun _ document hdocument => absurd hdocument (hunread document)

theorem tidy_of_answers {document : Node} (hsitemap : i.isSitemap = true)
    (hdocument : Sitemap.Answers w i.url document) : Tidy w i ↔ Sitemap.Tidy document := by
  constructor
  · exact fun h => h hsitemap document hdocument
  · intro h _ other hother
    exact hdocument.unique hother ▸ h

theorem Replaces.eq_of_page (h : Replaces w P i part) (hpage : i.isSitemap = false) :
    part = [i] := by
  cases h with
  | page => rfl
  | listed hsitemap => simp [hpage] at hsitemap
  | unread hsitemap => simp [hpage] at hsitemap

theorem Replaces.exists_of_answers {document : Node} (h : Replaces w P i part)
    (hsitemap : i.isSitemap = true) (hdocument : Sitemap.Answers w i.url document) :
    ∃ urls, Sitemap.Lists document P urls ∧
      part = urls.map fun url => { url, schema := i.schema, isSitemap := false } := by
  cases h with
  | page hpage => simp [hpage] at hsitemap
  | @listed other urls _ hother hurls => exact ⟨urls, hdocument.unique hother ▸ hurls, rfl⟩
  | unread _ hunread => exact absurd hdocument (hunread document)

theorem Replaces.eq_of_unread (h : Replaces w P i part) (hsitemap : i.isSitemap = true)
    (hunread : ∀ document, ¬ Sitemap.Answers w i.url document) : part = [] := by
  cases h with
  | page hpage => simp [hpage] at hsitemap
  | listed _ hdocument => exact absurd hdocument (hunread _)
  | unread => rfl

theorem Replaces.sublist {Q : String → Prop} [DecidablePred Q] {more : List Item}
    (h : Replaces w P i part) (h' : Replaces w Q i more) (hQP : ∀ text, Q text → P text) :
    more.Sublist part := by
  cases h with
  | page hpage => rw [h'.eq_of_page hpage]
  | listed hsitemap hdocument hurls =>
    obtain ⟨fewer, hfewer, rfl⟩ := h'.exists_of_answers hsitemap hdocument
    exact (hurls.sublist hfewer hQP).map _
  | unread hsitemap hunread => rw [h'.eq_of_unread hsitemap hunread]

theorem Replaces.empty_mem (h : Replaces w (· ≠ "") i part) (hsitemap : i.isSitemap = true) :
    "" ∈ part.map (·.url) ↔ ¬ Tidy w i := by
  cases h with
  | page hpage => simp [hpage] at hsitemap
  | listed _ hdocument hurls =>
    rw [tidy_of_answers hsitemap hdocument, ← hurls.empty_mem]
    simp
  | unread _ hunread => simpa using tidy_of_unread hunread

theorem Replaces.empty_not_mem (h : Replaces w (¬ Text.Blank ·) i part)
    (hsitemap : i.isSitemap = true) : "" ∉ part.map (·.url) := by
  cases h with
  | page hpage => simp [hpage] at hsitemap
  | listed _ _ hurls => simpa using hurls.empty_not_mem
  | unread => exact List.not_mem_nil

theorem Replaces.not_blank_iff (h : Replaces w (· ≠ "") i part) :
    Replaces w (¬ Text.Blank ·) i part ↔ Tidy w i := by
  constructor
  · intro h' hsitemap
    by_contra hnot
    exact h'.empty_not_mem hsitemap ((h.empty_mem hsitemap).mpr fun htidy => hnot (htidy hsitemap))
  · intro htidy
    cases h with
    | page hpage => exact .page hpage
    | listed hsitemap hdocument hurls =>
      exact .listed hsitemap hdocument (hurls.not_blank_iff.mpr (htidy hsitemap _ hdocument))
    | unread hsitemap hunread => exact .unread hsitemap hunread

theorem flatten_sublist (h : List.Forall₂ List.Sublist fewer parts) :
    fewer.flatten.Sublist parts.flatten := by
  induction h with
  | nil => exact .slnil
  | cons hfirst _ ih => exact hfirst.append ih

/-- Parts that are no longer than others are these, if the wholes are the same. -/
theorem eq_of_flatten_eq (h : List.Forall₂ List.Sublist fewer parts)
    (hall : fewer.flatten = parts.flatten) : fewer = parts := by
  induction h with
  | nil => rfl
  | @cons part more fewer parts hfirst hrest ih =>
    rw [List.flatten_cons, List.flatten_cons] at hall
    have hlength := congrArg List.length hall
    rw [List.length_append, List.length_append] at hlength
    have hfirst' := hfirst.length_le
    have hrest' := (flatten_sublist hrest).length_le
    obtain ⟨hpart, hothers⟩ := List.append_inj hall (by omega)
    rw [hpart, ih hothers]

theorem fewer_of_not_blank (h : List.Forall₂ (Replaces w (· ≠ "")) items parts)
    (h' : List.Forall₂ (Replaces w (¬ Text.Blank ·)) items fewer) :
    List.Forall₂ List.Sublist fewer parts := by
  induction h generalizing fewer with
  | nil =>
    cases h'
    exact .nil
  | cons hpart _ ih =>
    cases h' with
    | cons hmore hrest =>
      refine .cons (hpart.sublist hmore fun text hnot => ?_) (ih hrest)
      rintro rfl
      exact hnot Text.blank_empty

theorem not_blank_iff_tidy (h : List.Forall₂ (Replaces w (· ≠ "")) items parts) :
    List.Forall₂ (Replaces w (¬ Text.Blank ·)) items parts ↔ ∀ i ∈ items, Tidy w i := by
  induction h with
  | nil => simp
  | cons hpart _ ih =>
    rw [List.forall₂_cons, List.forall_mem_cons, hpart.not_blank_iff]
    exact and_congr_right fun _ => ih

theorem expands_not_blank_iff (h : List.Forall₂ (Replaces w (· ≠ "")) items parts) :
    Expands w (¬ Text.Blank ·) items parts.flatten ↔ ∀ i ∈ items, Tidy w i := by
  rw [← not_blank_iff_tidy h]
  constructor
  · rintro ⟨fewer, hfewer, hall⟩
    exact eq_of_flatten_eq (fewer_of_not_blank h hfewer) hall.symm ▸ hfewer
  · exact fun hparts => ⟨parts, hparts, rfl⟩

/-- Where each sitemap opens, what comes in the place of one that answers is a plain item of its
schema for each entry whose text is not empty, trimmed. This is one for each entry whose text is not
blank just if no text of an entry is of white space alone, and such a text gives an item without an
address. -/
theorem expand_listed (hopens : ∀ i ∈ items, i.Opens w) :
    ∃ parts, (expand w t items).result = .ok parts.flatten ∧
      List.Forall₂ (Replaces w (· ≠ "")) items parts ∧
      (Expands w (¬ Text.Blank ·) items parts.flatten ↔ ∀ i ∈ items, Tidy w i) ∧
      List.Forall₂ (fun i part => i.isSitemap = true →
        ("" ∈ part.map (·.url) ↔ ¬ Tidy w i)) items parts := by
  obtain ⟨all, hall⟩ := expand_isOk (t := t).mpr hopens
  have hparts : List.Forall₂ (Replaces w (· ≠ "")) items (items.map (pages w)) := by
    rw [List.forall₂_map_right_iff]
    exact List.forall₂_same.mpr fun i _ => replaces_pages w i
  refine ⟨items.map (pages w), ?_, hparts, expands_not_blank_iff hparts, ?_⟩
  · rw [hall, expand_eq_ok hall, List.flatMap_def]
  · exact hparts.imp fun i part h => h.empty_mem

def xmlOfLevels : String :=
  "<urlset xmlns=\"" ++ Sitemap.space ++ "\" xmlns:o=\"other\">" ++
    "<url><loc> http://a/x </loc></url><o:loc>http://a/no</o:loc>" ++
    "<loc>http://a/y<loc>http://a/z</loc></loc><loc/></urlset>"

/-- A sitemap with entries on several levels, and one that is empty. -/
def mapOfLevels : Web := [("http://a/map", .ok { content := Text.octetsOf xmlOfLevels })]

/-- A sitemap between two pages. -/
def mapBetween : List Item :=
  [⟨"http://a/p", "s", false⟩, ⟨"http://a/map", "t", true⟩, ⟨"http://a/q", "s", false⟩]

def mapBetweenListed : List Item :=
  [⟨"http://a/p", "s", false⟩, ⟨"http://a/x", "t", false⟩, ⟨"http://a/y", "t", false⟩,
    ⟨"http://a/z", "t", false⟩, ⟨"http://a/q", "s", false⟩]

theorem expand_listed_between :
    (∃ document, Sitemap.Answers mapOfLevels "http://a/map" document) ∧
      (∀ i ∈ mapBetween, i.Opens mapOfLevels) ∧
      (expand mapOfLevels (.whole 30) mapBetween).result = .ok mapBetweenListed ∧
      Expands mapOfLevels (¬ Text.Blank ·) mapBetween mapBetweenListed := by
  have hanswers : ∃ document, Sitemap.Answers mapOfLevels "http://a/map" document :=
    Sitemap.exists_answers rfl (by decide +kernel)
  have hopens : ∀ i ∈ mapBetween, i.Opens mapOfLevels := by
    obtain ⟨document, hdocument⟩ := hanswers
    simp only [mapBetween, List.forall_mem_cons]
    exact ⟨opens_of_page rfl, opens_of_answers hdocument, opens_of_page rfl, nofun⟩
  have hresult : (expand mapOfLevels (.whole 30) mapBetween).result = .ok mapBetweenListed :=
    eq_ok_of_toOption (by decide +kernel)
  obtain ⟨parts, hparts, -, hexpands, hempty⟩ := expand_listed (t := .whole 30) hopens
  rw [hresult, Except.ok.injEq] at hparts
  refine ⟨hanswers, hopens, hresult, hparts ▸ hexpands.mpr ?_⟩
  obtain - | ⟨-, - | ⟨hmap, -⟩⟩ := hempty
  simp only [mapBetween, List.forall_mem_cons]
  refine ⟨tidy_of_page rfl, ?_, tidy_of_page rfl, nofun⟩
  by_contra hnot
  obtain ⟨page, hpage, hurl⟩ := List.mem_map.mp ((hmap rfl).mpr hnot)
  have hlisted : page ∈ mapBetweenListed := by simp [hparts, hpage]
  have hnone : ∀ page ∈ mapBetweenListed, page.url ≠ "" := by simp [mapBetweenListed]
  exact hnone page hlisted hurl

/-- A sitemap with one entry, whose text is a blank. -/
def mapOfBlank : Web := [("http://a/map", .ok { content := Text.octetsOf ("<urlset xmlns=\"" ++
  Sitemap.space ++ "\"><loc> </loc></urlset>") })]

/-- An entry of white space gives an item without an address. -/
theorem expand_lists_blank :
    (∃ document, Sitemap.Answers mapOfBlank "http://a/map" document) ∧
      (expand mapOfBlank (.whole 30) [⟨"http://a/map", "s", true⟩]).result =
        .ok [⟨"", "s", false⟩] ∧
      ¬ Expands mapOfBlank (¬ Text.Blank ·) [⟨"http://a/map", "s", true⟩] [⟨"", "s", false⟩] := by
  refine ⟨Sitemap.exists_answers rfl (by decide +kernel), eq_ok_of_toOption (by decide +kernel), ?_⟩
  rintro ⟨parts, hparts, hall⟩
  obtain - | ⟨hpart, ⟨⟩⟩ := hparts
  rw [List.flatten_singleton] at hall
  exact hpart.empty_not_mem rfl (hall ▸ List.mem_singleton.mpr rfl)

end Item

end Gleaner
