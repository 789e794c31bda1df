import Gleaner.Config.Items
import Gleaner.Proofs.Basic
import Gleaner.Proofs.Url.Form
import Gleaner.Proofs.Url.Render

/-! Which items of a batch are left out. An item goes only if one before it that stays has the same
schema and an alike address. -/

namespace Gleaner

namespace Url

variable {u v : Url} {s t n : String}

/-- A path as it stands after slashes. -/
def rooted (path : List Char) : List Char := if path.head? = some '/' then path else '/' :: path

/-- An address without its fragment and without one slash at the end, taken apart. -/
def trimmed (s : String) : Except Fault Url :=
  parse (String.ofList (dropEndSlash (cutOff '#' s.toList).1))

/-- The named values of a query that do not only track campaigns. -/
def remaining (u : Url) : List (String × String) :=
  (pairsOf u.query).filter fun p => !isTracking p.1

/-- Addresses that mean the same page: they differ at most in the order and the spelling of their
named values and in values that only track campaigns, and without an authority in a slash in front
of the path. -/
structure Alike (u v : Url) : Prop where
  scheme : u.scheme = v.scheme
  authority : u.authority = v.authority
  path : u.path = v.path ∨ u.authority = [] ∧ rooted u.path = rooted v.path
  params : u.params = v.params
  remaining : u.remaining.Perm v.remaining

/-- The groups of values that are kept of a query. -/
def keptValues (u : Url) : List (String × List String) :=
  (valuesOf u.query).filter fun v => !isTracking v.1

/-- The query of the normal form. -/
def keptQuery (u : Url) : List Char :=
  queryOf ((valuesOf u.query).filter fun v => !isTracking v.1)

theorem normalize_eq (s : String) : normalize s true = (trimmed s).bind withoutTracking := rfl

theorem withoutTracking_eq_ok : u.withoutTracking = .ok n ↔
    strayOf? u.keptValues = none ∧ n = render { u with query := u.keptQuery } := by
  have hkept : ((valuesOf u.query).filter fun v => !isTracking v.1) = u.keptValues := rfl
  have hquery : queryOf u.keptValues = u.keptQuery := rfl
  unfold withoutTracking
  dsimp only
  rw [hkept, hquery]
  cases strayOf? u.keptValues <;> simp [eq_comm]

theorem notMem_keptQuery {c : Char} (u : Url)
    (h : isFormChar c = false ∧ c ≠ '=' ∧ c ≠ '&') : c ∉ u.keptQuery := by
  intro hmem
  rcases mem_queryOf hmem with hform | hequal | hand
  · rw [h.1] at hform
    exact Bool.noConfusion hform
  · exact h.2.1 hequal
  · exact h.2.2 hand

theorem remaining_perm (u : Url) :
    (entriesOf ((valuesOf u.query).filter fun v => !isTracking v.1)).Perm u.remaining := by
  rw [entriesOf_filter fun name => !isTracking name]
  exact (entriesOf_valuesOf u.query).filter _

theorem Proper.withKeptQuery (h : u.Proper) : ({ u with query := u.keptQuery } : Url).Proper where
  unbroken := by
    intro c hc
    have hmem : c ∈ u.keptQuery ∨ c ∈ u.scheme ++ u.authority ++ u.location ++ u.query ++
        u.fragment := by
      simp only [List.mem_append] at hc ⊢
      tauto
    rcases hmem with hquery | hpart
    · rw [← Bool.not_eq_true]
      intro hbreak
      simp only [isBreak, Bool.or_eq_true, decide_eq_true_eq] at hbreak
      rcases hbreak with (rfl | rfl) | rfl <;> exact notMem_keptQuery u (by decide) hquery
    · exact h.unbroken c hpart
  scheme := h.scheme
  unnamed := h.unnamed
  front := h.front
  authority := h.authority
  rooted := h.rooted
  sound := h.sound
  location := h.location
  params := h.params
  query := notMem_keptQuery u (by decide)

theorem shownPath_cases (h : u.Proper) :
    u.shownPath = u.path ∨
      u.authority = [] ∧ u.shownPath = '/' :: u.path ∧ u.path.head? ≠ some '/' := by
  unfold shownPath
  split
  next hgets =>
    right
    simp only [getsSlash, Bool.and_eq_true, Bool.not_eq_true', List.isEmpty_eq_false_iff,
      decide_eq_true_eq] at hgets
    obtain ⟨⟨-, hne⟩, hhead⟩ := hgets
    refine ⟨?_, rfl, ?_⟩
    · by_contra ha
      obtain ⟨c, location, hlocation⟩ := List.exists_cons_of_ne_nil hne
      have hc : c ∈ u.location.head? := by simp [hlocation]
      exact hhead (h.rooted ha c hc ▸ hc)
    · intro hpath
      exact hhead (by simp [location, hpath])
  next => exact .inl rfl

theorem rooted_of_head? {path : List Char} (h : path.head? ≠ some '/') :
    rooted path = '/' :: path := if_neg h

/-- Paths that are written in the same way are the same, but for a slash in front. -/
theorem path_of_shownPath (hu : u.Proper) (hv : v.Proper) (ha : u.authority = v.authority)
    (h : u.shownPath = v.shownPath) :
    u.path = v.path ∨ u.authority = [] ∧ rooted u.path = rooted v.path := by
  have hslash : ∀ path : List Char, rooted ('/' :: path) = '/' :: path := fun path => rfl
  rcases shownPath_cases hu with hpu | ⟨hnil, hpu, hhead⟩ <;>
    rcases shownPath_cases hv with hpv | ⟨hnil', hpv, hhead'⟩
  · exact .inl (hpu ▸ hpv ▸ h)
  · have hpath : u.path = '/' :: v.path := hpu ▸ hpv ▸ h
    exact .inr ⟨ha ▸ hnil', by rw [hpath, hslash, rooted_of_head? hhead']⟩
  · have hpath : v.path = '/' :: u.path := hpv ▸ hpu ▸ h.symm
    exact .inr ⟨hnil, by rw [hpath, hslash, rooted_of_head? hhead]⟩
  · have hpath : '/' :: u.path = '/' :: v.path := hpu ▸ hpv ▸ h
    exact .inl (List.cons.inj hpath).2

/-- Addresses of one normal form are alike. -/
theorem alike_of_normalize (hs : normalize s true = .ok n) (ht : normalize t true = .ok n) :
    ∃ u v, trimmed s = .ok u ∧ trimmed t = .ok v ∧ u.Alike v := by
  have hread : ∀ r, normalize r true = .ok n →
      ∃ w, trimmed r = .ok w ∧ w.Proper ∧
        parse n = .ok { w with query := w.keptQuery, path := w.shownPath } := by
    intro r hr
    rw [normalize_eq] at hr
    cases hw : trimmed r with
    | error f =>
      rw [hw] at hr
      cases hr
    | ok w =>
      rw [hw] at hr
      obtain ⟨-, rfl⟩ := withoutTracking_eq_ok.mp hr
      exact ⟨w, rfl, proper_of_parse hw, (proper_of_parse hw).withKeptQuery.parse_render⟩
  obtain ⟨u, hu, hproper, hn⟩ := hread s hs
  obtain ⟨v, hv, hproper', hn'⟩ := hread t ht
  rw [hn] at hn'
  obtain ⟨hscheme, hauthority, hpath, hparams, hquery, -⟩ := Url.mk.inj (Except.ok.inj hn')
  have hvalues := entriesOf_of_queryOf hquery
  exact ⟨u, v, hu, hv, {
    scheme := hscheme
    authority := hauthority
    path := path_of_shownPath hproper hproper' hauthority hpath
    params := hparams
    remaining := (remaining_perm u).symm.trans (hvalues ▸ remaining_perm v) }⟩

end Url

namespace Item

variable {items kept before after earlier : List Item} {x y : Item} {k : String × String}
  {seen : List (String × String)}

theorem key_eq_ok : x.key = .ok k ↔ Url.normalize x.url true = .ok k.1 ∧ x.schema = k.2 := by
  obtain ⟨n, schema⟩ := k
  unfold key
  cases Url.normalize x.url true <;> simp [Except.map]

theorem alike_of_key (hx : x.key = .ok k) (hy : y.key = .ok k) :
    y.schema = x.schema ∧
      ∃ u v, Url.trimmed y.url = .ok u ∧ Url.trimmed x.url = .ok v ∧ u.Alike v := by
  obtain ⟨hx, hschema⟩ := key_eq_ok.mp hx
  obtain ⟨hy, hschema'⟩ := key_eq_ok.mp hy
  exact ⟨hschema'.trans hschema.symm, Url.alike_of_normalize hy hx⟩

theorem firstsFrom_of_mem (hx : x.key = .ok k) (h : k ∈ seen) :
    firstsFrom seen (x :: after) = firstsFrom seen after := by
  simp [firstsFrom, hx, h]

theorem firstsFrom_of_notMem (hx : x.key = .ok k) (h : k ∉ seen) :
    firstsFrom seen (x :: after) = (firstsFrom (k :: seen) after).map (x :: ·) := by
  simp [firstsFrom, hx, h]

theorem exists_key (h : firstsFrom seen (x :: after) = .ok kept) : ∃ k, x.key = .ok k := by
  cases hx : x.key with
  | error f => simp [firstsFrom, hx] at h
  | ok k => exact ⟨k, rfl⟩

/-- At any point, what is seen are the keys from the start and those of the items that stayed. -/
theorem firstsFrom_append (h : firstsFrom seen (before ++ after) = .ok kept) :
    ∃ earlier later seen', kept = earlier ++ later ∧ firstsFrom seen' after = .ok later ∧
      (∀ more, firstsFrom seen (before ++ more) =
        (firstsFrom seen' more).map (earlier ++ ·)) ∧
      ∀ k, k ∈ seen' ↔ k ∈ seen ∨ ∃ y ∈ earlier, y.key = .ok k := by
  induction before generalizing seen kept with
  | nil =>
    refine ⟨[], kept, seen, rfl, h, fun more => ?_, by simp⟩
    rw [List.nil_append]
    cases firstsFrom seen more <;> rfl
  | cons i before ih =>
    rw [List.cons_append] at h
    obtain ⟨k, hk⟩ := exists_key h
    by_cases hmem : k ∈ seen
    · rw [firstsFrom_of_mem hk hmem] at h
      obtain ⟨earlier, later, seen', hkept, hlater, hmore, hkeys⟩ := ih h
      refine ⟨earlier, later, seen', hkept, hlater, fun more => ?_, hkeys⟩
      rw [List.cons_append, firstsFrom_of_mem hk hmem, hmore]
    · rw [firstsFrom_of_notMem hk hmem] at h
      obtain ⟨rest, hrest, rfl⟩ := eq_ok_of_map h
      obtain ⟨earlier, later, seen', rfl, hlater, hmore, hkeys⟩ := ih hrest
      refine ⟨i :: earlier, later, seen', rfl, hlater, fun more => ?_, fun key => ?_⟩
      · rw [List.cons_append, firstsFrom_of_notMem hk hmem, hmore]
        cases firstsFrom seen' more <;> rfl
      · rw [hkeys, List.mem_cons]
        simp only [List.mem_cons, exists_eq_or_imp, hk, Except.ok.injEq]
        tauto

/-- Each item stays, or it is left out for an earlier one that stays, with the same schema and an
alike address. -/
theorem firsts_drops_alike (h : firsts (before ++ x :: after) = .ok kept) :
    ∃ earlier later, firsts before = .ok earlier ∧
      (kept = earlier ++ x :: later ∧ firsts (before ++ [x]) = .ok (earlier ++ [x]) ∨
        kept = earlier ++ later ∧ firsts (before ++ [x]) = .ok earlier ∧
          ∃ y ∈ earlier, y.schema = x.schema ∧
            ∃ u v, Url.trimmed y.url = .ok u ∧ Url.trimmed x.url = .ok v ∧ u.Alike v) := by
  obtain ⟨earlier, later, seen, rfl, hlater, hmore, hkeys⟩ := firstsFrom_append h
  have hbefore : firsts before = .ok earlier := by
    have hnil := hmore []
    rw [List.append_nil] at hnil
    simp [firsts, hnil, firstsFrom, Except.map]
  obtain ⟨k, hk⟩ := exists_key hlater
  by_cases hmem : k ∈ seen
  · obtain ⟨y, hy, hkey⟩ := ((hkeys k).mp hmem).resolve_left List.not_mem_nil
    refine ⟨earlier, later, hbefore, .inr ⟨rfl, ?_, y, hy, alike_of_key hk hkey⟩⟩
    rw [firsts, hmore, firstsFrom_of_mem hk hmem]
    simp [firstsFrom, Except.map]
  · rw [firstsFrom_of_notMem hk hmem] at hlater
    obtain ⟨rest, -, rfl⟩ := eq_ok_of_map hlater
    refine ⟨earlier, rest, hbefore, .inl ⟨rfl, ?_⟩⟩
    rw [firsts, hmore, firstsFrom_of_notMem hk hmem]
    simp [firstsFrom, Except.map]

/-- A page, and how a campaign links to it. -/
def listed : Item := ⟨"http://a/x?p=1&q=2", "s", false⟩

def linked : Item := ⟨"http://a/x?utm_source=m&p=%31&q=2#top", "s", false⟩

theorem firsts_drops_alike_tracked :
    firsts ([listed] ++ linked :: []) = .ok [listed] ∧
      ∃ earlier later, firsts [listed] = .ok earlier ∧
        ([listed] = earlier ++ linked :: later ∧
            firsts ([listed] ++ [linked]) = .ok (earlier ++ [linked]) ∨
          [listed] = earlier ++ later ∧ firsts ([listed] ++ [linked]) = .ok earlier ∧
            ∃ y ∈ earlier, y.schema = linked.schema ∧
              ∃ u v, Url.trimmed y.url = .ok u ∧ Url.trimmed linked.url = .ok v ∧ u.Alike v) := by
  have hkept : firsts ([listed] ++ linked :: []) = .ok [listed] := by decide +kernel
  exact ⟨hkept, firsts_drops_alike hkept⟩

/-- All named values of a query, the empty ones as well. -/
def fieldsOf (query : List Char) : List (String × String) :=
  ((Text.splitAt '&' query).filter fun field => !field.isEmpty).map fun field =>
    let parts := (Text.cutAt? '=' field).getD (field, [])
    (Url.readForm parts.1, Url.readForm parts.2)

/-- A page with a named value is left out for one without, as the value is empty. -/
theorem firsts_drops_empty_value :
    firsts [⟨"http://a/x", "s", false⟩, ⟨"http://a/x?q=", "s", false⟩] =
        .ok [⟨"http://a/x", "s", false⟩] ∧
      (Url.trimmed "http://a/x").map (fieldsOf ·.query) = .ok [] ∧
      (Url.trimmed "http://a/x?q=").map (fieldsOf ·.query) = .ok [("q", "")] ∧
      Url.isTracking "q" = false := by
  refine ⟨?_, ?_, ?_, ?_⟩ <;> decide +kernel

end Item

end Gleaner
