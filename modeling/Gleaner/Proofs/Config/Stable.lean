import Gleaner.Proofs.Config.Reread

/-! Normal forms that are brought to normal form again. All that is dropped stays away but for a
slash at the end: of several slashes only one is dropped, and one that only comes to the end as
something behind it is dropped stays there until the next time. -/

namespace Gleaner.Url

variable {u v : Url} {s n : String} {cs m : List Char} {c : Char} {drops : Bool}

section Slash

/-- A slash at the end, or before a line feed at the end. -/
def EndsInSlash (cs : List Char) : Prop := ['/'] <:+ cs ∨ ['/', '\n'] <:+ cs

instance (cs : List Char) : Decidable (EndsInSlash cs) := inferInstanceAs (Decidable (_ ∨ _))

theorem dropEndSlash_eq_self : dropEndSlash cs = cs ↔ ¬EndsInSlash cs := by
  unfold dropEndSlash
  split
  next r hr =>
    have hcs : cs = r.reverse ++ ['/'] := by rw [← List.reverse_reverse cs, hr, List.reverse_cons]
    have hshort : r.reverse ≠ cs := fun heq => by simpa [hcs] using congrArg List.length heq
    exact ⟨fun heq => absurd heq hshort, fun hnot => absurd (.inl ⟨_, hcs.symm⟩) hnot⟩
  next r hr =>
    have hcs : cs = r.reverse ++ ['/', '\n'] := by
      rw [← List.reverse_reverse cs, hr]
      simp
    have hshort : ('\n' :: r).reverse ≠ cs := fun heq => by
      simpa [hcs] using congrArg List.length heq
    exact ⟨fun heq => absurd heq hshort, fun hnot => absurd (.inr ⟨_, hcs.symm⟩) hnot⟩
  next hslash hfeed =>
    refine ⟨fun _ hends => ?_, fun _ => rfl⟩
    rcases hends with ⟨front, rfl⟩ | ⟨front, rfl⟩
    · exact hslash front.reverse (by simp)
    · exact hfeed front.reverse (by simp)

theorem dropEndSlash_slash (cs : List Char) : dropEndSlash (cs ++ ['/']) = cs := by
  simp [dropEndSlash]

/-- A slash behind a text goes to what follows the authority, unless it completes two slashes. -/
theorem cutAuthority_slash (cs : List Char) : cutAuthority (cs ++ ['/']) =
    ((cutAuthority cs).1, (cutAuthority cs).2 ++ ['/']) ∨ cs = ['/'] := by
  by_cases hslashed : cs.take 2 = ['/', '/']
  · left
    obtain ⟨rest, rfl⟩ : ∃ rest, cs = '/' :: '/' :: rest := by
      rcases cs with _ | ⟨x, _ | ⟨y, rest⟩⟩ <;> simp_all
    have hall : ∀ c ∈ rest.takeWhile (!isDelimiter ·), isDelimiter c = false :=
      fun c hc => by simpa using List.mem_takeWhile_imp hc
    have hhead : ∀ c ∈ (rest.dropWhile (!isDelimiter ·) ++ ['/']).head?, isDelimiter c = true := by
      intro c hc
      have hdrop := List.head?_dropWhile_not (!isDelimiter ·) rest
      cases hrest : rest.dropWhile (!isDelimiter ·) with
      | nil =>
        rw [hrest] at hc
        cases hc
        rfl
      | cons d more =>
        rw [hrest] at hc hdrop
        cases hc
        simpa using hdrop
    have hcut := cutAuthority_slashed hall hhead
    rwa [← List.append_assoc, List.takeWhile_append_dropWhile] at hcut
  · by_cases hone : cs = ['/']
    · exact .inr hone
    · left
      have hlong : (cs ++ ['/']).take 2 ≠ ['/', '/'] := by
        rcases cs with _ | ⟨x, _ | ⟨y, rest⟩⟩ <;> simp_all
      rw [cutAuthority_plain hslashed, cutAuthority_plain hlong]

theorem pathOf_slash_end (scheme cs : List Char) :
    pathOf scheme (cs ++ ['/']) = (cs ++ ['/'], []) := by
  have hcut : cutParams (cs ++ ['/'] ++ []) =
      (cs ++ ['/'] ++ (cutOff ';' []).1, (cutOff ';' []).2) :=
    cutParams_append List.not_mem_nil (.inr ⟨cs, rfl⟩)
  unfold pathOf
  split
  next => simpa [cutOff, Text.cutAt?] using hcut
  next => rfl

end Slash

section Shown

theorem getsSlash_eq_true : u.getsSlash = true ↔
    u.isSlashed = true ∧ u.location ≠ [] ∧ u.location.head? ≠ some '/' := by
  simp [getsSlash, and_assoc]

theorem location_shown (hgets : u.getsSlash = true) :
    ({ u with path := u.shownPath } : Url).location = '/' :: u.location := by
  simp [location, shownPath, hgets]

/-- Slashes in front of a path that gets one are there for the authority or the scheme. -/
theorem isSlashed_shown (hgets : u.getsSlash = true) :
    ({ u with path := u.shownPath } : Url).isSlashed = true := by
  obtain ⟨hslashed, -, hhead⟩ := getsSlash_eq_true.mp hgets
  have htake : u.location.take 2 ≠ ['/', '/'] := by
    intro htake
    cases hlocation : u.location with
    | nil => simp [hlocation] at htake
    | cons d rest => simp_all
  simp only [isSlashed, Bool.or_eq_true, decide_eq_true_eq, htake, or_false] at hslashed ⊢
  exact .inl hslashed

/-- An address is written in the same way with its path as it is written. -/
theorem render_shown (u : Url) : render { u with path := u.shownPath } = render u := by
  cases hgets : u.getsSlash with
  | false =>
    have hpath : u.shownPath = u.path := by rw [shownPath, hgets, if_neg Bool.false_ne_true]
    rw [hpath]
  | true =>
    have hslashed := isSlashed_shown hgets
    have hlocation := location_shown hgets
    have hnot : ({ u with path := u.shownPath } : Url).getsSlash = false := by
      rw [← Bool.not_eq_true, getsSlash_eq_true, hlocation]
      exact fun h => h.2.2 rfl
    have hbody : ({ u with path := u.shownPath } : Url).body = u.body := by
      rw [body, body, if_pos hslashed, if_pos (getsSlash_eq_true.mp hgets).1, shownLocation,
        shownLocation, hnot, hgets, hlocation]
      rfl
    rw [render, render, renderChars_eq, renderChars_eq, hbody]
    rfl

/-- What a normal form is taken apart as. -/
theorem parse_normalForm (hu : u.Proper) :
    parse (normalForm u) = .ok { u with query := u.keptQuery, path := u.shownPath } :=
  hu.withKeptQuery.parse_render

/-- A normal form that is taken apart has itself as its normal form. -/
theorem normalForm_again (u : Url) :
    normalForm { u with query := u.keptQuery, path := u.shownPath } = normalForm u := by
  have hquery : ({ u with query := u.keptQuery, path := u.shownPath } : Url).keptQuery =
      u.keptQuery := keptQuery_again rfl
  rw [normalForm, hquery]
  exact render_shown { u with query := u.keptQuery }

end Shown

section Unstable

theorem cutOff_slash {sep : Char} (hsep : sep ∈ cs) :
    (cutOff sep (cs ++ ['/'])).2 = (cutOff sep cs).2 ++ ['/'] := by
  obtain ⟨front, back, rfl, hfront⟩ := List.eq_append_cons_of_mem hsep
  rw [List.append_assoc, List.cons_append]
  simp [cutOff, Text.cutAt?_append hfront]

/-- A slash behind an address leaves it its scheme and its authority. -/
theorem cutScheme_slash (cs : List Char) :
    cutScheme (cs ++ ['/']) = ((cutScheme cs).1, (cutScheme cs).2 ++ ['/']) :=
  cutScheme_append (fun c hc => by cases hc; decide) cs

theorem authority_slash (cs : List Char) :
    (ofText (cs ++ ['/'])).authority = (ofText cs).authority := by
  dsimp only [ofText]
  rw [cutScheme_slash]
  rcases cutAuthority_slash (cutScheme cs).2 with hcut | hone
  · rw [hcut]
  · rw [hone]
    rfl

theorem restOf_slash (cs : List Char) : restOf (cs ++ ['/']) = restOf cs ++ ['/'] ∨
    restOf (cs ++ ['/']) = [] ∧ restOf cs = ['/'] := by
  unfold restOf
  rw [cutScheme_slash]
  rcases cutAuthority_slash (cutScheme cs).2 with hcut | hone
  · exact .inl (by rw [hcut])
  · rw [hone]
    exact .inr ⟨rfl, rfl⟩

/-- The location of an address without a slash, and its path with one, if there is no query. -/
theorem path_slash (hrest : restOf (cs ++ ['/']) = restOf cs ++ ['/']) (hsharp : '#' ∉ restOf cs)
    (hmark : '?' ∉ restOf cs) : (ofText (cs ++ ['/'])).path = restOf cs ++ ['/'] ∧
      (ofText (cs ++ ['/'])).params = [] ∧ (ofText cs).location <+: restOf cs := by
  have hlocation : locationOf (cs ++ ['/']) = restOf cs ++ ['/'] := by
    have hsharp' : '#' ∉ restOf cs ++ ['/'] := by simp [hsharp]
    have hmark' : '?' ∉ restOf cs ++ ['/'] := by simp [hmark]
    rw [locationOf, hrest, cutOff_of_notMem hsharp', cutOff_of_notMem hmark']
  have hpath := pathOf_slash_end (cutScheme (cs ++ ['/'])).1 (restOf cs)
  refine ⟨?_, ?_, (location_ofText cs).trans (locationOf_start cs)⟩
  · rw [ofText, hlocation, hpath]
  · rw [ofText, hlocation, hpath]

/-- A path that is written with a slash in front does not get one at its end by that. -/
theorem shownPath_ne_slash (hparams : u.params = []) (hstart : u.location <+: cs) :
    u.shownPath ≠ cs ++ ['/'] := by
  intro hshown
  have hlocation : u.location = u.path := by
    rw [location, hparams]
    exact List.append_nil _
  have hlength := congrArg List.length hshown
  rw [hlocation] at hstart
  have hle := hstart.length_le
  cases hgets : u.getsSlash with
  | false =>
    rw [shownPath, hgets, if_neg Bool.false_ne_true, List.length_append,
      List.length_singleton] at hlength
    omega
  | true =>
    obtain ⟨-, hne, hhead⟩ := getsSlash_eq_true.mp hgets
    rw [shownPath, hgets, if_pos rfl] at hshown hlength
    rw [List.length_cons, List.length_append, List.length_singleton] at hlength
    have hsame : u.path = cs := hstart.eq_of_length (by omega)
    rw [hlocation, hsame] at hne hhead
    obtain ⟨c, rest, rfl⟩ := List.exists_cons_of_ne_nil hne
    exact hhead (congrArg some (List.cons.inj hshown).1.symm)

/-- A slash behind an address with a fragment is part of it. -/
theorem sharp_notMem_restOf (hrest : restOf (cs ++ ['/']) = restOf cs ++ ['/'])
    (hfragment : (ofText (cs ++ ['/'])).fragment = (ofText cs).fragment) : '#' ∉ restOf cs := by
  intro hmem
  have hlong : (ofText (cs ++ ['/'])).fragment = (ofText cs).fragment ++ ['/'] := by
    dsimp only [ofText]
    rw [hrest, cutOff_slash hmem]
  rw [hfragment] at hlong
  simpa using congrArg List.length hlong

/-- A slash behind an address with a query is part of it. -/
theorem mark_notMem_restOf (hrest : restOf (cs ++ ['/']) = restOf cs ++ ['/'])
    (hsharp : '#' ∉ restOf cs) (hquery : '/' ∉ (ofText (cs ++ ['/'])).query) :
    '?' ∉ restOf cs := by
  intro hmem
  have hsharp' : '#' ∉ restOf cs ++ ['/'] := by simp [hsharp]
  apply hquery
  dsimp only [ofText]
  rw [hrest, cutOff_of_notMem hsharp', cutOff_slash hmem]
  simp

/-- Two slashes open an authority and are no path, but the first of them alone is one. -/
theorem shownPath_ne_path (hnil : restOf (cs ++ ['/']) = []) (hone : restOf cs = ['/']) :
    (ofText cs).shownPath ≠ (ofText (cs ++ ['/'])).path := by
  have hempty : (ofText (cs ++ ['/'])).path = [] := by
    have hstart := (location_ofText (cs ++ ['/'])).trans (locationOf_start (cs ++ ['/']))
    rw [hnil, List.prefix_nil, location, List.append_eq_nil_iff] at hstart
    exact hstart.1
  have hslash : (ofText cs).path = ['/'] := by
    have hlocation : locationOf cs = [] ++ ['/'] := by
      rw [locationOf, hone]
      rfl
    rw [ofText, hlocation, pathOf_slash_end]
    rfl
  rw [hempty, shownPath, hslash]
  split <;> exact List.cons_ne_nil _ _

/-- No slash is put to the end of an address in its normal form. -/
theorem normalForm_ne_slash (hv : parse (String.ofList m) = .ok v) :
    normalForm v ≠ String.ofList (m ++ ['/']) := by
  intro heq
  have hagain := parse_normalForm (proper_of_parse hv)
  rw [heq] at hagain
  obtain ⟨hwhole, -⟩ := parse_eq_ok.mp hagain
  obtain ⟨rfl, -⟩ := parse_eq_ok.mp hv
  have hclean : clean (m ++ ['/']) = clean m ++ ['/'] := clean_append (by decide) m []
  rw [String.toList_ofList] at hwhole
  rw [String.toList_ofList, hclean] at hwhole
  generalize clean m = t at hwhole
  have hpath := congrArg Url.path hwhole
  have hparams := congrArg Url.params hwhole
  have hquery := congrArg Url.query hwhole
  have hfragment := congrArg Url.fragment hwhole
  dsimp only at hpath hparams hquery hfragment
  -- a slash that is put behind goes to the last part that there is, which is written without it
  rcases restOf_slash t with hrest | ⟨hnil, hone⟩
  · have hsharp := sharp_notMem_restOf hrest hfragment.symm
    have hmark := mark_notMem_restOf hrest hsharp (hquery ▸ notMem_keptQuery _ (by decide))
    obtain ⟨hlong, hnone, hstart⟩ := path_slash hrest hsharp hmark
    exact shownPath_ne_slash (hparams.trans hnone) hstart (hpath.trans hlong)
  · exact shownPath_ne_path hnil hone hpath

end Unstable

section Main

theorem normalize_eq_ok : normalize s true = .ok n ↔
    ∃ u, trimmed s = .ok u ∧ strayOf? u.keptValues = none ∧ n = normalForm u := by
  rw [normalize_eq]
  cases htrimmed : trimmed s with
  | error f => simp [Except.bind]
  | ok u =>
    rw [Except.bind, withoutTracking_eq_ok]
    simp [normalForm]

theorem notMem_cutOff_drop (s : String) : '#' ∉ dropEndSlash (cutOff '#' s.toList).1 :=
  fun hmem => notMem_cutOff '#' s.toList (mem_of_mem_dropEndSlash hmem)

theorem fragment_of_trimmed (hu : trimmed s = .ok u) : u.fragment = [] := by
  obtain ⟨rfl, -⟩ := parse_eq_ok.mp hu
  have hnone : '#' ∉ restOf (clean (dropEndSlash (cutOff '#' s.toList).1)) := by
    intro hmem
    have hclean := mem_of_mem_restOf hmem
    rw [mem_clean (by decide) (by decide)] at hclean
    exact notMem_cutOff_drop s hclean
  rw [String.toList_ofList]
  exact congrArg Prod.snd (cutOff_of_notMem hnone)

theorem Proper.notMem_render (hu : u.Proper) (hfragment : u.fragment = []) :
    '#' ∉ u.renderChars := by
  have hscheme : '#' ∉ u.scheme := by
    rcases hu.scheme with hnil | ⟨hname, -⟩
    · simp [hnil]
    · exact notMem_of_isScheme hname (by decide)
  have hauthority : '#' ∉ u.authority := fun hmem => by
    have hdelim := hu.authority '#' hmem
    exact absurd hdelim (by decide)
  have hlocation : '#' ∉ u.location := fun hmem => (hu.location '#' hmem).2 rfl
  have hshown : '#' ∉ u.shownLocation := by
    unfold shownLocation
    split
    next => simp [hlocation]
    next => exact hlocation
  have hbody : '#' ∉ u.body := by
    unfold body
    split
    next => simp [hauthority, hshown]
    next => exact hlocation
  have htrailer : '#' ∉ u.trailer := by
    rw [trailer, hfragment]
    intro hmem
    rcases List.mem_append.mp hmem with hquery | hnone
    · rcases mem_marked hquery with heq | hquery
      · exact absurd heq (by decide)
      · exact hu.query hquery
    · cases hnone
  rw [renderChars_eq]
  split <;> simp [hscheme, hbody, htrailer]

theorem normalize_of_notMem (hn : '#' ∉ n.toList) (drops : Bool) : normalize n drops =
    if drops then (parse (String.ofList (dropEndSlash n.toList))).bind withoutTracking
    else .ok (String.ofList (dropEndSlash n.toList)) := by
  unfold normalize
  rw [cutOff_of_notMem hn]

/-- A text that is taken apart with a slash at its end, which is not in its query, is so without,
and has no query. -/
theorem exists_parse_of_slash (hv : parse (String.ofList (m ++ ['/'])) = .ok v) (hsharp : '#' ∉ m)
    (hquery : '/' ∉ v.query) : ∃ w, parse (String.ofList m) = .ok w ∧ w.query = [] := by
  obtain ⟨hwhole, hsound⟩ := parse_eq_ok.mp hv
  have hclean : clean (m ++ ['/']) = clean m ++ ['/'] := clean_append (by decide) m []
  rw [String.toList_ofList, hclean] at hwhole
  rw [hwhole, authority_slash] at hsound
  rw [hwhole] at hquery
  have hnone : '#' ∉ restOf (clean m) := fun hmem =>
    hsharp ((mem_clean (by decide) (by decide)).mp (mem_of_mem_restOf hmem))
  have hmark : '?' ∉ restOf (clean m) := by
    rcases restOf_slash (clean m) with hrest | ⟨-, hone⟩
    · exact mark_notMem_restOf hrest hnone hquery
    · rw [hone]
      decide
  refine ⟨ofText (clean m), parse_eq_ok.mpr ⟨by rw [String.toList_ofList], hsound⟩, ?_⟩
  rw [ofText, cutOff_of_notMem hnone, cutOff_of_notMem hmark]

/-- A normal form without tracking parameters is its own normal form unless it ends in a slash. -/
theorem normalize_normalForm (hn : parse n = .ok v) (hsame : normalForm v = n)
    (hsharp : '#' ∉ n.toList) (hquery : '/' ∉ v.query) (hwhole : strayOf? v.keptValues = none) :
    (∃ again, normalize n true = .ok again) ∧
      (normalize n true = .ok n ↔ ¬EndsInSlash n.toList) := by
  rw [normalize_of_notMem hsharp, if_pos rfl]
  by_cases hends : EndsInSlash n.toList
  · have hclean := (proper_of_parse hn).withKeptQuery.clean_render
    have hbreak : '\n' ∉ n.toList := by
      intro hmem
      rw [← hsame, normalForm, render, String.toList_ofList, ← hclean] at hmem
      exact absurd (isBreak_of_mem_clean hmem) (by decide)
    obtain ⟨m, hm⟩ : ∃ m, n.toList = m ++ ['/'] := by
      rcases hends with ⟨m, hm⟩ | ⟨m, hm⟩
      · exact ⟨m, hm.symm⟩
      · exact absurd (by simp [← hm]) hbreak
    have hlong : n = String.ofList (m ++ ['/']) := by rw [← hm, String.ofList_toList]
    rw [hlong] at hn
    obtain ⟨w, hw, hempty⟩ := exists_parse_of_slash hn (fun hmem => hsharp (by simp [hm, hmem])) hquery
    have hagain : withoutTracking w = .ok (normalForm w) :=
      withoutTracking_eq_ok.mpr ⟨by rw [keptValues, hempty]; rfl, rfl⟩
    rw [hm, dropEndSlash_slash, hw, Except.bind, hagain]
    refine ⟨⟨_, rfl⟩, fun hsame => ?_, fun hnot => absurd (hm ▸ hends) hnot⟩
    exact absurd ((Except.ok.inj hsame).trans hlong) (normalForm_ne_slash hw)
  · have hagain : withoutTracking v = .ok n := withoutTracking_eq_ok.mpr ⟨hwhole, hsame.symm⟩
    rw [dropEndSlash_eq_self.mpr hends, String.ofList_toList, hn, Except.bind, hagain]
    exact ⟨⟨n, rfl⟩, fun _ => hends, fun _ => rfl⟩

/-- A normal form has no fragment, and with tracking parameters dropped none of these; its query and
the whole of it are put together again as they were. It is its own normal form unless it still ends
in a slash. -/
theorem normalize_again (h : normalize s drops = .ok n) :
    '#' ∉ n.toList ∧
    (drops = true → ∃ v, parse n = .ok v ∧ normalForm v = n ∧ v.keptQuery = v.query ∧
      ∀ field ∈ Text.splitAt '&' v.query, ¬IsTag field) ∧
    (∃ again, normalize n drops = .ok again) ∧
    (normalize n drops = .ok n ↔ ¬EndsInSlash n.toList) := by
  cases drops with
  | false =>
    obtain rfl : String.ofList (dropEndSlash (cutOff '#' s.toList).1) = n := Except.ok.inj h
    have hsharp : '#' ∉ (String.ofList (dropEndSlash (cutOff '#' s.toList).1)).toList := by
      rw [String.toList_ofList]
      exact notMem_cutOff_drop s
    refine ⟨hsharp, fun hdrops => absurd hdrops Bool.false_ne_true, ?_⟩
    rw [normalize_of_notMem hsharp, if_neg Bool.false_ne_true, ← dropEndSlash_eq_self,
      Except.ok.injEq, String.toList_ofList, String.ofList_inj]
    exact ⟨⟨_, rfl⟩, Iff.rfl⟩
  | true =>
    obtain ⟨u, hu, hwhole, rfl⟩ := normalize_eq_ok.mp h
    have hproper := proper_of_parse hu
    have hsharp : '#' ∉ (normalForm u).toList := by
      have hfragment := fragment_of_trimmed hu
      rw [normalForm, render, String.toList_ofList]
      exact hproper.withKeptQuery.notMem_render hfragment
    have hparse := parse_normalForm hproper
    have hsame := normalForm_again u
    have hkept : keptValues { u with query := u.keptQuery, path := u.shownPath } = u.keptValues :=
      keptValues_again rfl
    refine ⟨hsharp, fun _ => ⟨_, hparse, hsame, keptQuery_again rfl, ?_⟩,
      normalize_normalForm hparse hsame hsharp (notMem_keptQuery u (by decide))
        (hkept ▸ hwhole)⟩
    exact fun field => not_isTag_keptQuery

theorem normalize_again_tracked :
    normalize "http://a/x?q=%31&utm_id=m#top" true = .ok "http://a/x?q=1" ∧
      normalize "http://a/x?q=1" true = .ok "http://a/x?q=1" := by
  have hfirst : normalize "http://a/x?q=%31&utm_id=m#top" true = .ok "http://a/x?q=1" := by
    decide +kernel
  obtain ⟨-, -, -, hstable⟩ := normalize_again hfirst
  exact ⟨hfirst, hstable.mpr (by decide)⟩

/-- Of two slashes at the end the second is dropped only the next time, and one that tracking
parameters stand behind is not dropped before they are. -/
theorem normalize_twice :
    normalize "http://a/x//" true = .ok "http://a/x/" ∧
      normalize "http://a/x//" false = .ok "http://a/x/" ∧
      normalize "http://a/x/?utm_source=m" true = .ok "http://a/x/" ∧
      normalize "http://a/x/" true = .ok "http://a/x" ∧
      normalize "http://a/x/" false = .ok "http://a/x" := by
  refine ⟨?_, ?_, ?_, ?_, ?_⟩ <;> decide +kernel

end Main

end Gleaner.Url
