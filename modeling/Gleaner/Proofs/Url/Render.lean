import Gleaner.Proofs.Url.Domain

/-! Addresses are put together in a way that tells their parts: what is taken apart, put together
and taken apart again has the parts it had, but for a slash in front of a path that follows
slashes. -/

namespace Gleaner

namespace Url

variable {u : Url} {cs a b rest name : List Char} {sep c : Char}

/-- What the name of a scheme looks like. -/
def isScheme (cs : List Char) : Bool :=
  (cs.head?.map Char.isAlpha).getD false && cs.all isSchemeChar

/-- Line breaks and tabs are in no part of an address. -/
def isBreak (c : Char) : Bool := c = '\t' || c = '\r' || c = '\n'

/-- The path with its parameters. -/
def location (u : Url) : List Char := u.path ++ marked ';' u.params

/-- Whether slashes are written in front of the path. -/
def isSlashed (u : Url) : Bool :=
  !u.authority.isEmpty || withAuthority.contains (String.ofList u.scheme) ||
    u.location.take 2 = ['/', '/']

/-- Whether the path gets a slash of its own, to set it apart from the authority. -/
def getsSlash (u : Url) : Bool :=
  u.isSlashed && !u.location.isEmpty && u.location.head? ≠ some '/'

/-- The path as it is written. -/
def shownPath (u : Url) : List Char := if u.getsSlash then '/' :: u.path else u.path

/-- The path with its parameters as they are written. -/
def shownLocation (u : Url) : List Char := if u.getsSlash then '/' :: u.location else u.location

section Cuts

theorem cutOff_append (h : sep ∉ a) : cutOff sep (a ++ marked sep b) = (a, b) := by
  unfold marked
  cases b with
  | nil => simp [cutOff, Text.cutAt?_of_notMem h]
  | cons c b => simp [cutOff, Text.cutAt?_append h]

theorem cutOff_eq (sep : Char) (cs : List Char) :
    cs = (cutOff sep cs).1 ++ marked sep (cutOff sep cs).2 ∨
      cs = (cutOff sep cs).1 ++ [sep] ∧ (cutOff sep cs).2 = [] := by
  unfold cutOff
  cases hcut : Text.cutAt? sep cs with
  | none => simp [marked]
  | some parts =>
    obtain ⟨a, b⟩ := parts
    rw [Text.cutAt?_eq_some hcut]
    cases b <;> simp [marked]

theorem notMem_cutOff (sep : Char) (cs : List Char) : sep ∉ (cutOff sep cs).1 := by
  unfold cutOff
  cases hcut : Text.cutAt? sep cs with
  | none => exact Text.notMem_of_cutAt?_none hcut
  | some parts => exact Text.notMem_of_cutAt? hcut

theorem cutOff_start (sep : Char) (cs : List Char) : (cutOff sep cs).1 <+: cs := by
  rcases cutOff_eq sep cs with h | ⟨h, -⟩
  · exact ⟨_, h.symm⟩
  · exact ⟨_, h.symm⟩

theorem mem_of_mem_cutOff_snd (h : c ∈ (cutOff sep cs).2) : c ∈ cs := by
  rcases cutOff_eq sep cs with hcs | ⟨-, hnil⟩
  · rw [hcs]
    unfold marked
    split
    next hempty => simp [List.isEmpty_iff.mp hempty] at h
    next => exact List.mem_append_right _ (List.mem_cons_of_mem _ h)
  · simp [hnil] at h

theorem isScheme_eq_true : isScheme cs = true ↔
    (∃ c ∈ cs.head?, c.isAlpha = true) ∧ ∀ c ∈ cs, isSchemeChar c = true := by
  cases cs <;> simp [isScheme]

theorem notMem_of_isScheme (h : isScheme cs = true) (hc : isSchemeChar c = false) : c ∉ cs := by
  intro hmem
  rw [(isScheme_eq_true.mp h).2 c hmem] at hc
  exact Bool.noConfusion hc

theorem cutScheme_named (h : isScheme name = true) (rest : List Char) :
    cutScheme (name ++ ':' :: rest) = (name.map Char.toLower, rest) := by
  have hcut : Text.cutAt? ':' (name ++ ':' :: rest) = some (name, rest) :=
    Text.cutAt?_append (notMem_of_isScheme h (by decide))
  unfold isScheme at h
  simp only [cutScheme, hcut, h, if_true]

theorem cutScheme_unnamed (h : ∀ name rest, cs = name ++ ':' :: rest → isScheme name = false) :
    cutScheme cs = ([], cs) := by
  unfold cutScheme
  split
  next name rest hcut =>
    have hname := h name rest (Text.cutAt?_eq_some hcut)
    unfold isScheme at hname
    rw [hname]
    rfl
  next => rfl

theorem cutScheme_cases (cs : List Char) :
    (∃ name rest, isScheme name = true ∧ cs = name ++ ':' :: rest ∧
      cutScheme cs = (name.map Char.toLower, rest)) ∨
    (cutScheme cs = ([], cs) ∧ ∀ name rest, cs = name ++ ':' :: rest → isScheme name = false) := by
  by_cases h : ∃ name rest, cs = name ++ ':' :: rest ∧ isScheme name = true
  · obtain ⟨name, rest, hcs, hname⟩ := h
    left
    exact ⟨name, rest, hname, hcs, by rw [hcs, cutScheme_named hname]⟩
  · have hnone : ∀ name rest, cs = name ++ ':' :: rest → isScheme name = false := by
      intro name rest hcs
      rw [← Bool.not_eq_true]
      exact fun hname => h ⟨name, rest, hcs, hname⟩
    right
    exact ⟨cutScheme_unnamed hnone, hnone⟩

theorem cutAuthority_slashed (ha : ∀ c ∈ a, isDelimiter c = false)
    (hrest : ∀ c ∈ rest.head?, isDelimiter c = true) :
    cutAuthority ('/' :: '/' :: (a ++ rest)) = (a, rest) := by
  have htake : rest.takeWhile (!isDelimiter ·) = [] := by
    cases rest with
    | nil => rfl
    | cons d rest => simp [hrest d rfl]
  have hdrop : rest.dropWhile (!isDelimiter ·) = rest := by
    cases rest with
    | nil => rfl
    | cons d rest => simp [hrest d rfl]
  have hall : ∀ c ∈ a, (!isDelimiter c) = true := fun c hc => by simp [ha c hc]
  simp only [cutAuthority, List.takeWhile_append_of_pos hall, List.dropWhile_append_of_pos hall,
    htake, hdrop, List.append_nil]

theorem cutAuthority_plain (h : cs.take 2 ≠ ['/', '/']) : cutAuthority cs = ([], cs) := by
  unfold cutAuthority
  split
  next => simp at h
  next => rfl

theorem isDelimiter_of_mem_cutAuthority (h : c ∈ (cutAuthority cs).1) :
    isDelimiter c = false := by
  unfold cutAuthority at h
  split at h
  next => simpa using List.mem_takeWhile_imp h
  next => cases h

theorem cutAuthority_cases (cs : List Char) :
    (cs = '/' :: '/' :: ((cutAuthority cs).1 ++ (cutAuthority cs).2) ∧
      ∀ c ∈ (cutAuthority cs).2.head?, isDelimiter c = true) ∨
    cutAuthority cs = ([], cs) := by
  unfold cutAuthority
  split
  next rest =>
    left
    refine ⟨by rw [List.takeWhile_append_dropWhile], fun c hc => ?_⟩
    have hdrop := List.head?_dropWhile_not (!isDelimiter ·) rest
    rw [Option.mem_def.mp hc] at hdrop
    simpa using hdrop
  next =>
    right
    rfl

/-- A mark that no scheme has does not bring a scheme to the text before it. -/
theorem cutScheme_append (hb : ∀ c ∈ b.head?, isSchemeChar c = false ∧ c ≠ ':') (a : List Char) :
    cutScheme (a ++ b) = ((cutScheme a).1, (cutScheme a).2 ++ b) := by
  rcases cutScheme_cases a with ⟨name, rest, hname, rfl, hcut⟩ | ⟨hcut, hnone⟩
  · rw [hcut, List.append_assoc, List.cons_append, cutScheme_named hname]
  · rw [hcut]
    apply cutScheme_unnamed
    intro name rest htext
    rcases List.append_eq_append_iff.mp htext with ⟨more, hmore, hsplit⟩ | ⟨more, hmore, hsplit⟩
    · cases more with
      | nil =>
        have hhead : ':' ∈ b.head? := by simp [hsplit]
        exact absurd rfl (hb ':' hhead).2
      | cons d more =>
        have hhead : d ∈ b.head? := by simp [hsplit]
        have hmem : d ∈ name := by simp [hmore]
        rw [← Bool.not_eq_true]
        exact fun hname => notMem_of_isScheme hname (hb d hhead).1 hmem
    · cases more with
      | nil =>
        have hhead : ':' ∈ b.head? := by simpa using (congrArg List.head? hsplit).symm
        exact absurd rfl (hb ':' hhead).2
      | cons d more =>
        cases hsplit
        exact hnone name more hmore

theorem take_two_append (hb : ∀ c ∈ b.head?, c ≠ '/') (h : (a ++ b).take 2 = ['/', '/']) :
    a.take 2 = ['/', '/'] := by
  have hhead : ∀ tail, b ≠ '/' :: tail := by
    rintro tail rfl
    exact hb '/' rfl rfl
  rcases a with _ | ⟨x, _ | ⟨y, a⟩⟩
  · rcases b with _ | ⟨d, b⟩
    · simp at h
    · simp only [List.nil_append, List.take_succ_cons, List.cons.injEq] at h
      exact absurd (h.1 ▸ rfl) (hhead b)
  · rcases b with _ | ⟨d, b⟩
    · simp at h
    · simp only [List.cons_append, List.nil_append, List.take_succ_cons, List.cons.injEq] at h
      exact absurd (h.2.1 ▸ rfl) (hhead b)
  · simpa using h

/-- What a delimiter starts that is no slash goes to what follows the authority. -/
theorem cutAuthority_append (hb : ∀ c ∈ b.head?, isDelimiter c = true ∧ c ≠ '/') (a : List Char) :
    cutAuthority (a ++ b) = ((cutAuthority a).1, (cutAuthority a).2 ++ b) := by
  by_cases hslashed : a.take 2 = ['/', '/']
  · obtain ⟨rest, rfl⟩ : ∃ rest, a = '/' :: '/' :: rest := by
      rcases a with _ | ⟨x, _ | ⟨y, rest⟩⟩ <;> simp_all
    have hall : ∀ c ∈ rest.takeWhile (!isDelimiter ·), isDelimiter c = false :=
      fun c hc => by simpa using List.mem_takeWhile_imp hc
    have hhead : ∀ c ∈ (rest.dropWhile (!isDelimiter ·) ++ b).head?, isDelimiter c = true := by
      intro c hc
      rw [List.head?_append] at hc
      have hdrop := List.head?_dropWhile_not (!isDelimiter ·) rest
      cases hrest : (rest.dropWhile (!isDelimiter ·)).head? with
      | none =>
        rw [hrest] at hc
        exact (hb c hc).1
      | some d =>
        rw [hrest] at hc hdrop
        cases hc
        simpa using hdrop
    have hcut := cutAuthority_slashed hall hhead
    rwa [← List.append_assoc, List.takeWhile_append_dropWhile] at hcut
  · have hlong : (a ++ b).take 2 ≠ ['/', '/'] :=
      fun htake => hslashed (take_two_append (fun c hc => (hb c hc).2) htake)
    rw [cutAuthority_plain hslashed, cutAuthority_plain hlong]

/-- Parameters are cut off within the last segment. -/
theorem cutParams_append {segments : List Char} (hlast : '/' ∉ a)
    (hsegments : segments = [] ∨ ∃ before, segments = before ++ ['/']) :
    cutParams (segments ++ a) = (segments ++ (cutOff ';' a).1, (cutOff ';' a).2) := by
  rcases hsegments with rfl | ⟨before, rfl⟩
  · simp [cutParams, Text.cutAtLast?_of_notMem hlast]
  · rw [List.append_assoc, List.singleton_append, cutParams, Text.cutAtLast?_append hlast]
    cases hcut : Text.cutAt? ';' a <;> simp [cutOff, hcut]

theorem exists_segments (cs : List Char) :
    ∃ segments a, cs = segments ++ a ∧ '/' ∉ a ∧
      (segments = [] ∨ ∃ before, segments = before ++ ['/']) := by
  cases hlast : Text.cutAtLast? '/' cs with
  | none => exact ⟨[], cs, rfl, Text.notMem_of_cutAtLast?_none hlast, .inl rfl⟩
  | some parts =>
    obtain ⟨before, last⟩ := parts
    have hcs := Text.cutAtLast?_eq_some hlast
    exact ⟨before ++ ['/'], last, by simp [hcs], Text.notMem_of_cutAtLast? hlast,
      .inr ⟨before, rfl⟩⟩

/-- What is lost is at most a semicolon without parameters. -/
theorem cutParams_start (cs : List Char) :
    (cutParams cs).1 ++ marked ';' (cutParams cs).2 <+: cs := by
  obtain ⟨segments, a, rfl, ha, hsegments⟩ := exists_segments cs
  rw [cutParams_append ha hsegments]
  rcases cutOff_eq ';' a with hcut | ⟨hcut, hnil⟩
  · rw [List.append_assoc, ← hcut]
  · have hshort : marked ';' (cutOff ';' a).2 = [] := by rw [hnil]; rfl
    exact ⟨[';'], by rw [hshort, List.append_nil, List.append_assoc, ← hcut]⟩

theorem cutParams_idem (cs : List Char) :
    cutParams ((cutParams cs).1 ++ marked ';' (cutParams cs).2) = cutParams cs := by
  obtain ⟨segments, a, rfl, ha, hsegments⟩ := exists_segments cs
  have hstart := cutOff_start ';' a
  have hlast : '/' ∉ (cutOff ';' a).1 ++ marked ';' (cutOff ';' a).2 := by
    rcases cutOff_eq ';' a with hcut | ⟨hcut, hnil⟩
    · rwa [← hcut]
    · simpa [hnil, marked] using fun hmem => ha (hstart.subset hmem)
  rw [cutParams_append ha hsegments, List.append_assoc, cutParams_append hlast hsegments,
    cutOff_append (notMem_cutOff ';' a)]

theorem cutParams_slash (cs : List Char) :
    cutParams ('/' :: cs) = ('/' :: (cutParams cs).1, (cutParams cs).2) := by
  obtain ⟨segments, a, rfl, ha, hsegments⟩ := exists_segments cs
  have hslash : '/' :: segments = [] ∨ ∃ before, '/' :: segments = before ++ ['/'] := by
    rcases hsegments with rfl | ⟨before, rfl⟩
    · exact .inr ⟨[], rfl⟩
    · exact .inr ⟨'/' :: before, rfl⟩
  rw [← List.cons_append, cutParams_append ha hslash, cutParams_append ha hsegments,
    List.cons_append]

end Cuts

section Clean

theorem isBreak_of_mem_clean (h : c ∈ clean cs) : isBreak c = false := by
  have hkept := (List.mem_filter.mp h).2
  simpa [isBreak, and_assoc] using hkept

theorem head?_clean (h : c ∈ (clean cs).head?) : 32 < c.toNat := by
  unfold clean at h
  have hfirst := List.head?_dropWhile_not (fun c : Char => decide (c.toNat ≤ 32)) cs
  cases hdrop : cs.dropWhile fun c => c.toNat ≤ 32 with
  | nil => simp [hdrop] at h
  | cons d rest =>
    rw [hdrop] at h hfirst
    have hd : 32 < d.toNat := by simpa using hfirst
    have hbreak : ∀ b : Char, b.toNat ≤ 32 → d ≠ b := by
      intro b hb heq
      rw [heq] at hd
      omega
    rw [List.filter_cons] at h
    simp only [ne_eq, decide_not, hbreak '\t' (by decide), hbreak '\r' (by decide),
      hbreak '\n' (by decide), decide_false, Bool.not_false, Bool.and_self, if_true,
      List.head?_cons, Option.mem_some_iff] at h
    exact h ▸ hd

theorem clean_of_unbroken (hfront : ∀ c ∈ cs.head?, 32 < c.toNat)
    (h : ∀ c ∈ cs, isBreak c = false) : clean cs = cs := by
  have hdrop : cs.dropWhile (fun c => decide (c.toNat ≤ 32)) = cs := by
    cases cs with
    | nil => rfl
    | cons c cs => simp [hfront c rfl]
  unfold clean
  rw [hdrop, List.filter_eq_self]
  intro c hc
  simpa [isBreak, and_assoc] using h c hc

end Clean

theorem toLower_of_isDigit (h : c.isDigit = true) : c.toLower = c := by
  unfold Char.toLower
  split
  next hupper =>
    simp only [Char.isDigit, Bool.and_eq_true, decide_eq_true_eq] at h
    have hfirst : 65 ≤ c.val.toNat := hupper.1
    have hlast : c.val.toNat ≤ 57 := h.2
    omega
  next => rfl

theorem isSchemeChar_toLower (h : isSchemeChar c = true) : isSchemeChar c.toLower = true := by
  unfold isSchemeChar at h
  simp only [Bool.or_eq_true, Char.isAlphanum, decide_eq_true_eq] at h
  rcases h with (((halpha | hdigit) | rfl) | rfl) | rfl
  · simp [isSchemeChar, Char.isAlphanum, Char.isAlpha_toLower_eq_isAlpha, halpha]
  · simp [isSchemeChar, Char.isAlphanum, toLower_of_isDigit hdigit, hdigit]
  · decide
  · decide
  · decide

theorem isScheme_toLower (h : isScheme name = true) : isScheme (name.map Char.toLower) = true := by
  obtain ⟨⟨c, hc, halpha⟩, hall⟩ := isScheme_eq_true.mp h
  refine isScheme_eq_true.mpr ⟨⟨c.toLower, ?_, by rwa [Char.isAlpha_toLower_eq_isAlpha]⟩, ?_⟩
  · simp [Option.mem_def.mp hc]
  · intro d hd
    obtain ⟨e, he, rfl⟩ := List.mem_map.mp hd
    exact isSchemeChar_toLower (hall e he)

theorem isBreak_of_isSchemeChar (h : isSchemeChar c = true) : isBreak c = false := by
  rw [← Bool.not_eq_true]
  intro hbreak
  simp only [isBreak, Bool.or_eq_true, decide_eq_true_eq] at hbreak
  rcases hbreak with (rfl | rfl) | rfl <;> exact absurd h (by decide)

theorem not_isSchemeChar_of_le : ∀ n ≤ 32, isSchemeChar (Char.ofNat n) = false := by decide

theorem lt_of_isSchemeChar (h : isSchemeChar c = true) : 32 < c.toNat := by
  by_contra hle
  rw [← Char.ofNat_toNat c, not_isSchemeChar_of_le c.toNat (Nat.le_of_not_lt hle)] at h
  exact Bool.noConfusion h

theorem mem_head?_of_start (h : a <+: b) (hc : c ∈ a.head?) : c ∈ b.head? := by
  obtain ⟨t, rfl⟩ := h
  cases a with
  | nil => cases hc
  | cons d a => exact hc

/-- What follows the authority. -/
def restOf (cs : List Char) : List Char := (cutAuthority (cutScheme cs).2).2

/-- What stands between authority and query. -/
def locationOf (cs : List Char) : List Char := (cutOff '?' (cutOff '#' (restOf cs)).1).1

/-- The path of a location, and its parameters if the scheme has them. -/
def pathOf (scheme location : List Char) : List Char × List Char :=
  if withParams.contains (String.ofList scheme) then cutParams location else (location, [])

/-- The parts of a text, whatever its authority is like. -/
def ofText (cs : List Char) : Url where
  scheme := (cutScheme cs).1
  authority := (cutAuthority (cutScheme cs).2).1
  path := (pathOf (cutScheme cs).1 (locationOf cs)).1
  params := (pathOf (cutScheme cs).1 (locationOf cs)).2
  query := (cutOff '?' (cutOff '#' (restOf cs)).1).2
  fragment := (cutOff '#' (restOf cs)).2

theorem parse_eq_ok {s : String} : parse s = .ok u ↔ u = ofText (clean s.toList) ∧
    ((authorityFault? u.authority).orElse fun _ => disguiseFault? u.authority) = none := by
  constructor
  · intro h
    unfold parse at h
    dsimp only at h
    split at h
    · cases h
    next hsound =>
      cases h
      exact ⟨rfl, hsound⟩
  · rintro ⟨rfl, hsound⟩
    unfold parse
    dsimp only [ofText] at hsound ⊢
    rw [hsound]
    rfl

theorem pathOf_start (scheme cs : List Char) :
    (pathOf scheme cs).1 ++ marked ';' (pathOf scheme cs).2 <+: cs := by
  unfold pathOf
  split
  · exact cutParams_start cs
  · simp [marked]

theorem pathOf_idem (scheme cs : List Char) :
    pathOf scheme ((pathOf scheme cs).1 ++ marked ';' (pathOf scheme cs).2) = pathOf scheme cs := by
  unfold pathOf
  split
  · exact cutParams_idem cs
  · simp [marked]

theorem pathOf_slash (scheme cs : List Char) :
    pathOf scheme ('/' :: cs) = ('/' :: (pathOf scheme cs).1, (pathOf scheme cs).2) := by
  unfold pathOf
  split
  · exact cutParams_slash cs
  · rfl

theorem location_ofText (cs : List Char) : (ofText cs).location <+: locationOf cs :=
  pathOf_start _ _

theorem locationOf_start (cs : List Char) : locationOf cs <+: restOf cs :=
  (cutOff_start _ _).trans (cutOff_start _ _)

theorem mem_of_mem_cutAuthority (h : c ∈ (cutAuthority cs).1 ++ (cutAuthority cs).2) : c ∈ cs := by
  rcases cutAuthority_cases cs with ⟨hcs, -⟩ | hcs
  · rw [hcs]
    exact List.mem_cons_of_mem _ (List.mem_cons_of_mem _ h)
  · simpa [hcs] using h

theorem mem_of_mem_cutScheme (h : c ∈ (cutScheme cs).2) : c ∈ cs := by
  rcases cutScheme_cases cs with ⟨name, rest, -, hcs, hcut⟩ | ⟨hcut, -⟩
  · rw [hcut] at h
    rw [hcs]
    exact List.mem_append_right _ (List.mem_cons_of_mem _ h)
  · rwa [hcut] at h

theorem mem_of_mem_restOf (h : c ∈ restOf cs) : c ∈ cs :=
  mem_of_mem_cutScheme (mem_of_mem_cutAuthority (List.mem_append_right _ h))

theorem notMem_locationOf (cs : List Char) : '?' ∉ locationOf cs ∧ '#' ∉ locationOf cs :=
  ⟨notMem_cutOff _ _, fun hmem => notMem_cutOff _ _ (mem_of_mem_cutOff hmem)⟩

theorem head?_location (h : ∀ c ∈ (restOf cs).head?, isDelimiter c = true) :
    ∀ c ∈ (ofText cs).location.head?, c = '/' := by
  intro c hc
  have hlocation : c ∈ locationOf cs :=
    (location_ofText cs).subset (List.mem_of_mem_head? hc)
  have hdelim := h c (mem_head?_of_start ((location_ofText cs).trans (locationOf_start cs)) hc)
  simp only [isDelimiter, Bool.or_eq_true, decide_eq_true_eq] at hdelim
  rcases hdelim with (rfl | rfl) | rfl
  · rfl
  · exact absurd hlocation (notMem_locationOf cs).1
  · exact absurd hlocation (notMem_locationOf cs).2

/-- With neither scheme nor authority, a location starts where the address does, or at a slash. -/
theorem location_of_nil (hs : (ofText cs).scheme = []) :
    ((ofText cs).location <+: cs ∧ ∀ name rest, cs = name ++ ':' :: rest → isScheme name = false) ∨
      ∀ c ∈ (ofText cs).location.head?, c = '/' := by
  have hlocation := (location_ofText cs).trans (locationOf_start cs)
  rcases cutScheme_cases cs with ⟨name, rest, hname, -, hcut⟩ | ⟨hcut, hnone⟩
  · have hnil : name = [] := by simpa [ofText, hcut] using hs
    rw [hnil] at hname
    exact absurd hname (by decide)
  · rcases cutAuthority_cases cs with ⟨-, hhead⟩ | hplain
    · right
      exact head?_location (by rwa [restOf, hcut])
    · left
      rw [restOf, hcut, hplain] at hlocation
      exact ⟨hlocation, hnone⟩

/-- What the parts of an address are like that has been taken apart. -/
structure Proper (u : Url) : Prop where
  unbroken : ∀ c ∈ u.scheme ++ u.authority ++ u.location ++ u.query ++ u.fragment,
    isBreak c = false
  scheme : u.scheme = [] ∨ isScheme u.scheme = true ∧ u.scheme.map Char.toLower = u.scheme
  unnamed : u.scheme = [] → ∀ name rest, u.location = name ++ ':' :: rest → isScheme name = false
  front : u.scheme = [] → ∀ c ∈ u.location.head?, 32 < c.toNat
  authority : ∀ c ∈ u.authority, isDelimiter c = false
  rooted : u.authority ≠ [] → ∀ c ∈ u.location.head?, c = '/'
  sound : ((authorityFault? u.authority).orElse fun _ => disguiseFault? u.authority) = none
  location : ∀ c ∈ u.location, c ≠ '?' ∧ c ≠ '#'
  params : pathOf u.scheme u.location = (u.path, u.params)
  query : '#' ∉ u.query

theorem isScheme_of_head?_slash (h : ∀ c ∈ (name ++ ':' :: rest).head?, c = '/') :
    isScheme name = false := by
  rw [← Bool.not_eq_true]
  intro hname
  obtain ⟨⟨c, hc, halpha⟩, -⟩ := isScheme_eq_true.mp hname
  rw [h c (mem_head?_of_start (List.prefix_append name _) hc)] at halpha
  exact absurd halpha (by decide)

/-- No part of a text without breaks has one. -/
theorem isBreak_ofText (h : ∀ c ∈ cs, isBreak c = false) :
    ∀ c ∈ (ofText cs).scheme ++ (ofText cs).authority ++ (ofText cs).location ++
      (ofText cs).query ++ (ofText cs).fragment, isBreak c = false := by
  have hrest : ∀ c ∈ restOf cs, isBreak c = false := fun c hc => h c (mem_of_mem_restOf hc)
  intro c hc
  simp only [List.mem_append] at hc
  rcases hc with (((hc | hc) | hc) | hc) | hc
  · rcases cutScheme_cases cs with ⟨name, rest, hname, -, hcut⟩ | ⟨hcut, -⟩
    · rw [ofText, hcut] at hc
      exact isBreak_of_isSchemeChar ((isScheme_eq_true.mp (isScheme_toLower hname)).2 c hc)
    · rw [ofText, hcut] at hc
      cases hc
  · exact h c (mem_of_mem_cutScheme (mem_of_mem_cutAuthority (List.mem_append_left _ hc)))
  · exact hrest c (((location_ofText cs).trans (locationOf_start cs)).subset hc)
  · exact hrest c (mem_of_mem_cutOff (mem_of_mem_cutOff_snd hc))
  · exact hrest c (mem_of_mem_cutOff_snd hc)

theorem proper_ofText (hfront : ∀ c ∈ cs.head?, 32 < c.toNat) (h : ∀ c ∈ cs, isBreak c = false)
    (hsound : ((authorityFault? (ofText cs).authority).orElse
      fun _ => disguiseFault? (ofText cs).authority) = none) : (ofText cs).Proper where
  unbroken := isBreak_ofText h
  scheme := by
    rcases cutScheme_cases cs with ⟨name, rest, hname, -, hcut⟩ | ⟨hcut, -⟩
    · right
      simp [ofText, hcut, isScheme_toLower hname, Function.comp_def]
    · left
      rw [ofText, hcut]
  unnamed := by
    intro hs name rest hlocation
    rcases location_of_nil hs with ⟨hstart, hnone⟩ | hslash
    · obtain ⟨more, hcs⟩ := hstart
      exact hnone name (rest ++ more) (by rw [← hcs, hlocation, List.append_assoc]; rfl)
    · exact isScheme_of_head?_slash (hlocation ▸ hslash)
  front := by
    intro hs c hc
    rcases location_of_nil hs with ⟨hstart, -⟩ | hslash
    · exact hfront c (mem_head?_of_start hstart hc)
    · rw [hslash c hc]
      decide
  authority := fun c hc => isDelimiter_of_mem_cutAuthority hc
  rooted := by
    intro ha
    rcases cutAuthority_cases (cutScheme cs).2 with ⟨-, hhead⟩ | hplain
    · exact head?_location hhead
    · exact absurd (by rw [ofText, hplain]) ha
  sound := hsound
  location := by
    intro c hc
    have hmem := (location_ofText cs).subset hc
    constructor
    · rintro rfl
      exact (notMem_locationOf cs).1 hmem
    · rintro rfl
      exact (notMem_locationOf cs).2 hmem
  params := pathOf_idem _ _
  query := fun hmem => notMem_cutOff _ _ (mem_of_mem_cutOff_snd hmem)

/-- What has been taken apart is proper. -/
theorem proper_of_parse {s : String} (h : parse s = .ok u) : u.Proper := by
  obtain ⟨rfl, hsound⟩ := parse_eq_ok.mp h
  exact proper_ofText (fun c => head?_clean) (fun c => isBreak_of_mem_clean) hsound

section Render

/-- What is written for authority and path. -/
def body (u : Url) : List Char :=
  if u.isSlashed then '/' :: '/' :: (u.authority ++ u.shownLocation) else u.location

/-- What is written for query and fragment. -/
def trailer (u : Url) : List Char := marked '?' u.query ++ marked '#' u.fragment

theorem renderChars_eq (u : Url) :
    u.renderChars = (if u.scheme.isEmpty then u.body else u.scheme ++ ':' :: u.body) ++
      u.trailer := by
  have hbody : u.body = if u.isSlashed then
      '/' :: '/' :: u.authority ++ (if u.location.isEmpty || u.location.head? = some '/'
        then u.location else '/' :: u.location) else u.location := by
    unfold body shownLocation getsSlash
    cases u.isSlashed <;> cases u.location.isEmpty <;> by_cases hhead : u.location.head? = some '/'
    all_goals simp [hhead]
  rw [hbody, trailer, ← List.append_assoc]
  rfl

theorem mem_marked {mark : Char} (h : c ∈ marked mark cs) : c = mark ∨ c ∈ cs := by
  unfold marked at h
  split at h
  · cases h
  · exact List.mem_cons.mp h

theorem mem_renderChars (h : c ∈ u.renderChars) : c ∈ ['/', ':', '?', '#'] ∨
    c ∈ u.scheme ++ u.authority ++ u.location ++ u.query ++ u.fragment := by
  have hshown : c ∈ u.shownLocation → c = '/' ∨ c ∈ u.location := by
    intro hc
    unfold shownLocation at hc
    split at hc
    · exact List.mem_cons.mp hc
    · exact .inr hc
  have hbody : c ∈ u.body → c = '/' ∨ c ∈ u.authority ∨ c ∈ u.location := by
    intro hc
    unfold body at hc
    split at hc
    · simp only [List.mem_cons, List.mem_append] at hc
      grind
    · exact .inr (.inr hc)
  have htrailer : c ∈ u.trailer → (c = '?' ∨ c ∈ u.query) ∨ c = '#' ∨ c ∈ u.fragment := by
    intro hc
    exact (List.mem_append.mp hc).imp mem_marked mem_marked
  rw [renderChars_eq, List.mem_append] at h
  simp only [List.mem_append, List.mem_cons, List.not_mem_nil, or_false]
  split at h
  · grind
  · simp only [List.mem_append, List.mem_cons] at h
    grind

theorem head?_trailer (h : c ∈ u.trailer.head?) : c = '?' ∨ c = '#' := by
  unfold trailer marked at h
  cases hq : u.query with
  | cons d q =>
    rw [hq] at h
    left
    simpa using h.symm
  | nil =>
    cases hf : u.fragment with
    | cons d f =>
      rw [hq, hf] at h
      right
      simpa using h.symm
    | nil => simp [hq, hf] at h

theorem head?_shownLocation (hslashed : u.isSlashed = true) (h : c ∈ u.shownLocation.head?) :
    c = '/' := by
  unfold shownLocation at h
  split at h
  next => simpa using h.symm
  next hgets =>
    have hhead : u.location ≠ [] → u.location.head? = some '/' := by
      simpa [getsSlash, hslashed] using hgets
    cases hloc : u.location with
    | nil => simp [hloc] at h
    | cons d location =>
      have hd := hhead (by simp [hloc])
      rw [Option.mem_def.mp h] at hd
      exact Option.some.inj hd

theorem Proper.cutScheme_render (h : u.Proper) :
    cutScheme u.renderChars = (u.scheme, u.body ++ u.trailer) := by
  rw [renderChars_eq]
  rcases h.scheme with hnil | ⟨hname, hlower⟩
  · have hmarks : ∀ c ∈ u.trailer.head?, isSchemeChar c = false ∧ c ≠ ':' := by
      intro c hc
      rcases head?_trailer hc with rfl | rfl <;> decide
    have hbody : cutScheme u.body = ([], u.body) := by
      apply cutScheme_unnamed
      intro name rest htext
      cases hslashed : u.isSlashed with
      | true =>
        have hhead : ∀ c ∈ (name ++ ':' :: rest).head?, c = '/' := by
          rw [← htext, body, if_pos hslashed]
          simp
        exact isScheme_of_head?_slash hhead
      | false =>
        rw [body, hslashed, if_neg Bool.false_ne_true] at htext
        exact h.unnamed hnil name rest htext
    rw [hnil, List.isEmpty_nil, if_pos rfl, cutScheme_append hmarks, hbody]
  · have hne : u.scheme.isEmpty = false := by
      obtain ⟨⟨c, hc, -⟩, -⟩ := isScheme_eq_true.mp hname
      cases hs : u.scheme with
      | nil => simp [hs] at hc
      | cons d s => rfl
    rw [hne, if_neg Bool.false_ne_true, List.append_assoc, List.cons_append,
      cutScheme_named hname, hlower]

theorem Proper.cutAuthority_render (h : u.Proper) :
    cutAuthority (u.body ++ u.trailer) = (u.authority, u.shownLocation ++ u.trailer) := by
  cases hslashed : u.isSlashed with
  | true =>
    rw [body, if_pos hslashed, List.cons_append, List.cons_append, List.append_assoc]
    apply cutAuthority_slashed h.authority
    intro c hc
    rw [List.head?_append] at hc
    cases hhead : u.shownLocation.head? with
    | some d =>
      rw [hhead] at hc
      cases hc
      rw [head?_shownLocation hslashed hhead]
      rfl
    | none =>
      rw [hhead] at hc
      rcases head?_trailer hc with rfl | rfl <;> rfl
  | false =>
    have hgets : u.getsSlash = false := by simp [getsSlash, hslashed]
    have hnot := hslashed
    simp only [isSlashed, Bool.or_eq_false_iff, Bool.not_eq_false', List.isEmpty_iff,
      decide_eq_false_iff_not] at hslashed
    have hmarks : ∀ c ∈ u.trailer.head?, c ≠ '/' := by
      intro c hc
      rcases head?_trailer hc with rfl | rfl <;> decide
    have htake : (u.location ++ u.trailer).take 2 ≠ ['/', '/'] :=
      fun htake => hslashed.2 (take_two_append hmarks htake)
    have hbody : u.body = u.location := by rw [body, hnot, if_neg Bool.false_ne_true]
    have hshown : u.shownLocation = u.location := by
      rw [shownLocation, hgets, if_neg Bool.false_ne_true]
    rw [hbody, hshown, hslashed.1.1]
    exact cutAuthority_plain htake

theorem Proper.clean_render (h : u.Proper) : clean u.renderChars = u.renderChars := by
  have hfront : ∀ c ∈ u.renderChars.head?, 32 < c.toNat := by
    intro c hc
    rw [renderChars_eq, List.head?_append] at hc
    rcases Option.or_eq_some_iff.mp hc with hhead | ⟨-, htail⟩
    · split at hhead
      next hnil =>
        unfold body at hhead
        split at hhead
        · cases hhead
          decide
        · exact h.front (List.isEmpty_iff.mp hnil) c hhead
      next hne =>
        obtain ⟨d, more, hscheme⟩ := List.exists_cons_of_ne_nil (mt List.isEmpty_iff.mpr hne)
        have hname := (h.scheme.resolve_left (by simp [hscheme])).1
        rw [hscheme] at hhead hname
        cases hhead
        exact lt_of_isSchemeChar ((isScheme_eq_true.mp hname).2 _ List.mem_cons_self)
    · rcases head?_trailer htail with rfl | rfl <;> decide
  apply clean_of_unbroken hfront
  intro c hc
  rcases mem_renderChars hc with hconst | hpart
  · simp only [List.mem_cons, List.not_mem_nil, or_false] at hconst
    rcases hconst with rfl | rfl | rfl | rfl <;> decide
  · exact h.unbroken c hpart

theorem Proper.restOf_render (h : u.Proper) :
    restOf u.renderChars = u.shownLocation ++ marked '?' u.query ++ marked '#' u.fragment := by
  rw [restOf, h.cutScheme_render, h.cutAuthority_render, trailer, List.append_assoc]

theorem Proper.ofText_render (h : u.Proper) :
    ofText u.renderChars = { u with path := u.shownPath } := by
  have hshown : ∀ c ∈ u.shownLocation, c ≠ '?' ∧ c ≠ '#' := by
    intro c hc
    unfold shownLocation at hc
    split at hc
    · rcases List.mem_cons.mp hc with rfl | hmem
      · decide
      · exact h.location c hmem
    · exact h.location c hc
  have hsharp : '#' ∉ u.shownLocation ++ marked '?' u.query := by
    intro hmem
    rcases List.mem_append.mp hmem with hloc | hmarked
    · exact (hshown _ hloc).2 rfl
    · rcases mem_marked hmarked with heq | hquery
      · exact absurd heq (by decide)
      · exact h.query hquery
  have hmark : '?' ∉ u.shownLocation := fun hmem => (hshown _ hmem).1 rfl
  have hpath : pathOf u.scheme u.shownLocation = (u.shownPath, u.params) := by
    unfold shownLocation shownPath
    split
    · rw [pathOf_slash, h.params]
    · exact h.params
  simp only [ofText, locationOf, h.restOf_render, cutOff_append hsharp, cutOff_append hmark,
    h.cutScheme_render, h.cutAuthority_render, hpath]

/-- What is taken apart again has the parts it had, with the path as it is written. -/
theorem Proper.parse_render (h : u.Proper) :
    parse u.render = .ok { u with path := u.shownPath } := by
  rw [parse_eq_ok, render, String.toList_ofList, h.clean_render, h.ofText_render]
  exact ⟨rfl, h.sound⟩

end Render

end Url

end Gleaner
