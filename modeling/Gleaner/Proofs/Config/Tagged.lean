import Gleaner.Proofs.Config.Duplicates
import Gleaner.Proofs.Url.Spelling

/-! Links with tracking parameters behind them. Such a link has the normal form that a slash behind
it would give it: the slash at the end is dropped before the parameters are. A link that ends in no
slash has that normal form itself. -/

namespace Gleaner

namespace Text

variable {sep : Char} {a b cs : List Char}

theorem splitAt_eq_splitOn (sep : Char) (cs : List Char) : splitAt sep cs = cs.splitOn sep := by
  induction cs with
  | nil => rfl
  | cons c cs ih =>
    rw [splitAt, List.splitOn_cons_eq_if_modifyHead, ih]
    by_cases hc : c = sep
    · simp [hc]
    · rw [if_neg hc, if_neg (by simpa using hc)]
      cases hsplit : cs.splitOn sep with
      | nil => exact absurd hsplit (List.splitOn_ne_nil sep cs)
      | cons part parts => rfl

theorem splitAt_append_cons (sep : Char) (a b : List Char) :
    splitAt sep (a ++ sep :: b) = splitAt sep a ++ splitAt sep b := by
  simp only [splitAt_eq_splitOn, List.splitOn_append_cons_self]

theorem splitAt_filter {p : Char → Bool} (hsep : p sep = true) (cs : List Char) :
    splitAt sep (cs.filter p) = (splitAt sep cs).map (List.filter p) := by
  induction cs with
  | nil => rfl
  | cons c cs ih =>
    by_cases hc : c = sep
    · subst hc
      rw [List.filter_cons_of_pos hsep, splitAt, if_pos rfl, ih, splitAt, if_pos rfl]
      rfl
    · have hne : splitAt sep cs ≠ [] := by
        rw [splitAt_eq_splitOn]
        exact List.splitOn_ne_nil sep cs
      obtain ⟨part, parts, hparts⟩ := List.exists_cons_of_ne_nil hne
      rw [hparts, List.map_cons] at ih
      rw [splitAt, if_neg hc, hparts]
      cases hp : p c with
      | true =>
        rw [List.filter_cons_of_pos hp, splitAt, if_neg hc, ih]
        simp [hp]
      | false =>
        rw [List.filter_cons_of_neg (by simp [hp]), ih]
        simp [hp]

/-- What is put behind a text goes to its last part. -/
theorem exists_splitAt_append (sep : Char) (a : List Char) :
    ∃ parts last, ∀ b, sep ∉ b → splitAt sep (a ++ b) = parts ++ [last ++ b] := by
  cases hcut : cutAtLast? sep a with
  | none =>
    refine ⟨[], a, fun b hb => splitAt_of_notMem ?_⟩
    have ha := notMem_of_cutAtLast?_none hcut
    simp [ha, hb]
  | some parts =>
    obtain ⟨before, last⟩ := parts
    refine ⟨splitAt sep before, last, fun b hb => ?_⟩
    have hlast := notMem_of_cutAtLast? hcut
    have hnone : sep ∉ last ++ b := by simp [hlast, hb]
    rw [cutAtLast?_eq_some hcut, List.append_assoc, List.cons_append, splitAt_append_cons,
      splitAt_of_notMem hnone]

end Text

namespace Url

variable {u : Url} {s : String} {cs a b t q field : List Char} {tags : List String} {sep : Char}

section Tags

/-- A field of a query whose name only tracks. -/
def IsTag (field : List Char) : Prop := isTracking (readForm (cutOff '=' field).1) = true

instance (field : List Char) : Decidable (IsTag field) := inferInstanceAs (Decidable (_ = true))

/-- A query of fields that only track. -/
def OnlyTags (query : List Char) : Prop := ∀ field ∈ Text.splitAt '&' query, IsTag field

theorem cutOff_fst_append (ha : sep ∉ a) (b : List Char) :
    (cutOff sep (a ++ b)).1 = a ++ (cutOff sep b).1 := by
  unfold cutOff
  cases hcut : Text.cutAt? sep b with
  | none =>
    have hb := Text.notMem_of_cutAt?_none hcut
    have hnone : sep ∉ a ++ b := by simp [ha, hb]
    simp [Text.cutAt?_of_notMem hnone]
  | some parts =>
    obtain ⟨first, second⟩ := parts
    have hfirst := Text.notMem_of_cutAt? hcut
    have hnone : sep ∉ a ++ first := by simp [ha, hfirst]
    rw [Text.cutAt?_eq_some hcut, ← List.append_assoc, Text.cutAt?_append hnone]
    rfl

theorem isTag_iff : IsTag field ↔
    ∃ spelled rest, field = spelled ++ rest ∧ Spells trackingStart spelled := by
  rw [IsTag, isTracking_readForm]
  constructor
  · rintro ⟨spelled, rest, hname, hspells⟩
    obtain ⟨more, hfield⟩ := cutOff_start '=' field
    exact ⟨spelled, rest ++ more, by rw [← hfield, hname, List.append_assoc], hspells⟩
  · rintro ⟨spelled, rest, rfl, hspells⟩
    have hequal : '=' ∉ spelled := notMem_of_spells hspells (by decide)
    exact ⟨spelled, _, cutOff_fst_append hequal rest, hspells⟩

/-- Tags stay tags without line breaks and tabs. -/
theorem OnlyTags.unbroken (h : OnlyTags t) : OnlyTags (t.filter (!isBreak ·)) := by
  intro field hfield
  rw [Text.splitAt_filter (by decide)] at hfield
  obtain ⟨whole, hwhole, rfl⟩ := List.mem_map.mp hfield
  obtain ⟨spelled, rest, rfl, hspells⟩ := isTag_iff.mp (h whole hwhole)
  have hsame : spelled.filter (!isBreak ·) = spelled := by
    rw [List.filter_eq_self]
    intro c hc
    rw [Bool.not_eq_true', ← Bool.not_eq_true]
    intro hbreak
    simp only [isBreak, Bool.or_eq_true, decide_eq_true_eq] at hbreak
    rcases hbreak with (rfl | rfl) | rfl <;> exact notMem_of_spells hspells (by decide) hc
  exact isTag_iff.mpr ⟨spelled, _, by rw [List.filter_append, hsame], hspells⟩

theorem dropEndSlash_cases (cs : List Char) : dropEndSlash cs = cs ∨
    ∃ front back, cs = front ++ '/' :: back ∧ dropEndSlash cs = front ++ back ∧ '&' ∉ back := by
  unfold dropEndSlash
  split
  next r hr =>
    right
    exact ⟨r.reverse, [], by rw [← List.reverse_reverse cs, hr]; simp, by simp, by simp⟩
  next r hr =>
    right
    exact ⟨r.reverse, ['\n'], by rw [← List.reverse_reverse cs, hr]; simp, by simp, by decide⟩
  next => exact .inl rfl

theorem mem_of_mem_dropEndSlash {c : Char} (h : c ∈ dropEndSlash cs) : c ∈ cs := by
  rcases dropEndSlash_cases cs with hsame | ⟨front, back, rfl, hdrop, -⟩
  · rwa [hsame] at h
  · rw [hdrop] at h
    simp only [List.mem_append, List.mem_cons] at h ⊢
    tauto

/-- Tags stay tags without a slash at the end, which is behind the start of their names. -/
theorem OnlyTags.dropEndSlash (h : OnlyTags t) : OnlyTags (dropEndSlash t) := by
  rcases dropEndSlash_cases t with hsame | ⟨front, back, rfl, hdrop, hback⟩
  · rwa [hsame]
  · obtain ⟨parts, last, hsplit⟩ := Text.exists_splitAt_append '&' front
    have hslash : '&' ∉ '/' :: back := by simp [hback]
    rw [OnlyTags, hsplit _ hslash] at h
    rw [hdrop, OnlyTags, hsplit _ hback]
    intro field hfield
    rcases List.mem_append.mp hfield with hpart | hlast
    · exact h field (List.mem_append_left _ hpart)
    · rw [List.mem_singleton.mp hlast]
      obtain ⟨spelled, rest, hwhole, hspells⟩ :=
        isTag_iff.mp (h _ (List.mem_append_right _ List.mem_cons_self))
      -- The slash is behind the spelling that makes the field a tag, which has none in it.
      have hnone : '/' ∉ spelled := notMem_of_spells hspells (by decide)
      rcases List.append_eq_append_iff.mp hwhole with ⟨more, hmore, hrest⟩ | ⟨more, hmore, -⟩
      · cases more with
        | nil => exact isTag_iff.mpr ⟨spelled, back, by simp [hmore], hspells⟩
        | cons d more =>
          obtain ⟨rfl, -⟩ := List.cons.inj hrest
          exact absurd (by simp [hmore]) hnone
      · exact isTag_iff.mpr ⟨spelled, more ++ back, by simp [hmore], hspells⟩

end Tags

section Query

/-- The values that are kept of a query with tags are those that are kept of it without. -/
theorem pairsOf_append (q t : List Char) : pairsOf (q ++ '&' :: t) = pairsOf q ++ pairsOf t := by
  rw [pairsOf, Text.splitAt_append_cons, List.filterMap_append]
  rfl

theorem OnlyTags.filter_pairsOf (h : OnlyTags t) :
    (pairsOf t).filter (fun p => !isTracking p.1) = [] := by
  rw [List.filter_eq_nil_iff]
  intro p hp
  obtain ⟨field, hfield, hread⟩ := List.mem_filterMap.mp hp
  have htag := h field hfield
  unfold IsTag cutOff at htag
  split at hread
  next name value hcut =>
    rw [hcut] at htag
    split at hread
    next => cases hread
    next =>
      cases hread
      simpa using htag
  next => cases hread

theorem filter_addValue (keep : String → Bool) (name value : String)
    (values : List (String × List String)) :
    (addValue name value values).filter (fun v => keep v.1) =
      if keep name then addValue name value (values.filter fun v => keep v.1)
      else values.filter fun v => keep v.1 := by
  induction values with
  | nil => cases hk : keep name <;> simp [addValue, hk]
  | cons v values ih =>
    obtain ⟨n, vs⟩ := v
    rw [addValue]
    by_cases hn : n = name
    · subst hn
      cases hk : keep n <;> simp [addValue, hk]
    · rw [if_neg hn, List.filter_cons, ih]
      cases hk : keep name <;> cases hkn : keep n <;> simp [addValue, hkn, hn]

theorem filter_foldl_addValue (keep : String → Bool) (ps : List (String × String))
    (values : List (String × List String)) :
    (ps.foldl (fun acc p => addValue p.1 p.2 acc) values).filter (fun v => keep v.1) =
      (ps.filter fun p => keep p.1).foldl (fun acc p => addValue p.1 p.2 acc)
        (values.filter fun v => keep v.1) := by
  induction ps generalizing values with
  | nil => rfl
  | cons p ps ih =>
    rw [List.foldl_cons, ih, filter_addValue, List.filter_cons]
    cases hk : keep p.1 <;> simp

/-- What is kept of a query depends on the named values that do not only track. -/
theorem keptValues_eq (u : Url) : u.keptValues =
    u.remaining.foldl (fun acc p => addValue p.1 p.2 acc) [] := by
  rw [keptValues, valuesOf, filter_foldl_addValue fun name => !isTracking name]
  rfl

end Query

section Parse

theorem clean_cons {c : Char} (hc : 32 < c.toNat) (cs : List Char) :
    clean (c :: cs) = c :: cs.filter (!isBreak ·) := by
  have hbreak : isBreak c = false := by
    rw [← Bool.not_eq_true]
    intro hbreak
    simp only [isBreak, Bool.or_eq_true, decide_eq_true_eq] at hbreak
    rcases hbreak with (rfl | rfl) | rfl <;> exact absurd hc (by decide)
  have hdrop : (c :: cs).dropWhile (fun c => decide (c.toNat ≤ 32)) = c :: cs :=
    List.dropWhile_cons_of_neg (by simpa using hc)
  have hsame : clean (c :: cs) = (c :: cs).filter (!isBreak ·) := by
    unfold clean
    rw [hdrop]
    congr 1
    funext d
    simp [isBreak, Bool.and_assoc]
  rw [hsame, List.filter_cons, hbreak]
  rfl

theorem clean_append {c : Char} (hc : 32 < c.toNat) (a b : List Char) :
    clean (a ++ c :: b) = clean a ++ clean (c :: b) := by
  have hdrop : (c :: b).dropWhile (fun c => decide (c.toNat ≤ 32)) = c :: b :=
    List.dropWhile_cons_of_neg (by simpa using hc)
  unfold clean
  rw [List.dropWhile_append, hdrop]
  split
  next hempty => simp [List.isEmpty_iff.mp hempty]
  next => rw [List.filter_append]

theorem parse_eq (s : String) : parse s =
    match (authorityFault? (ofText (clean s.toList)).authority).orElse
      fun _ => disguiseFault? (ofText (clean s.toList)).authority with
    | some f => .error f
    | none => .ok (ofText (clean s.toList)) := by
  unfold parse
  generalize clean s.toList = cs
  rfl

theorem mem_clean {c : Char} (hc : 32 < c.toNat) (hbreak : isBreak c = false) :
    c ∈ clean cs ↔ c ∈ cs := by
  have hdrop : c ∈ cs.dropWhile (fun c => decide (c.toNat ≤ 32)) ↔ c ∈ cs := by
    constructor
    · exact fun hmem => (List.dropWhile_suffix _).subset hmem
    · intro hmem
      have hparts : c ∈ cs.takeWhile (fun c => decide (c.toNat ≤ 32)) ++
          cs.dropWhile (fun c => decide (c.toNat ≤ 32)) := by
        rwa [List.takeWhile_append_dropWhile]
      apply (List.mem_append.mp hparts).resolve_left
      intro htake
      have hle := List.mem_takeWhile_imp htake
      simp only [decide_eq_true_eq] at hle
      omega
  unfold clean
  rw [List.mem_filter, hdrop]
  simpa [isBreak, and_assoc] using fun _ => hbreak

theorem cutOff_of_notMem (h : sep ∉ cs) : cutOff sep cs = (cs, []) := by
  simp [cutOff, Text.cutAt?_of_notMem h]

/-- A text without a query has none, and one that is put behind it is its query. -/
theorem ofText_query (hmark : '?' ∉ cs) (hsharp : '#' ∉ cs) (hq : '#' ∉ q) :
    (ofText cs).query = [] ∧ ofText (cs ++ '?' :: q) = { ofText cs with query := q } := by
  have hscheme := cutScheme_append (b := '?' :: q) (by simp [isSchemeChar]) cs
  have hauthority := cutAuthority_append (b := '?' :: q) (by simp [isDelimiter]) (cutScheme cs).2
  have hrest : restOf (cs ++ '?' :: q) = restOf cs ++ '?' :: q := by
    rw [restOf, hscheme, hauthority, restOf]
  have hmark : '?' ∉ restOf cs := fun hmem => hmark (mem_of_mem_restOf hmem)
  have hsharp : '#' ∉ restOf cs := fun hmem => hsharp (mem_of_mem_restOf hmem)
  have hsharp' : '#' ∉ restOf cs ++ '?' :: q := by simp [hsharp, hq]
  have hcut : cutOff '?' (restOf cs ++ '?' :: q) = (restOf cs, q) := by
    simp [cutOff, Text.cutAt?_append hmark]
  constructor
  · rw [ofText, cutOff_of_notMem hsharp, cutOff_of_notMem hmark]
  · simp only [ofText, locationOf, hrest, cutOff_of_notMem hsharp, cutOff_of_notMem hsharp', hcut,
      cutOff_of_notMem hmark, hscheme, hauthority]

/-- What is put behind a text, for it to be in its query. -/
def joint (cs : List Char) : Char := if '?' ∈ cs then '&' else '?'

theorem joint_cases (cs : List Char) : joint cs = '&' ∨ joint cs = '?' := by
  unfold joint
  split
  next => exact .inl rfl
  next => exact .inr rfl

/-- Fields that are put behind a text add their named values to its query. -/
theorem ofText_joint (hsharp : '#' ∉ cs) (ht : '#' ∉ t) :
    ∃ q, ofText (cs ++ joint cs :: t) = { ofText cs with query := q } ∧
      pairsOf q = pairsOf (ofText cs).query ++ pairsOf t := by
  unfold joint
  by_cases hmark : '?' ∈ cs
  · rw [if_pos hmark]
    obtain ⟨front, back, rfl, hfront⟩ := List.eq_append_cons_of_mem hmark
    have hsharp' : '#' ∉ front ∧ '#' ∉ back := by simpa using hsharp
    have hlong : '#' ∉ back ++ '&' :: t := by simp [hsharp'.2, ht]
    obtain ⟨-, hquery⟩ := ofText_query hfront hsharp'.1 hsharp'.2
    obtain ⟨-, hjoint⟩ := ofText_query hfront hsharp'.1 hlong
    refine ⟨back ++ '&' :: t, ?_, ?_⟩
    · rw [List.append_assoc, List.cons_append, hjoint, hquery]
    · rw [hquery, pairsOf_append]
  · rw [if_neg hmark]
    obtain ⟨hnone, hquery⟩ := ofText_query hmark hsharp ht
    exact ⟨t, hquery, by rw [hnone]; rfl⟩

end Parse

section Normal

/-- The normal form of an address that has been taken apart. -/
def normalForm (u : Url) : String := render { u with query := u.keptQuery }

/-- What is put together again has a normal form unless something that is kept has no octets. -/
theorem withoutTracking_eq (u : Url) : u.withoutTracking =
    match strayOf? u.keptValues with
    | some s => .error (.stray s)
    | none => .ok u.normalForm := rfl

/-- Tags behind an address have no part in its normal form. -/
theorem bind_withoutTracking_joint (hsharp : '#' ∉ cs) (ht : '#' ∉ t) (htags : OnlyTags t) :
    (parse (String.ofList (cs ++ joint cs :: t))).bind withoutTracking =
      (parse (String.ofList cs)).bind withoutTracking := by
  have hsame : joint (clean cs) = joint cs := by
    simp only [joint, mem_clean (c := '?') (by decide) (by decide)]
  have hjoint : 32 < (joint cs).toNat := by
    rcases joint_cases cs with hj | hj <;> rw [hj] <;> decide
  -- Leading blanks are dropped no further than to the joint, so cleaning goes part by part.
  have hclean : clean (cs ++ joint cs :: t) =
      clean cs ++ joint (clean cs) :: t.filter (!isBreak ·) := by
    rw [clean_append hjoint, clean_cons hjoint, hsame]
  have hsharp' : '#' ∉ clean cs := by rwa [mem_clean (by decide) (by decide)]
  have ht' : '#' ∉ t.filter (!isBreak ·) := fun hmem => ht (List.mem_filter.mp hmem).1
  obtain ⟨q, hquery, hpairs⟩ := ofText_joint hsharp' ht'
  have hremaining : ({ ofText (clean cs) with query := q } : Url).remaining =
      (ofText (clean cs)).remaining := by
    rw [remaining, hpairs, List.filter_append, htags.unbroken.filter_pairsOf, List.append_nil,
      remaining]
  have hkept : ({ ofText (clean cs) with query := q } : Url).keptValues =
      (ofText (clean cs)).keptValues := by rw [keptValues_eq, keptValues_eq, hremaining]
  have hform : withoutTracking { ofText (clean cs) with query := q } =
      withoutTracking (ofText (clean cs)) := by
    rw [withoutTracking_eq, withoutTracking_eq, normalForm, normalForm,
      show keptQuery { ofText (clean cs) with query := q } = _ from congrArg queryOf hkept, hkept]
    rfl
  rw [parse_eq, parse_eq, String.toList_ofList, String.toList_ofList, hclean, hquery]
  dsimp only
  cases (authorityFault? (ofText (clean cs)).authority).orElse
      fun _ => disguiseFault? (ofText (clean cs)).authority with
  | some f => rfl
  | none => exact hform

end Normal

section Links

/-- A field of a query that a campaign adds. -/
structure IsTracker (tag : String) : Prop where
  tracks : IsTag tag.toList
  single : '&' ∉ tag.toList
  unmarked : '#' ∉ tag.toList

instance (tag : String) : Decidable (IsTracker tag) :=
  decidable_of_iff (IsTag tag.toList ∧ '&' ∉ tag.toList ∧ '#' ∉ tag.toList)
    ⟨fun ⟨tracks, single, unmarked⟩ => ⟨tracks, single, unmarked⟩,
      fun h => ⟨h.tracks, h.single, h.unmarked⟩⟩

/-- The fields that a campaign adds, as one query. -/
def campaign (tags : List String) : List Char := ['&'].intercalate (tags.map String.toList)

/-- A link to an address, with the fields of a campaign behind it. -/
def tagged (s : String) (tags : List String) : String :=
  String.ofList (s.toList ++ joint s.toList :: campaign tags)

theorem notMem_campaign (htags : ∀ tag ∈ tags, IsTracker tag) : '#' ∉ campaign tags := by
  unfold campaign
  induction tags with
  | nil => simp
  | cons tag tags ih =>
    have htag := (htags tag List.mem_cons_self).unmarked
    have hrest := ih fun other hother => htags other (List.mem_cons_of_mem tag hother)
    cases tags with
    | nil => simpa using htag
    | cons next tags =>
      rw [List.map_cons] at hrest
      rw [List.map_cons, List.map_cons, List.intercalate_cons_cons]
      simp [htag, hrest]

theorem onlyTags_campaign (hne : tags ≠ []) (htags : ∀ tag ∈ tags, IsTracker tag) :
    OnlyTags (campaign tags) := by
  have hsplit : Text.splitAt '&' (campaign tags) = tags.map String.toList := by
    rw [Text.splitAt_eq_splitOn]
    apply List.splitOn_intercalate
    · intro field hfield
      obtain ⟨tag, htag, rfl⟩ := List.mem_map.mp hfield
      exact (htags tag htag).single
    · simpa using hne
  intro field hfield
  rw [hsplit] at hfield
  obtain ⟨tag, htag, rfl⟩ := List.mem_map.mp hfield
  exact (htags tag htag).tracks

theorem OnlyTags.ne_nil (h : OnlyTags t) : t ≠ [] := by
  rintro rfl
  have htag : isTracking (readForm []) = true := h [] List.mem_cons_self
  exact absurd htag (by decide)

/-- The slash at the end of a text is the one at the end of what is put behind it. -/
theorem dropEndSlash_append {c : Char} (hc : c ≠ '/') (ht : t ≠ []) (a : List Char) :
    dropEndSlash (a ++ c :: t) = a ++ c :: dropEndSlash t := by
  obtain ⟨front, d, rfl⟩ := (List.eq_nil_or_concat' t).resolve_left ht
  obtain ⟨back, rfl⟩ : ∃ back : List Char, front = back.reverse := ⟨front.reverse, by simp⟩
  unfold dropEndSlash
  rw [List.reverse_append, List.reverse_cons, List.reverse_append, List.reverse_reverse,
    List.reverse_singleton, List.singleton_append, List.cons_append, List.cons_append]
  split
  next r hr =>
    obtain ⟨rfl, rfl⟩ := List.cons.inj hr
    simp
  next r hr =>
    obtain ⟨rfl, hrest⟩ := List.cons.inj hr
    cases back with
    | nil => exact absurd (List.cons.inj hrest).1 hc
    | cons e back =>
      obtain ⟨rfl, rfl⟩ := List.cons.inj hrest
      simp
  next hslash hfeed =>
    split
    next r hr =>
      obtain ⟨rfl, rfl⟩ := List.cons.inj hr
      exact absurd rfl (hslash _)
    next r hr =>
      obtain ⟨rfl, rfl⟩ := List.cons.inj hr
      exact absurd rfl (hfeed _)
    next => rfl

end Links

section Main

theorem trimmed_of_notMem (hsharp : '#' ∉ s.toList) :
    trimmed s = parse (String.ofList (dropEndSlash s.toList)) := by
  rw [trimmed, cutOff_of_notMem hsharp]

/-- A link with a campaign behind it has the normal form that a slash would give it. -/
theorem normalize_campaign (hsharp : '#' ∉ s.toList) (hne : tags ≠ [])
    (htags : ∀ tag ∈ tags, IsTracker tag) :
    normalize (tagged s tags) true = normalize (s ++ "/") true := by
  have honly := onlyTags_campaign hne htags
  have hcampaign := notMem_campaign htags
  have hnone : '#' ∉ dropEndSlash (campaign tags) :=
    fun hmem => hcampaign (mem_of_mem_dropEndSlash hmem)
  have hjoint : joint s.toList ≠ '/' ∧ '#' ≠ joint s.toList := by
    rcases joint_cases s.toList with hj | hj <;> rw [hj] <;> decide
  have hsharp' : '#' ∉ (tagged s tags).toList := by
    simp [tagged, hsharp, hcampaign, hjoint.2]
  have hslash : '#' ∉ (s ++ "/").toList := by simp [hsharp]
  have hdrop : dropEndSlash (s ++ "/").toList = s.toList := by simp [dropEndSlash]
  calc normalize (tagged s tags) true
      = (parse (String.ofList (s.toList ++ joint s.toList :: dropEndSlash (campaign tags)))).bind
          withoutTracking := by
        rw [normalize_eq, trimmed_of_notMem hsharp', tagged, String.toList_ofList,
          dropEndSlash_append hjoint.1 honly.ne_nil]
    _ = (parse (String.ofList s.toList)).bind withoutTracking :=
        bind_withoutTracking_joint hsharp hnone honly.dropEndSlash
    _ = normalize (s ++ "/") true := by
        rw [normalize_eq, trimmed_of_notMem hslash, hdrop]

theorem normalize_slash (hsharp : '#' ∉ s.toList) (hend : dropEndSlash s.toList = s.toList) :
    normalize (s ++ "/") true = normalize s true := by
  have hslash : '#' ∉ (s ++ "/").toList := by simp [hsharp]
  have hdrop : dropEndSlash (s ++ "/").toList = s.toList := by simp [dropEndSlash]
  rw [normalize_eq, normalize_eq, trimmed_of_notMem hslash, trimmed_of_notMem hsharp, hdrop, hend]

end Main

end Url

namespace Item

open Url (IsTracker tagged dropEndSlash normalize_campaign normalize_slash)

variable {s : String} {tags : List String} {before between after : List Item} {x y : Item}
  {k : String × String} {seen : List (String × String)}

/-- What is kept behind an item depends on the key of the item and on those before. -/
theorem firstsFrom_cons_congr {rest others : List Item}
    (h : ∀ k l, x.key = .ok k → seen ⊆ l → k ∈ l → firstsFrom l rest = firstsFrom l others) :
    firstsFrom seen (x :: rest) = firstsFrom seen (x :: others) := by
  cases hx : x.key with
  | error f => simp [firstsFrom, hx]
  | ok k =>
    by_cases hk : k ∈ seen
    · rw [firstsFrom_of_mem hx hk, firstsFrom_of_mem hx hk, h k seen hx (List.Subset.refl seen) hk]
    · have hsame := h k (k :: seen) hx (List.subset_cons_self k seen) List.mem_cons_self
      rw [firstsFrom_of_notMem hx hk, firstsFrom_of_notMem hx hk, hsame]

theorem firstsFrom_skip (hy : y.key = .ok k) (h : k ∈ seen) :
    firstsFrom seen (between ++ y :: after) = firstsFrom seen (between ++ after) := by
  induction between generalizing seen with
  | nil => exact firstsFrom_of_mem hy h
  | cons i between ih =>
    apply firstsFrom_cons_congr
    intro _ l _ hsubset _
    exact ih (hsubset h)

/-- An item makes no difference behind another one of the same key. -/
theorem firstsFrom_repeated (h : x.key = y.key) :
    firstsFrom seen (before ++ x :: (between ++ y :: after)) =
      firstsFrom seen (before ++ x :: (between ++ after)) := by
  induction before generalizing seen with
  | nil =>
    apply firstsFrom_cons_congr
    intro k l hx _ hmem
    exact firstsFrom_skip (h ▸ hx) hmem
  | cons i before ih =>
    apply firstsFrom_cons_congr
    intro _ l _ _ _
    exact ih

theorem key_congr (hnormal : Url.normalize x.url true = Url.normalize y.url true)
    (hschema : x.schema = y.schema) : x.key = y.key := by
  unfold key
  rw [hnormal, hschema]

/-- Tracking parameters behind an address stand for a slash there, which is to say for nothing if
the address has none at its end. Then a link with such parameters and one without are one item. -/
theorem firsts_merges_tagged (hsharp : '#' ∉ s.toList) (hne : tags ≠ [])
    (htags : ∀ tag ∈ tags, IsTracker tag) :
    Url.normalize (tagged s tags) true = Url.normalize (s ++ "/") true ∧
      (dropEndSlash s.toList = s.toList →
        Url.normalize (tagged s tags) true = Url.normalize s true ∧
        ∀ {x y : Item} (before between after : List Item), x.schema = y.schema →
          x.url = s ∧ y.url = tagged s tags ∨ x.url = tagged s tags ∧ y.url = s →
          firsts (before ++ x :: (between ++ y :: after)) =
            firsts (before ++ x :: (between ++ after))) := by
  have hcampaign := normalize_campaign hsharp hne htags
  refine ⟨hcampaign, fun hend => ?_⟩
  have hsame : Url.normalize (tagged s tags) true = Url.normalize s true :=
    hcampaign.trans (normalize_slash hsharp hend)
  refine ⟨hsame, fun {x y} before between after hschema hurls => ?_⟩
  apply firstsFrom_repeated
  apply key_congr _ hschema
  rcases hurls with ⟨hx, hy⟩ | ⟨hx, hy⟩
  · rw [hx, hy, hsame]
  · rw [hx, hy, hsame]

theorem firsts_merges_tagged_page :
    Url.normalize (tagged "http://a/x?p=1" ["utm_source=m", "%75tm_id"]) true =
        .ok "http://a/x?p=1" ∧
      firsts [⟨tagged "http://a/x?p=1" ["utm_source=m", "%75tm_id"], "s", false⟩,
          ⟨"http://a/y", "s", false⟩, ⟨"http://a/x?p=1", "s", false⟩] =
        firsts [⟨tagged "http://a/x?p=1" ["utm_source=m", "%75tm_id"], "s", false⟩,
          ⟨"http://a/y", "s", false⟩] := by
  have hsharp : '#' ∉ "http://a/x?p=1".toList := by decide
  have htags : ∀ tag ∈ ["utm_source=m", "%75tm_id"], IsTracker tag := by decide +kernel
  obtain ⟨-, hmerges⟩ := firsts_merges_tagged hsharp (List.cons_ne_nil _ _) htags
  obtain ⟨hsame, hdrops⟩ := hmerges (by decide)
  exact ⟨hsame.trans (by decide +kernel),
    hdrops (x := ⟨_, "s", false⟩) (y := ⟨_, "s", false⟩) [] [⟨"http://a/y", "s", false⟩] [] rfl
      (.inr ⟨rfl, rfl⟩)⟩

/-- A slash at the end of a path stays behind if there are tracking parameters after it. -/
theorem firsts_keeps_tagged :
    IsTracker "utm_source=m" ∧
      Url.normalize "http://a/x/" true = .ok "http://a/x" ∧
      Url.normalize (tagged "http://a/x/" ["utm_source=m"]) true = .ok "http://a/x/" ∧
      firsts [⟨"http://a/x/", "s", false⟩, ⟨tagged "http://a/x/" ["utm_source=m"], "s", false⟩] =
        .ok [⟨"http://a/x/", "s", false⟩,
          ⟨tagged "http://a/x/" ["utm_source=m"], "s", false⟩] := by
  refine ⟨?_, ?_, ?_, ?_⟩ <;> decide +kernel

end Item

end Gleaner
