import Gleaner.Proofs.Config.Loading

/-! What sitemaps can do to the loading of a configuration: they add items or fail to, and they end
it if what they answer declares an encoding that cannot be read, or lists an address without normal
form. -/

namespace Gleaner

namespace Sitemap

variable {w : Web} {url : String} {t : Web.Seconds} {f : Failure}

/-- How the visit of a sitemap fails: the transport is not to blame for a request that is not
answered, or the answer cannot be read as characters. -/
inductive Fails (w : Web) (url : String) : Failure → Prop where
  | fault {f : Web.Fault} : w.ask url = .error f → f.isTransport = false → Fails w url (.fault f)
  | encoding {a : Web.Answer} {e : Xml.Failure} : w.ask url = .ok a →
      Xml.parse a.content = .error e → (∀ f text, e ≠ .malformed f text) →
      Fails w url (.encoding e)

theorem fetch_eq_error : (fetch w url t).result = .error f ↔ Fails w url f := by
  constructor
  · intro h
    unfold fetch at h
    cases hask : w.ask url with
    | error g =>
      rw [hask] at h
      cases htransport : g.isTransport with
      | true => simp [htransport] at h
      | false =>
        simp only [htransport, Bool.false_eq_true, if_false] at h
        cases h
        exact .fault hask htransport
    | ok a =>
      rw [hask] at h
      cases hparse : Xml.parse a.content with
      | ok document => simp [hparse] at h
      | error e =>
        simp only [hparse] at h
        cases e with
        | malformed g text => cases h
        | unknownEncoding name =>
          cases h
          exact .encoding hask hparse nofun
        | unreadable kind message =>
          cases h
          exact .encoding hask hparse nofun
  · intro h
    unfold fetch
    cases h with
    | fault hask htransport => simp [hask, htransport]
    | @encoding a e hask hparse hnot =>
      cases e with
      | malformed g text => exact absurd rfl (hnot g text)
      | unknownEncoding name => simp [hask, hparse]
      | unreadable kind message => simp [hask, hparse]

theorem fetch_eq_listing (h : ∀ f, ¬ Fails w url f) :
    (fetch w url t).result = .ok (listing w url) := by
  cases hresult : (fetch w url t).result with
  | error f => exact absurd (fetch_eq_error.mp hresult) (h f)
  | ok urls => rw [fetch_eq_ok hresult]

/-- What an address does when it is asked: it is out of reach, or it answers with some status and
some octets. -/
inductive Responds (w : Web) (url : String) : Prop where
  | unreachable {f : Web.Fault} : w.ask url = .error f → f.isTransport = true → Responds w url
  | answers {key : String} {a : Web.Answer} : w.find? (·.1 = url) = some (key, .ok a) →
      Responds w url

theorem isTransport_of_statusFault? {a : Web.Answer} {f : Web.Fault}
    (h : Web.statusFault? url a = some f) : f.isTransport = true := by
  unfold Web.statusFault? at h
  dsimp only at h
  split at h
  next =>
    cases h
    rfl
  next =>
    split at h
    next =>
      cases h
      rfl
    next => cases h

theorem Responds.isTransport {f : Web.Fault} (h : Responds w url) (hask : w.ask url = .error f) :
    f.isTransport = true := by
  cases h with
  | unreachable hask' htransport =>
    rw [hask] at hask'
    cases hask'
    exact htransport
  | answers hfind =>
    simp only [Web.ask, hfind] at hask
    split at hask
    next hstatus =>
      cases hask
      exact isTransport_of_statusFault? hstatus
    next => cases hask

/-- What an address answers does no harm: it can be read as characters, and each address that it
lists has a normal form. -/
structure Harmless (w : Web) (url : String) : Prop where
  readable : ∀ a e, w.ask url = .ok a → Xml.parse a.content = .error e →
    ∃ f text, e = .malformed f text
  normal : ∀ page ∈ listing w url, ∃ form, Url.normalize page true = .ok form

theorem Responds.readable_iff (h : Responds w url) :
    (∀ a e, w.ask url = .ok a → Xml.parse a.content = .error e → ∃ f text, e = .malformed f text) ↔
      ∀ f, ¬ Fails w url f := by
  constructor
  · intro hreadable f hfails
    cases hfails with
    | fault hask htransport => simp [h.isTransport hask] at htransport
    | encoding hask hparse hnot =>
      obtain ⟨g, text, rfl⟩ := hreadable _ _ hask hparse
      exact hnot g text rfl
  · intro hnone a e hask hparse
    by_contra hnot
    push Not at hnot
    exact hnone _ (.encoding hask hparse hnot)

end Sitemap

namespace Item

variable {w : Web} {t : Web.Seconds} {i : Item} {items : List Item} {f : Sitemap.Failure}
  {seen : List (String × String)}

/-- A page, or a sitemap whose visit does not fail. -/
def Opens (w : Web) (i : Item) : Prop := i.isSitemap = true → ∀ f, ¬ Sitemap.Fails w i.url f

/-- The first item that does not open fails in this way. -/
def Breaks (w : Web) (items : List Item) (f : Sitemap.Failure) : Prop :=
  ∃ before i after, items = before ++ i :: after ∧ (∀ j ∈ before, j.Opens w) ∧
    i.isSitemap = true ∧ Sitemap.Fails w i.url f

theorem not_breaks_nil : ¬ Breaks w [] f := by
  rintro ⟨before, i, after, hitems, -⟩
  simp at hitems

theorem breaks_cons : Breaks w (i :: items) f ↔
    (i.isSitemap = true ∧ Sitemap.Fails w i.url f) ∨ (i.Opens w ∧ Breaks w items f) := by
  constructor
  · rintro ⟨before, j, after, hitems, hbefore, hfails⟩
    cases before with
    | nil =>
      cases hitems
      exact .inl hfails
    | cons k before =>
      cases hitems
      obtain ⟨hopens, hbefore⟩ := List.forall_mem_cons.mp hbefore
      exact .inr ⟨hopens, before, j, after, rfl, hbefore, hfails⟩
  · rintro (hfails | ⟨hopens, before, j, after, rfl, hbefore, hfails⟩)
    · exact ⟨[], i, items, rfl, nofun, hfails⟩
    · exact ⟨i :: before, j, after, rfl, List.forall_mem_cons.mpr ⟨hopens, hbefore⟩, hfails⟩

theorem forall_not_breaks : (∀ f, ¬ Breaks w items f) ↔ ∀ i ∈ items, i.Opens w := by
  induction items with
  | nil => exact iff_of_true (fun _ => not_breaks_nil) nofun
  | cons i items ih =>
    simp only [breaks_cons, List.forall_mem_cons, ← ih]
    constructor
    · intro h
      have hopens : i.Opens w := fun hsitemap f hf => h f (.inl ⟨hsitemap, hf⟩)
      exact ⟨hopens, fun f hf => h f (.inr ⟨hopens, hf⟩)⟩
    · rintro ⟨hopens, hrest⟩ f (⟨hsitemap, hf⟩ | ⟨-, hf⟩)
      · exact hopens hsitemap f hf
      · exact hrest f hf

theorem expand_eq_error : (expand w t items).result = .error f ↔ Breaks w items f := by
  induction items with
  | nil => simp [expand, not_breaks_nil]
  | cons i items ih =>
    rw [breaks_cons, ← ih, expand]
    by_cases hsitemap : i.isSitemap = true
    · by_cases hfails : ∃ g, Sitemap.Fails w i.url g
      · obtain ⟨g, hg⟩ := hfails
        have hvisit := Sitemap.fetch_eq_error (t := t).mpr hg
        have hsame : Sitemap.Fails w i.url f ↔ g = f := by
          rw [← Sitemap.fetch_eq_error (t := t), hvisit, Except.error.injEq]
        have hclosed : ¬ i.Opens w := fun hopens => hopens hsitemap g hg
        simp [hsitemap, hvisit, hsame, hclosed]
      · push Not at hfails
        have hvisit := Sitemap.fetch_eq_listing (t := t) hfails
        have hopens : i.Opens w := fun _ => hfails
        simp only [hsitemap, if_true, hvisit, hfails, hopens]
        cases (expand w t items).result <;> simp [Except.map]
    · have hopens : i.Opens w := fun h => absurd h hsitemap
      simp only [hsitemap, Bool.false_eq_true, if_false, hopens]
      cases (expand w t items).result <;> simp [Except.map]

theorem expand_isOk : (∃ all, (expand w t items).result = .ok all) ↔ ∀ i ∈ items, i.Opens w := by
  rw [← forall_not_breaks]
  simp only [← expand_eq_error (t := t)]
  cases (expand w t items).result <;> simp

theorem firstsFrom_isOk : (∃ kept, firstsFrom seen items = .ok kept) ↔
    ∀ i ∈ items, ∃ k, i.key = .ok k := by
  constructor
  · rintro ⟨kept, hkept⟩ i hi
    exact ((kept_of_firstsFrom hkept).covers i hi).imp fun _ h => h.1
  · intro h
    induction items generalizing seen with
    | nil => exact ⟨[], rfl⟩
    | cons i items ih =>
      obtain ⟨⟨k, hk⟩, hrest⟩ := List.forall_mem_cons.mp h
      by_cases hmem : k ∈ seen
      · rw [firstsFrom_of_mem hk hmem]
        exact ih hrest
      · obtain ⟨kept, hkept⟩ : ∃ kept, firstsFrom (k :: seen) items = .ok kept := ih hrest
        rw [firstsFrom_of_notMem hk hmem, hkept]
        exact ⟨i :: kept, rfl⟩

theorem firsts_isOk : (∃ kept, firsts items = .ok kept) ↔ ∀ i ∈ items, ∃ k, i.key = .ok k :=
  firstsFrom_isOk

theorem key_isOk {i : Item} :
    (∃ k, i.key = .ok k) ↔ ∃ form, Url.normalize i.url true = .ok form := by
  unfold key
  cases Url.normalize i.url true <;> simp [Except.map]

end Item

namespace Load

variable {d : Disk} {w v : Web} {p : Path} {c loaded : Config}

theorem result_config (hthere : d.isThere p = .ok true) (hread : readConfig d p = .ok c) :
    (config d w p).result = (settle w c).result := by
  simp only [config, hthere, hread]

theorem isThere_of_config (h : (config d w p).result = .ok loaded) : d.isThere p = .ok true := by
  unfold config at h
  split at h
  next => cases h
  next => cases h
  next hthere => exact hthere

theorem result_settle (w : Web) (c : Config) : (settle w c).result =
    match (Item.expand w (.decimal c.defaults.timeout) c.items).result with
    | .error f => .error (.sitemap f)
    | .ok all => match Item.firsts all with
      | .error f => .error (.address f)
      | .ok items => .ok { c with items } := by
  unfold settle
  dsimp only
  cases (Item.expand w (.decimal c.defaults.timeout) c.items).result with
  | error f => rfl
  | ok all =>
    dsimp only
    cases Item.firsts all <;> rfl

/-- An item settles if it opens, and all pages that it means have keys. -/
structure Settles (w : Web) (i : Item) : Prop where
  opens : i.Opens w
  keys : ∀ page ∈ Item.pages w i, ∃ k, page.key = .ok k

theorem settle_isOk : (∃ loaded, (settle w c).result = .ok loaded) ↔
    ∀ i ∈ c.items, Settles w i := by
  have hsplit : (∀ i ∈ c.items, Settles w i) ↔ (∀ i ∈ c.items, i.Opens w) ∧
      ∀ page ∈ c.items.flatMap (Item.pages w), ∃ k, page.key = .ok k := by
    simp only [List.mem_flatMap, forall_exists_index, and_imp]
    exact ⟨fun h => ⟨fun i hi => (h i hi).opens, fun page i hi => (h i hi).keys page⟩,
      fun h i hi => ⟨h.1 i hi, fun page => h.2 page i hi⟩⟩
  rw [hsplit, ← Item.expand_isOk (t := .decimal c.defaults.timeout), ← Item.firsts_isOk,
    result_settle]
  cases hall : (Item.expand w (.decimal c.defaults.timeout) c.items).result with
  | error f => simp
  | ok all =>
    rw [← Item.expand_eq_ok hall]
    dsimp only
    cases Item.firsts all <;> simp

theorem settles_of_page {i : Item} (hpage : i.isSitemap = false) :
    Settles w i ↔ ∃ k, i.key = .ok k := by
  have hpages : Item.pages w i = [i] := by simp [Item.pages, hpage]
  have hopens : i.Opens w := fun hsitemap => by simp [hpage] at hsitemap
  constructor
  · rintro ⟨-, hkeys⟩
    exact hkeys i (by simp [hpages])
  · exact fun hkey => ⟨hopens, by simpa [hpages] using hkey⟩

theorem settles_of_sitemap {i : Item} (hsitemap : i.isSitemap = true) :
    Settles w i ↔ (∀ f, ¬ Sitemap.Fails w i.url f) ∧
      ∀ page ∈ Sitemap.listing w i.url, ∃ form, Url.normalize page true = .ok form := by
  have hkeys : (∀ page ∈ Item.pages w i, ∃ k, page.key = .ok k) ↔
      ∀ page ∈ Sitemap.listing w i.url, ∃ form, Url.normalize page true = .ok form := by
    simp only [Item.pages, hsitemap, if_true, List.forall_mem_map, Item.key_isOk]
  rw [← hkeys]
  exact ⟨fun h => ⟨h.opens hsitemap, h.keys⟩, fun h => ⟨fun _ => h.1, h.2⟩⟩

/-- A sitemap that responds settles just if it does no harm. -/
theorem settles_iff_harmless {i : Item} (hsitemap : i.isSitemap = true)
    (h : Sitemap.Responds w i.url) : Settles w i ↔ Sitemap.Harmless w i.url := by
  rw [settles_of_sitemap hsitemap, ← h.readable_iff]
  exact ⟨fun h => ⟨h.1, h.2⟩, fun h => ⟨h.readable, h.normal⟩⟩

/-- What is loaded are pages of the items, and each page of them is there by its key. -/
theorem items_of_settle (h : (settle w c).result = .ok loaded) :
    loaded = { c with items := loaded.items } ∧
      (∀ page ∈ loaded.items, ∃ i ∈ c.items, page ∈ Item.pages w i) ∧
      ∀ i ∈ c.items, ∀ page ∈ Item.pages w i, ∃ j ∈ loaded.items, j.key = page.key := by
  obtain ⟨kept, hkept, rfl⟩ := settle_eq_ok h
  have hall := Item.kept_of_firstsFrom hkept
  refine ⟨rfl, fun page hpage => List.mem_flatMap.mp (hall.sublist.subset hpage), ?_⟩
  intro i hi page hpage
  obtain ⟨k, hk, hseen | ⟨j, hj, hkey⟩⟩ := hall.covers page (List.mem_flatMap.mpr ⟨i, hi, hpage⟩)
  · exact absurd hseen List.not_mem_nil
  · exact ⟨j, hj, hkey.trans hk.symm⟩

/-- A configuration that loads while its sitemaps are out of reach loads also when they respond,
just if none does harm. It differs then in its items only, and no key is lost. -/
theorem config_loads_iff (hread : readConfig d p = .ok c)
    (hunreachable : ∀ i ∈ c.items, i.isSitemap = true →
      ∃ f, w.ask i.url = .error f ∧ f.isTransport = true)
    (hload : (config d w p).result = .ok loaded)
    (hresponds : ∀ i ∈ c.items, i.isSitemap = true → Sitemap.Responds v i.url) :
    ((∃ more, (config d v p).result = .ok more) ↔
        ∀ i ∈ c.items, i.isSitemap = true → Sitemap.Harmless v i.url) ∧
      ∀ more, (config d v p).result = .ok more → more = { loaded with items := more.items } ∧
        ∀ i ∈ loaded.items, ∃ j ∈ more.items, j.key = i.key := by
  have hthere := isThere_of_config hload
  rw [result_config hthere hread] at hload ⊢
  constructor
  · rw [settle_isOk]
    constructor
    · intro hsettles i hi hsitemap
      exact (settles_iff_harmless hsitemap (hresponds i hi hsitemap)).mp (hsettles i hi)
    · intro hharmless i hi
      cases hsitemap : i.isSitemap with
      | true =>
        exact (settles_iff_harmless hsitemap (hresponds i hi hsitemap)).mpr
          (hharmless i hi hsitemap)
      | false =>
        rw [settles_of_page hsitemap, ← settles_of_page (w := w) hsitemap]
        exact settle_isOk.mp ⟨loaded, hload⟩ i hi
  · intro more hmore
    obtain ⟨hloaded, hsource, -⟩ := items_of_settle hload
    obtain ⟨hsame, -, hthere⟩ := items_of_settle hmore
    refine ⟨by rw [hsame, hloaded], fun page hpage => ?_⟩
    obtain ⟨i, hi, hmem⟩ := hsource page hpage
    -- Nothing that is loaded without the sitemaps comes from one.
    have hplain : i.isSitemap = false := by
      by_contra hsitemap
      rw [Bool.not_eq_false] at hsitemap
      obtain ⟨f, hask, -⟩ := hunreachable i hi hsitemap
      simp [Item.pages, hsitemap, Sitemap.listing, hask] at hmem
    exact hthere i hi page (by simpa [Item.pages, hplain] using hmem)

def oneMap : String :=
  "\x7b\"schemas\": \x7b\"s\": \x7b\x7d\x7d, " ++
    "\"items\": [\x7b\"url\": \"http://a/map\", \"schema\": \"s\", \"isSitemap\": true\x7d]\x7d"

/-- A configuration of one sitemap. -/
def oneMapDisk : Disk := { entries := [(["c.json"], .file (Text.octetsOf oneMap))] }

theorem readConfig_oneMap : ∃ c, readConfig oneMapDisk (Path.ofString "c.json") = .ok c ∧
    c.items = [⟨"http://a/map", "s", true⟩] := by
  have hitems : (readConfig oneMapDisk (Path.ofString "c.json")).toOption.map (·.items) =
      some [⟨"http://a/map", "s", true⟩] := by decide +kernel
  obtain ⟨c, hoption, hc⟩ := Option.map_eq_some_iff.mp hitems
  exact ⟨c, eq_ok_of_toOption hoption, hc⟩

theorem config_oneMap : (∃ c, (config oneMapDisk w (Path.ofString "c.json")).result = .ok c) ↔
    (∀ f, ¬ Sitemap.Fails w "http://a/map" f) ∧
      ∀ page ∈ Sitemap.listing w "http://a/map", ∃ form, Url.normalize page true = .ok form := by
  have hthere : oneMapDisk.isThere (Path.ofString "c.json") = .ok true :=
    eq_ok_of_toOption (by decide +kernel)
  obtain ⟨c, hread, hc⟩ := readConfig_oneMap
  rw [result_config hthere hread, settle_isOk, hc, List.forall_mem_singleton]
  exact settles_of_sitemap rfl

theorem config_oneMap_unreachable :
    ∃ c, (config oneMapDisk [] (Path.ofString "c.json")).result = .ok c := by
  refine config_oneMap.mpr ⟨fun f hf => ?_, nofun⟩
  have hvisit := (Sitemap.fetch_eq_error (t := .whole 0)).mpr hf
  cases hvisit

theorem config_loads_iff_listed :
    ∃ c loaded, readConfig oneMapDisk (Path.ofString "c.json") = .ok c ∧
      (config oneMapDisk [] (Path.ofString "c.json")).result = .ok loaded ∧
      (∀ i ∈ c.items, i.isSitemap = true → Sitemap.Responds mapOnly i.url) ∧
      (∀ i ∈ c.items, i.isSitemap = true → Sitemap.Harmless mapOnly i.url) ∧
      ∃ more, (config oneMapDisk mapOnly (Path.ofString "c.json")).result = .ok more ∧
        more = { loaded with items := more.items } ∧
        ∀ i ∈ loaded.items, ∃ j ∈ more.items, j.key = i.key := by
  obtain ⟨c, hread, hc⟩ := readConfig_oneMap
  obtain ⟨loaded, hload⟩ := config_oneMap_unreachable
  have hresponds : ∀ i ∈ c.items, i.isSitemap = true → Sitemap.Responds mapOnly i.url := by
    rw [hc]
    simpa using .answers rfl
  have hlisted : (Sitemap.fetch mapOnly "http://a/map" (.whole 0)).result.toOption =
      some ["http://a/x#top", "http://a/y"] := by decide +kernel
  have hfetch := eq_ok_of_toOption hlisted
  have hopens : ∀ f, ¬ Sitemap.Fails mapOnly "http://a/map" f := fun f hf => by
    cases hfetch.symm.trans (Sitemap.fetch_eq_error.mpr hf)
  have hnormal : ∀ page ∈ Sitemap.listing mapOnly "http://a/map",
      ∃ form, Url.normalize page true = .ok form := by
    rw [← Sitemap.fetch_eq_ok hfetch]
    simp only [List.forall_mem_cons]
    exact ⟨⟨_, eq_ok_of_toOption (by decide +kernel : _ = some "http://a/x")⟩,
      ⟨_, eq_ok_of_toOption (by decide +kernel : _ = some "http://a/y")⟩, nofun⟩
  obtain ⟨more, hmore⟩ := config_oneMap.mpr ⟨hopens, hnormal⟩
  obtain ⟨hiff, hmeans⟩ := config_loads_iff hread (fun i _ _ => ⟨_, rfl, rfl⟩) hload hresponds
  obtain ⟨hsame, hkeys⟩ := hmeans more hmore
  exact ⟨c, loaded, hread, hload, hresponds, hiff.mp ⟨more, hmore⟩, more, hmore, hsame, hkeys⟩

/-- A sitemap with an address that has no normal form. -/
def mapOfBrackets : Web := [("http://a/map", .ok { content := Text.octetsOf ("<urlset xmlns=\"" ++
  Sitemap.space ++ "\"><loc>http://[</loc></urlset>") })]

def xmlOfNoEncoding : String := "<?xml version=\"1.0\" encoding=\"x-none\"?><urlset/>"

/-- A sitemap that declares an encoding that is not known. -/
def mapOfNoEncoding : Web :=
  [("http://a/map", .ok { content := Text.octetsOf xmlOfNoEncoding })]

/-- A sitemap that responds ends the loading of a configuration that loads without it. -/
theorem config_broken_by_sitemap :
    (∃ c, (config oneMapDisk [] (Path.ofString "c.json")).result = .ok c) ∧
      Sitemap.Responds mapOfBrackets "http://a/map" ∧
      ¬ (∃ c, (config oneMapDisk mapOfBrackets (Path.ofString "c.json")).result = .ok c) ∧
      Sitemap.Responds mapOfNoEncoding "http://a/map" ∧
      ¬ ∃ c, (config oneMapDisk mapOfNoEncoding (Path.ofString "c.json")).result = .ok c := by
  refine ⟨config_oneMap_unreachable, .answers rfl, fun h => ?_, .answers rfl, fun h => ?_⟩
  · have hlisted : "http://[" ∈ Sitemap.listing mapOfBrackets "http://a/map" := by decide +kernel
    have hnone : (Url.normalize "http://[" true).toOption = none := by decide +kernel
    obtain ⟨form, hform⟩ := (config_oneMap.mp h).2 _ hlisted
    simp [hform, Except.toOption] at hnone
  · obtain ⟨f, hf⟩ : ∃ f, Sitemap.Fails mapOfNoEncoding "http://a/map" f := by
      obtain ⟨f, hf⟩ := exists_error_of_toOption
        (o := (Sitemap.fetch mapOfNoEncoding "http://a/map" (.whole 0)).result) (by decide +kernel)
      exact ⟨f, Sitemap.fetch_eq_error.mp hf⟩
    exact (config_oneMap.mp h).1 f hf

end Load

end Gleaner
