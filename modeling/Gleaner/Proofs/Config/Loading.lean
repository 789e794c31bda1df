import Gleaner.Config.Load
import Gleaner.Proofs.Config.Duplicates
import Gleaner.Proofs.Shape.Member

/-! Configurations that have been loaded. Their items are the pages that their items and sitemaps
mean, each key once, and their schemas are those that are written there or in files. -/

namespace Gleaner

namespace Sitemap

variable {w : Web} {url : String} {t : Web.Seconds} {urls : List String}

/-- The addresses that a sitemap lists, if it is there and well formed. -/
def listing (w : Web) (url : String) : List String :=
  match w.ask url with
  | .error _ => []
  | .ok a => match Xml.parse a.content with
    | .error _ => []
    | .ok document => addresses document

theorem fetch_eq_ok (h : (fetch w url t).result = .ok urls) : urls = listing w url := by
  unfold fetch at h
  unfold listing
  cases hask : w.ask url with
  | error f =>
    rw [hask] at h
    cases htransport : f.isTransport with
    | true =>
      simp only [htransport] at h
      exact (Except.ok.inj h).symm
    | false => simp [htransport] at h
  | ok a =>
    rw [hask] at h
    cases hparse : Xml.parse a.content with
    | ok document =>
      simp only [hparse] at h ⊢
      exact (Except.ok.inj h).symm
    | error f =>
      simp only [hparse] at h ⊢
      cases f with
      | malformed f text => exact (Except.ok.inj h).symm
      | _ => cases h

end Sitemap

namespace Item

variable {w : Web} {t : Web.Seconds} {items kept all seenItems : List Item} {x y page : Item}
  {seen : List (String × String)}

/-- The pages that an item means: those that it lists if it is a sitemap, and otherwise itself. -/
def pages (w : Web) (i : Item) : List Item :=
  if i.isSitemap then (Sitemap.listing w i.url).map fun url => { url, schema := i.schema }
  else [i]

theorem expand_eq_ok (h : (expand w t items).result = .ok all) : all = items.flatMap (pages w) := by
  induction items generalizing all with
  | nil => exact (Except.ok.inj h).symm
  | cons i items ih =>
    rw [List.flatMap_cons, pages]
    rw [expand] at h
    split at h
    next hsitemap =>
      rw [if_pos hsitemap]
      dsimp only at h
      split at h
      next => cases h
      next urls hurls =>
        obtain ⟨others, hothers, rfl⟩ := eq_ok_of_map h
        rw [← ih hothers, Sitemap.fetch_eq_ok hurls]
    next hpage =>
      rw [if_neg hpage]
      obtain ⟨others, hothers, rfl⟩ := eq_ok_of_map h
      rw [← ih hothers]
      rfl

theorem isSitemap_of_mem_pages {i : Item} (h : page ∈ pages w i) : page.isSitemap = false := by
  unfold pages at h
  split at h
  next =>
    obtain ⟨url, -, rfl⟩ := List.mem_map.mp h
    rfl
  next hpage =>
    rw [List.mem_singleton.mp h]
    simpa using hpage

theorem schema_of_mem_pages {i : Item} (h : page ∈ pages w i) : page.schema = i.schema := by
  unfold pages at h
  split at h
  next =>
    obtain ⟨url, -, rfl⟩ := List.mem_map.mp h
    rfl
  next => rw [List.mem_singleton.mp h]

/-- Whether two items have one key. -/
def same (x y : Item) : Bool := x.key = y.key

/-- What is kept of items where the keys that are seen have been kept before. -/
structure Kept (seen : List (String × String)) (items kept : List Item) : Prop where
  sublist : kept.Sublist items
  fresh : ∀ x ∈ kept, ∃ k, x.key = .ok k ∧ k ∉ seen
  distinct : kept.Pairwise fun x y => x.key ≠ y.key
  covers : ∀ x ∈ items, ∃ k, x.key = .ok k ∧ (k ∈ seen ∨ ∃ y ∈ kept, y.key = .ok k)

theorem kept_of_firstsFrom (h : firstsFrom seen items = .ok kept) : Kept seen items kept := by
  induction items generalizing seen kept with
  | nil =>
    cases h
    exact ⟨.slnil, nofun, .nil, nofun⟩
  | cons x items ih =>
    obtain ⟨k, hk⟩ := exists_key h
    by_cases hmem : k ∈ seen
    · rw [firstsFrom_of_mem hk hmem] at h
      have hrest := ih h
      refine ⟨hrest.sublist.cons x, hrest.fresh, hrest.distinct, fun y hy => ?_⟩
      rcases List.mem_cons.mp hy with rfl | hy
      · exact ⟨k, hk, .inl hmem⟩
      · exact hrest.covers y hy
    · rw [firstsFrom_of_notMem hk hmem] at h
      obtain ⟨rest, hrest, rfl⟩ := eq_ok_of_map h
      have hrest := ih hrest
      refine ⟨hrest.sublist.cons_cons x, ?_, ?_, ?_⟩
      · intro y hy
        rcases List.mem_cons.mp hy with rfl | hy
        · exact ⟨k, hk, hmem⟩
        · obtain ⟨l, hl, hnot⟩ := hrest.fresh y hy
          exact ⟨l, hl, fun hseen => hnot (List.mem_cons_of_mem k hseen)⟩
      · refine List.pairwise_cons.mpr ⟨fun y hy hsame => ?_, hrest.distinct⟩
        obtain ⟨l, hl, hnot⟩ := hrest.fresh y hy
        rw [hk, hl] at hsame
        exact hnot (Except.ok.inj hsame ▸ List.mem_cons_self)
      · intro y hy
        rcases List.mem_cons.mp hy with rfl | hy
        · exact ⟨k, hk, .inr ⟨y, List.mem_cons_self, hk⟩⟩
        · obtain ⟨l, hl, hseen | ⟨z, hz, hkey⟩⟩ := hrest.covers y hy
          · rcases List.mem_cons.mp hseen with rfl | hseen
            · exact ⟨l, hl, .inr ⟨x, List.mem_cons_self, hk⟩⟩
            · exact ⟨l, hl, .inl hseen⟩
          · exact ⟨l, hl, .inr ⟨z, List.mem_cons_of_mem x hz, hkey⟩⟩

/-- The items that are kept are the first ones of their keys. -/
theorem loop_of_firstsFrom (hseen : seenItems.map key = seen.map .ok)
    (h : firstsFrom seen items = .ok kept) :
    List.eraseDupsBy.loop same items seenItems = seenItems.reverse ++ kept := by
  -- The loop remembers the items that it has kept where the other one remembers their keys.
  induction items generalizing seen seenItems kept with
  | nil =>
    cases h
    rw [List.append_nil]
    rfl
  | cons x items ih =>
    obtain ⟨k, hk⟩ := exists_key h
    have hany : seenItems.any (same x) = decide (k ∈ seen) := by
      have hmem : (.ok k : Except Url.Fault (String × String)) ∈ seenItems.map key ↔ k ∈ seen := by
        rw [hseen]
        simp
      rw [Bool.eq_iff_iff, List.any_eq_true, decide_eq_true_eq, ← hmem, List.mem_map]
      refine exists_congr fun y => and_congr_right fun _ => ?_
      rw [same, decide_eq_true_eq, hk, eq_comm]
    rw [List.eraseDupsBy.loop, hany]
    by_cases hmem : k ∈ seen
    · rw [firstsFrom_of_mem hk hmem] at h
      rw [decide_eq_true hmem]
      exact ih hseen h
    · rw [firstsFrom_of_notMem hk hmem] at h
      obtain ⟨rest, hrest, rfl⟩ := eq_ok_of_map h
      rw [decide_eq_false hmem]
      have hnext : List.eraseDupsBy.loop same items (x :: seenItems) =
          (x :: seenItems).reverse ++ rest := ih (by simp [hk, hseen]) hrest
      simpa using hnext

theorem eraseDupsBy_of_firsts (h : firsts items = .ok kept) : kept = items.eraseDupsBy same := by
  have hloop : List.eraseDupsBy.loop same items [] = [] ++ kept := loop_of_firstsFrom rfl h
  exact hloop.symm

/-- Items of distinct keys are all kept. -/
theorem firstsFrom_of_distinct (hfresh : ∀ x ∈ items, ∃ k, x.key = .ok k ∧ k ∉ seen)
    (hdistinct : items.Pairwise fun x y => x.key ≠ y.key) :
    firstsFrom seen items = .ok items := by
  induction items generalizing seen with
  | nil => rfl
  | cons x items ih =>
    obtain ⟨hx, hrest⟩ := List.pairwise_cons.mp hdistinct
    obtain ⟨k, hk, hnot⟩ := hfresh x List.mem_cons_self
    rw [firstsFrom_of_notMem hk hnot, ih _ hrest]
    · rfl
    · intro y hy
      obtain ⟨l, hl, hl'⟩ := hfresh y (List.mem_cons_of_mem x hy)
      refine ⟨l, hl, fun hmem => ?_⟩
      rcases List.mem_cons.mp hmem with rfl | hmem
      · exact hx y hy (hk.trans hl.symm)
      · exact hl' hmem

end Item

namespace Load

open Shape

variable {d : Disk} {w : Web} {p folder : Path} {c loaded : Config} {v : Raw} {name : String}
  {entries written resolved : List (Key × Raw)} {schema : Schema}
  {schemas : List (String × Schema)}

/-- How a schema comes from what is written under its name: it is written there, or in the file of
that name. -/
inductive Gives (d : Disk) (folder : Path) (name : String) : Raw → Schema → Prop
  | file {file : String} {v : Raw} {schema : Schema} : d.isThere (folder.join file) = .ok true →
      readValue d (folder.join file) = .ok v → Schema.readSchema "" v = .ok schema →
      Gives d folder name (.str file) schema
  | inline {v : Raw} {schema : Schema} : (∀ file, v ≠ .str file) →
      Schema.readSchema name v = .ok schema → Gives d folder name v schema

theorem gives_of_resolve (h : resolve d folder name v = .ok schema) :
    Gives d folder name v schema := by
  unfold resolve at h
  split at h
  next file =>
    unfold readSchema readIfThere at h
    split at h
    next => cases h
    next v hread =>
      split at hread
      next => cases hread
      next => cases hread
      next hthere =>
        split at h
        next => cases h
        next s hschema =>
          cases h
          exact .file hthere hread hschema
  next hnot =>
    split at h
    next => cases h
    next s hschema =>
      cases h
      exact .inline hnot hschema

theorem resolveAll_eq_ok (h : resolveAll d folder written = .ok resolved) :
    List.Forall₂ (fun e r => ∃ schema, r = (e.1, .leaf (.node (.nested schema))) ∧
      Gives d folder (Json.keyName e.1) e.2 schema) written resolved := by
  induction written generalizing resolved with
  | nil =>
    cases h
    exact .nil
  | cons e written ih =>
    obtain ⟨key, v⟩ := e
    rw [resolveAll] at h
    split at h
    next => cases h
    next schema hschema =>
      obtain ⟨rest, hrest, rfl⟩ := eq_ok_of_map h
      exact .cons ⟨schema, rfl, gives_of_resolve hschema⟩ (ih hrest)

/-- The schemas of a configuration are those that its entries give. -/
theorem gives_of_readSchemas (hresolved : resolveAll d folder written = .ok resolved)
    (h : readSchemas (.map resolved) = .ok schemas) :
    List.Forall₂ (fun e s => e.1 = .str s.1 ∧ Gives d folder s.1 e.2 s.2) written schemas := by
  have hentries := resolveAll_eq_ok hresolved
  rw [readSchemas, Checked.all_eq_ok] at h
  clear hresolved
  induction hentries generalizing schemas with
  | nil =>
    rw [List.map_eq_nil_iff.mp h.symm]
    exact .nil
  | @cons e r written resolved hentry _ ih =>
    obtain ⟨schema, rfl, hgives⟩ := hentry
    cases schemas with
    | nil => cases h
    | cons s schemas =>
      obtain ⟨hfirst, hrest⟩ := List.cons.inj h
      obtain ⟨hkey, hschema⟩ := readEntry_eq_ok.mp hfirst
      refine .cons ⟨hkey, ?_⟩ (ih hrest)
      rw [Schema.Typed.nested, Except.ok.injEq] at hschema
      rw [hkey] at hgives
      exact hschema ▸ hgives

/-- The items that the entries of a configuration list. -/
def Lists (entries : List (Key × Raw)) (items : List Item) : Prop :=
  match Value.lookup? entries "items" with
  | none => items = []
  | some v => ∃ vs, v = .list vs ∧ vs.map Item.read = items.map .ok

/-- The schemas in the entries of a configuration, as they are written. -/
def schemasIn (entries : List (Key × Raw)) : Raw :=
  (Value.lookup? entries "schemas").getD (.map [])

theorem lists_of_read (hitems : Value.lookup? entries "items" = Value.lookup? resolved "items")
    (h : defaulted resolved ["items"] [] (readList Item.read) = .ok c.items) :
    Lists entries c.items := by
  unfold Lists
  rw [hitems]
  rcases defaulted_eq_ok.mp h with ⟨hnone, hempty⟩ | ⟨name, v, hmember, hread⟩
  · rw [member?_single, Option.map_eq_none_iff] at hnone
    rw [hnone]
    exact hempty
  · obtain ⟨hname, hfound⟩ := mem_of_member? hmember
    rw [List.mem_singleton.mp hname] at hfound
    rw [hfound]
    cases v with
    | list vs => exact ⟨vs, rfl, readItems_eq_ok.mp hread⟩
    | _ => simp [readList] at hread

theorem members_of_read (h : Config.read (.map entries) = .ok c) :
    defaulted entries ["schemas"] [] readSchemas = .ok c.schemas ∧
      defaulted entries ["items"] [] (readList Item.read) = .ok c.items := by
  obtain ⟨⟨strategy, defaults⟩, ⟨schemas, items⟩, -, hboth, rfl⟩ := Checked.both_eq_ok.mp h
  obtain ⟨_, _, hschemas, hitems, hpair⟩ := Checked.both_eq_ok.mp hboth
  cases hpair
  exact ⟨hschemas, hitems⟩

/-- A configuration as it is written lists its items and gives its schemas, and each of its items has
a schema. -/
theorem readConfig_eq_ok (h : readConfig d p = .ok c) :
    ∃ entries written, readValue d p = .ok (.map entries) ∧ Lists entries c.items ∧
      schemasIn entries = .map written ∧
      List.Forall₂ (fun e s => e.1 = .str s.1 ∧ Gives d p.parent s.1 e.2 s.2) written c.schemas ∧
      ∀ i ∈ c.items, i.schema ∈ c.schemas.map (·.1) := by
  unfold readConfig at h
  split at h
  next => cases h
  next entries hentries =>
    split at h
    next => cases h
    next resolved hresolved =>
      split at h
      next => cases h
      next c' hread =>
        split at h
        next => cases h
        next hfind =>
          cases h
          unfold resolveIn at hresolved
          split at hresolved
          next written hwritten =>
            obtain ⟨list, hlist, rfl⟩ := eq_ok_of_map hresolved
            obtain ⟨hschemas, hitems⟩ := members_of_read hread
            refine ⟨entries, written, hentries, lists_of_read ?_ hitems, hwritten,
              gives_of_readSchemas hlist ?_, ?_⟩
            -- Only the schemas are replaced, so the items are read as they are written.
            · exact (Value.lookup?_putEntry_of_ne (by decide)).symm
            · rcases defaulted_eq_ok.mp hschemas with ⟨hnone, -⟩ | ⟨name, v, hmember, hlist⟩
              · simp [member?_single, Value.lookup?_putEntry] at hnone
              · rw [member?_single, Value.lookup?_putEntry] at hmember
                cases hmember
                exact hlist
            · intro i hi
              have hknown := List.find?_eq_none.mp hfind i hi
              simpa using hknown
          next => cases hresolved
  next => cases h

theorem settle_eq_ok (h : (settle w c).result = .ok loaded) :
    ∃ kept, Item.firsts (c.items.flatMap (Item.pages w)) = .ok kept ∧
      loaded = { c with items := kept } := by
  unfold settle at h
  dsimp only at h
  split at h
  next => cases h
  next all hall =>
    split at h
    next => cases h
    next kept hkept =>
      rw [Item.expand_eq_ok hall] at hkept
      exact ⟨kept, hkept, (Except.ok.inj h).symm⟩

theorem config_eq_ok (h : (config d w p).result = .ok loaded) :
    ∃ c, readConfig d p = .ok c ∧ (settle w c).result = .ok loaded := by
  unfold config at h
  split at h
  next => cases h
  next => cases h
  next =>
    dsimp only at h
    split at h
    next => cases h
    next c hread => exact ⟨c, hread, h⟩

/-- A configuration whose items are the pages that these items mean, and whose schemas are those
that are written. -/
structure WellFormed (d : Disk) (w : Web) (folder : Path) (items : List Item)
    (written : List (Key × Raw)) (c : Config) : Prop where
  /-- The pages in order, each where its key is met first. -/
  firsts : c.items = (items.flatMap (Item.pages w)).eraseDupsBy fun x y => x.key = y.key
  keyed : ∀ i ∈ c.items, ∃ k, i.key = .ok k
  distinct : c.items.Pairwise fun x y => x.key ≠ y.key
  plain : ∀ i ∈ c.items, i.isSitemap = false
  represented : ∀ i ∈ items, ∀ page ∈ Item.pages w i, ∃ kept ∈ c.items, kept.key = page.key
  named : ∀ i ∈ c.items, i.schema ∈ c.schemas.map (·.1)
  settled : Item.firsts c.items = .ok c.items
  schemas : List.Forall₂ (fun e s => e.1 = .str s.1 ∧ Gives d folder s.1 e.2 s.2) written c.schemas

theorem wellFormed_settle (h : (settle w c).result = .ok loaded)
    (hnamed : ∀ i ∈ c.items, i.schema ∈ c.schemas.map (·.1))
    (hschemas : List.Forall₂ (fun e s => e.1 = .str s.1 ∧ Gives d folder s.1 e.2 s.2) written
      c.schemas) : WellFormed d w folder c.items written loaded := by
  obtain ⟨kept, hkept, rfl⟩ := settle_eq_ok h
  have hfacts := Item.kept_of_firstsFrom hkept
  have hsource : ∀ page ∈ kept, ∃ i ∈ c.items, page ∈ Item.pages w i :=
    fun page hpage => List.mem_flatMap.mp (hfacts.sublist.subset hpage)
  exact {
    firsts := Item.eraseDupsBy_of_firsts hkept
    keyed := fun i hi => (hfacts.fresh i hi).imp fun _ hk => hk.1
    distinct := hfacts.distinct
    plain := by
      intro page hpage
      obtain ⟨i, -, hi⟩ := hsource page hpage
      exact Item.isSitemap_of_mem_pages hi
    represented := by
      intro i hi page hpage
      obtain ⟨k, hk, hseen | ⟨y, hy, hkey⟩⟩ :=
        hfacts.covers page (List.mem_flatMap.mpr ⟨i, hi, hpage⟩)
      · exact absurd hseen List.not_mem_nil
      · exact ⟨y, hy, hkey.trans hk.symm⟩
    named := by
      intro page hpage
      obtain ⟨i, hi, hmem⟩ := hsource page hpage
      rw [Item.schema_of_mem_pages hmem]
      exact hnamed i hi
    settled := Item.firstsFrom_of_distinct hfacts.fresh hfacts.distinct
    schemas := hschemas }

/-- Every configuration that loads is well formed. -/
theorem config_wellFormed (h : (config d w p).result = .ok c) :
    ∃ entries items written, readValue d p = .ok (.map entries) ∧ Lists entries items ∧
      schemasIn entries = .map written ∧ WellFormed d w p.parent items written c := by
  obtain ⟨c', hread, hsettle⟩ := config_eq_ok h
  obtain ⟨entries, written, hentries, hlists, hwritten, hschemas, hnamed⟩ := readConfig_eq_ok hread
  exact ⟨entries, c'.items, written, hentries, hlists, hwritten,
    wellFormed_settle hsettle hnamed hschemas⟩

/-- A configuration of a sitemap and a page, with one schema in a file and one that is written out. -/
def mapAndPage : String :=
  "\x7b\"schemas\": \x7b\"s\": \"s.json\", \"t\": \x7b\"at\": \x7b\"meta\": \"url\"\x7d\x7d\x7d, " ++
    "\"items\": [\x7b\"url\": \"http://a/map\", \"schema\": \"s\", \"isSitemap\": true\x7d, " ++
    "\x7b\"url\": \"http://a/x/\", \"schema\": \"s\"\x7d]\x7d"

def mapAndPageDisk : Disk where
  entries := [(["c.json"], .file (Text.octetsOf mapAndPage)),
    (["s.json"], .file (Text.octetsOf "\x7b\"by\": \x7b\"selector\": \"b\"\x7d\x7d"))]

/-- A sitemap of two pages. -/
def mapOnly : Web := [("http://a/map", .ok { content := Text.octetsOf ("<urlset xmlns=\"" ++
  Sitemap.space ++ "\"><loc>http://a/x#top</loc><loc>http://a/y</loc></urlset>") })]

theorem config_wellFormed_sitemap :
    ∃ c entries items written, (config mapAndPageDisk mapOnly (Path.ofString "c.json")).result =
        .ok c ∧ c.items = [⟨"http://a/x#top", "s", false⟩, ⟨"http://a/y", "s", false⟩] ∧
      Lists entries items ∧
      WellFormed mapAndPageDisk mapOnly (Path.ofString "c.json").parent items written c := by
  have hitems : (config mapAndPageDisk mapOnly (Path.ofString "c.json")).result.toOption.map
      (·.items) = some [⟨"http://a/x#top", "s", false⟩, ⟨"http://a/y", "s", false⟩] := by
    decide +kernel
  obtain ⟨c, hoption, hc⟩ := Option.map_eq_some_iff.mp hitems
  have hload := eq_ok_of_toOption hoption
  obtain ⟨entries, items, written, -, hlists, -, hwell⟩ := config_wellFormed hload
  exact ⟨c, entries, items, written, hload, hc, hlists, hwell⟩

end Load

end Gleaner
