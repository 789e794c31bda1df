import Gleaner.Proofs.Config.Sitemaps
import Gleaner.Proofs.Json.Strict
import Gleaner.Proofs.Schema.Blame
import Gleaner.Proofs.Text.Utf8

/-! A schema may be written in a configuration or in a file of its own. It makes no difference to
what is loaded, and to what is refused only in the route. -/

namespace Gleaner

section Entries

variable {β : Type} {entries : List (Key × β)} {name : String} {a b : β}

theorem putEntry_putEntry :
    putEntry (putEntry entries (.str name) a) (.str name) b = putEntry entries (.str name) b := by
  induction entries with
  | nil => simp [putEntry, Key.same_str]
  | cons e entries ih =>
    obtain ⟨k, c⟩ := e
    by_cases hsame : k.same (.str name)
    · simp [putEntry, hsame]
    · simp [putEntry, hsame, ih]

end Entries

namespace Disk

variable {d : Disk} {p : Path} {content : Text.Octets}

theorem isThere_of_read (h : d.read p = .ok content) : d.isThere p = .ok true := by
  unfold read at h
  unfold isThere
  split at h
  next => cases h
  next => cases h
  next => cases h
  next hlocate => rw [hlocate]; rfl

end Disk

namespace Load

variable {d e : Disk} {w : Web} {p q folder there : Path} {v u : Raw} {name file : String}
  {key : Key} {entries before after written resolved : List (Key × Raw)} {f : Failure}

theorem isThere_of_readValue (h : readValue d p = .ok v) : d.isThere p = .ok true := by
  unfold readValue readText at h
  split at h
  next => cases h
  next htext =>
    split at htext
    next => cases htext
    next hread => exact Disk.isThere_of_read hread

section Resolving

theorem resolve_inline (hnot : ∀ s, v ≠ .str s) :
    resolve d folder name v = (Schema.readSchema name v).mapError .schema := by
  unfold resolve
  split
  next s => exact absurd rfl (hnot s)
  next => cases Schema.readSchema name v <;> rfl

theorem resolve_file (hfile : readValue d (folder.join file) = .ok v) :
    resolve d folder name (.str file) = (Schema.readSchema "" v).mapError .schema := by
  have hthere := isThere_of_readValue hfile
  simp only [resolve, readSchema, readIfThere, hthere, hfile]
  cases Schema.readSchema "" v <;> rfl

/-- Two disks have the same at a path. -/
def SameAt (d e : Disk) (p : Path) : Prop := d.isThere p = e.isThere p ∧ d.read p = e.read p

theorem resolve_congr (h : ∀ file, v = .str file → SameAt d e (folder.join file)) :
    resolve d folder name v = resolve e folder name v := by
  cases v with
  | str file =>
    obtain ⟨hthere, hread⟩ := h file rfl
    simp only [resolve, readSchema, readIfThere, readValue, readText, hthere, hread]
  | _ => rfl

theorem resolveAll_cons (hfirst : resolve d folder (Json.keyName key) v = .error f) :
    resolveAll d folder ((key, v) :: after) = .error f := by
  rw [resolveAll, hfirst]

theorem resolveAll_of_error (h : resolveAll d folder before = .error f) :
    resolveAll d folder (before ++ after) = .error f := by
  induction before with
  | nil => cases h
  | cons x before ih =>
    rw [resolveAll] at h
    rw [List.cons_append, resolveAll]
    split at h
    next => exact h
    next => rw [ih (eq_error_of_map h)]; rfl

theorem resolveAll_of_ok (h : resolveAll d folder before = .ok resolved)
    (hrest : resolveAll d folder after = .error f) :
    resolveAll d folder (before ++ after) = .error f := by
  induction before generalizing resolved with
  | nil => exact hrest
  | cons x before ih =>
    rw [resolveAll] at h
    rw [List.cons_append, resolveAll]
    split at h
    next => cases h
    next =>
      obtain ⟨others, hothers, -⟩ := eq_ok_of_map h
      rw [ih hothers]
      rfl

/-- The entries of two configurations have the same keys and resolve to the same. -/
def Resolved (d e : Disk) (folder there : Path) (x y : Key × Raw) : Prop :=
  x.1 = y.1 ∧ resolve d folder (Json.keyName x.1) x.2 = resolve e there (Json.keyName y.1) y.2

theorem resolveAll_congr (h : List.Forall₂ (Resolved d e folder there) before after) :
    resolveAll d folder before = resolveAll e there after := by
  induction h with
  | nil => rfl
  | @cons x y _ _ hxy _ ih =>
    obtain ⟨hkey, hresolve⟩ := hxy
    rw [resolveAll, resolveAll, hresolve, ih, hkey]

end Resolving

section Completing

/-- The configuration that entries say, with their schemas resolved. -/
def complete (entries : List (Key × Raw)) : Except Failure Config :=
  match Config.read (.map entries) with
  | .error cs => .error (.shape cs)
  | .ok c => match c.items.find? fun i => !c.schemas.any (·.1 = i.schema) with
    | some i => .error (.unknownSchema i)
    | none => .ok c

theorem readConfig_eq (hread : readValue d p = .ok (.map entries))
    (hwritten : schemasIn entries = .map written) :
    readConfig d p = (resolveAll d p.parent written).bind fun resolved =>
      complete (putEntry entries (.str "schemas") (.map resolved)) := by
  rw [schemasIn] at hwritten
  simp only [readConfig, hread, resolveIn, hwritten]
  cases resolveAll d p.parent written <;> rfl

theorem result_config_eq (hthere : d.isThere p = .ok true) :
    (config d w p).result = (readConfig d p).bind fun c => (settle w c).result := by
  simp only [config, hthere]
  cases readConfig d p <;> rfl

/-- A failure of the schemas is the failure of the configuration. -/
theorem result_of_unresolved (hread : readValue d p = .ok (.map entries))
    (hwritten : schemasIn entries = .map written)
    (h : resolveAll d p.parent written = .error f) : (config d w p).result = .error f := by
  rw [result_config_eq (isThere_of_readValue hread), readConfig_eq hread hwritten, h]
  rfl

end Completing

/-- Two configurations that are the same but for one schema, which the first has written out and the
second in a file. -/
structure Twofold (d e : Disk) (p q : Path) (before after : List (Key × Raw)) (name : String)
    (v : Raw) : Prop where
  folder : q.parent = p.parent
  others : ∀ x ∈ before ++ after, ∀ file, x.2 = .str file → SameAt d e (p.parent.join file)
  written : ∃ entries file, readValue d p = .ok (.map entries) ∧
    Value.lookup? entries "schemas" = some (.map (before ++ (.str name, v) :: after)) ∧
    readValue e q = .ok (.map (putEntry entries (.str "schemas")
      (.map (before ++ (.str name, .str file) :: after)))) ∧
    readValue e (q.parent.join file) = .ok v

/-- What stands beside the one schema resolves to the same on both disks. -/
theorem Twofold.beside (h : Twofold d e p q before after name v) :
    ∀ x ∈ before ++ after, Resolved d e p.parent q.parent x x := by
  intro x hx
  rw [h.folder]
  exact ⟨rfl, resolve_congr (h.others x hx)⟩

theorem Twofold.forall₂_before (h : Twofold d e p q before after name v) :
    List.Forall₂ (Resolved d e p.parent q.parent) before before :=
  List.forall₂_same.mpr fun x hx => h.beside x (List.mem_append_left after hx)

theorem Twofold.forall₂_after (h : Twofold d e p q before after name v) :
    List.Forall₂ (Resolved d e p.parent q.parent) after after :=
  List.forall₂_same.mpr fun x hx => h.beside x (List.mem_append_right before hx)

theorem Twofold.resolveAll_eq (h : Twofold d e p q before after name v)
    (hone : resolve d p.parent name v = resolve e q.parent name u) :
    resolveAll d p.parent (before ++ (.str name, v) :: after) =
      resolveAll e q.parent (before ++ (.str name, u) :: after) := by
  exact resolveAll_congr (List.rel_append h.forall₂_before (.cons ⟨rfl, hone⟩ h.forall₂_after))

/-- A file with the text of a value. -/
def fileOf (v : Raw) : Disk.Entry := .file (Text.octetsOf (String.ofList (Json.text .line 0 v)))

theorem readValue_fileOf {place : List String} (h : Json.Readable v)
    (hlocate : d.locate p = .ok (place, some (fileOf v)))
    (hopen : d.closed.contains place = false) :
    readValue d p = .ok v := by
  have hlines := Text.unifyLines_of_notMem (Json.return_notMem (Json.fault?_of_readable h) .line)
  have htext : readText d p = .ok (String.ofList (Json.text .line 0 v)) := by
    simp only [readText, Disk.read, hlocate, fileOf, hopen, Text.Utf8.decode_octetsOf,
      String.toList_ofList, hlines, Bool.false_eq_true, if_false]
  rw [readValue, htext]
  simp only [Json.decode_text h .line]

/-- A configuration with these schemas and nothing else. -/
def ofSchemas (schemas : List (Key × Raw)) : Raw := .map [(.str "schemas", .map schemas)]

theorem readable_ofSchemas (h : Json.Readable (.map entries)) :
    Json.Readable (ofSchemas entries) :=
  ⟨distinct_cons.mpr ⟨⟨_, rfl⟩, nofun, distinct_nil⟩, h, trivial⟩

/-- Two configurations with a value as the last schema, written out in one and in a file for the
other. -/
def bothWays (before : List (Key × Raw)) (v : Raw) : Disk where
  entries := [(["c.json"], fileOf (ofSchemas (before ++ [(.str "s", v)]))),
    (["f.json"], fileOf (ofSchemas (before ++ [(.str "s", .str "s.json")]))),
    (["s.json"], fileOf v)]

theorem twofold_bothWays (hbefore : Json.Readable (.map before))
    (hnew : ∀ e ∈ before, e.1 ≠ .str "s") (hv : Json.Readable v) :
    Twofold (bothWays before v) (bothWays before v) { parts := ["c.json"] } { parts := ["f.json"] }
      before [] "s" v where
  folder := rfl
  others := fun _ _ _ _ => ⟨rfl, rfl⟩
  written := by
    have hwritten := readable_ofSchemas (Json.readable_concat hbefore hnew hv)
    have hfile : Json.Readable (ofSchemas (before ++ [(.str "s", .str "s.json")])) :=
      readable_ofSchemas (Json.readable_concat hbefore hnew trivial)
    have hjoin : ({ parts := ["f.json"] } : Path).parent.join "s.json" =
        { parts := ["s.json"] } := by decide +kernel
    have hplace : (bothWays before v).locate { parts := ["s.json"] } =
        .ok (["s.json"], some (fileOf v)) := rfl
    exact ⟨_, "s.json", readValue_fileOf hwritten rfl rfl, rfl, readValue_fileOf hfile rfl rfl,
      readValue_fileOf hv (hjoin ▸ hplace) rfl⟩

/-- A schema that is written out in a configuration may as well stand in a file: what is loaded is
the same, and so is a failure of a schema before it. Its own failure is the same, but that the route
of the one that is written out goes on from its name. -/
theorem config_inline (h : Twofold d e p q before after name v) (hnot : ∀ s, v ≠ .str s)
    (plain : v.Plain) (named : v.Named) (hname : name ≠ "") (w : Web) :
    ((∃ schema, Schema.SchemaOf v schema) → (config d w p).result = (config e w q).result) ∧
      (∀ f, resolveAll d p.parent before = .error f →
        (config d w p).result = .error f ∧ (config e w q).result = .error f) ∧
      ((∃ resolved, resolveAll d p.parent before = .ok resolved) →
        (¬ ∃ schema, Schema.SchemaOf v schema) →
        ∃ r, (config e w q).result = .error (.schema r) ∧
          (config d w p).result = .error (.schema
            ⟨if r.route = "" then name else name ++ "." ++ r.route, r.fault⟩)) := by
  obtain ⟨entries, file, hp, hfound, hq, hfile⟩ := h.written
  have hfirst : schemasIn entries = .map (before ++ (.str name, v) :: after) := by
    rw [schemasIn, hfound]
    rfl
  have hsecond : schemasIn (putEntry entries (.str "schemas")
      (.map (before ++ (.str name, .str file) :: after))) =
      .map (before ++ (.str name, .str file) :: after) := by
    rw [schemasIn, Value.lookup?_putEntry]
    rfl
  have hreads := (Schema.read_eq_ok plain).2
  have hinline : resolve d p.parent name v = _ := resolve_inline hnot
  have hother : resolve e q.parent name (.str file) = _ := resolve_file hfile
  refine ⟨?_, ?_, ?_⟩
  · rintro ⟨schema, hschema⟩
    have hone : resolve d p.parent name v = resolve e q.parent name (.str file) := by
      rw [hinline, hother, (hreads name schema).mpr hschema, (hreads "" schema).mpr hschema]
    rw [result_config_eq (isThere_of_readValue hp), result_config_eq (isThere_of_readValue hq),
      readConfig_eq hp hfirst, readConfig_eq hq hsecond, h.resolveAll_eq hone]
    simp only [putEntry_putEntry]
  · intro f hbefore
    have hbefore' := hbefore
    rw [resolveAll_congr h.forall₂_before] at hbefore'
    exact ⟨result_of_unresolved hp hfirst (resolveAll_of_error hbefore),
      result_of_unresolved hq hsecond (resolveAll_of_error hbefore')⟩
  · rintro ⟨resolved, hbefore⟩ hinvalid
    have hbefore' := hbefore
    rw [resolveAll_congr h.forall₂_before] at hbefore'
    cases hread : Schema.readSchema "" v with
    | ok schema => exact absurd ⟨schema, (hreads "" schema).mp hread⟩ hinvalid
    | error r =>
      rw [Schema.readSchema_under plain named hname, hread] at hinline
      rw [hread] at hother
      have hinlineFails : resolve d p.parent name v =
        .error (.schema (Schema.Refusal.under name r)) := hinline
      have hfileFails : resolve e q.parent name (.str file) = .error (.schema r) := hother
      exact ⟨r,
        result_of_unresolved hq hsecond (resolveAll_of_ok hbefore' (resolveAll_cons hfileFails)),
        result_of_unresolved hp hfirst (resolveAll_of_ok hbefore (resolveAll_cons hinlineFails))⟩

/-- A schema that is sound, and one that is not, in both ways. -/
def sound : Raw := .map [(.str "at", .map [(.str "meta", .str "url")])]

def unsound : Raw := .map [(.str "at", .int 7)]

/-- The route of the schema error that loading ends in. -/
def blamed? (o : Except Failure Config) : Option String :=
  match o with
  | .error (.schema r) => some r.route
  | _ => none

theorem config_inline_both :
    (∃ c, (config (bothWays [] sound) [] { parts := ["c.json"] }).result = .ok c ∧
      (config (bothWays [] sound) [] { parts := ["f.json"] }).result = .ok c) ∧
    ∃ fault, (config (bothWays [] unsound) [] { parts := ["f.json"] }).result =
        .error (.schema ⟨"at", fault⟩) ∧
      (config (bothWays [] unsound) [] { parts := ["c.json"] }).result =
        .error (.schema ⟨"s.at", fault⟩) := by
  constructor
  · have hplain : sound.Plain := by simp [sound, Raw.plain_map, Raw.Plain.str]
    have hnamed : sound.Named := by simp [sound, Raw.named_map, Raw.Named.other]
    have hboth : Twofold (bothWays [] sound) (bothWays [] sound) { parts := ["c.json"] }
        { parts := ["f.json"] } [] [] "s" sound := by
      refine twofold_bothWays ⟨distinct_nil, trivial⟩ nofun ?_
      simp [sound, Json.Readable, Json.ReadableEntries, distinct_cons, distinct_nil]
    have hschema : ∃ schema, Schema.SchemaOf sound schema :=
      ⟨_, ((Schema.read_eq_ok hplain).2 "" _).mp rfl⟩
    obtain ⟨hsame, -⟩ := config_inline hboth (by simp [sound]) hplain hnamed (by decide) []
    have hloads : (config (bothWays [] sound) [] { parts := ["c.json"] }).result.toOption.map
        (·.items) = some [] := by decide +kernel
    obtain ⟨c, hoption, -⟩ := Option.map_eq_some_iff.mp hloads
    have hc := eq_ok_of_toOption hoption
    exact ⟨c, hc, hsame hschema ▸ hc⟩
  · have hplain : unsound.Plain := by simp [unsound, Raw.plain_map, Raw.Plain.int]
    have hnamed : unsound.Named := by simp [unsound, Raw.named_map, Raw.Named.other]
    have hboth : Twofold (bothWays [] unsound) (bothWays [] unsound) { parts := ["c.json"] }
        { parts := ["f.json"] } [] [] "s" unsound := by
      refine twofold_bothWays ⟨distinct_nil, trivial⟩ nofun ?_
      simp [unsound, Json.Readable, Json.ReadableEntries, distinct_cons, distinct_nil]
    have hinvalid : ¬ ∃ schema, Schema.SchemaOf unsound schema := by
      rintro ⟨schema, hschema⟩
      cases ((Schema.read_eq_ok hplain).2 "" schema).mpr hschema
    obtain ⟨-, -, hblamed⟩ := config_inline hboth (by simp [unsound]) hplain hnamed (by decide) []
    obtain ⟨⟨route, fault⟩, hfile, hinline⟩ := hblamed ⟨_, rfl⟩ hinvalid
    have hroute : blamed? (config (bothWays [] unsound) [] { parts := ["f.json"] }).result =
        some "at" := by decide +kernel
    rw [hfile] at hroute
    cases hroute
    exact ⟨fault, hfile, hinline⟩

/-- A schema whose file is not there. -/
def absent : List (Key × Raw) := [(.str "a", .str "none.json")]

/-- Where a schema before it cannot be read, one that is not valid is not looked at. -/
theorem config_inline_masked :
    Twofold (bothWays absent (.int 7)) (bothWays absent (.int 7)) { parts := ["c.json"] }
        { parts := ["f.json"] } absent [] "s" (.int 7) ∧
      (¬ ∃ schema, Schema.SchemaOf (.int 7) schema) ∧
      (∀ r, (config (bothWays absent (.int 7)) [] { parts := ["c.json"] }).result ≠
        .error (.schema r)) ∧
      ∀ r, (config (bothWays absent (.int 7)) [] { parts := ["f.json"] }).result ≠
        .error (.schema r) := by
  have hboth : Twofold (bothWays absent (.int 7)) (bothWays absent (.int 7))
      { parts := ["c.json"] } { parts := ["f.json"] } absent [] "s" (.int 7) :=
    twofold_bothWays ⟨distinct_cons.mpr ⟨⟨_, rfl⟩, nofun, distinct_nil⟩, trivial, trivial⟩
      (by simp [absent]) trivial
  have hinvalid : ¬ ∃ schema, Schema.SchemaOf (.int 7) schema := by
    rintro ⟨schema, hschema⟩
    cases ((Schema.read_eq_ok (.int 7)).2 "" schema).mpr hschema
  have hinline : blamed? (config (bothWays absent (.int 7)) [] { parts := ["c.json"] }).result =
      none := by decide +kernel
  have hfile : blamed? (config (bothWays absent (.int 7)) [] { parts := ["f.json"] }).result =
      none := by decide +kernel
  refine ⟨hboth, hinvalid, fun r hr => ?_, fun r hr => ?_⟩
  · rw [hr] at hinline
    cases hinline
  · rw [hr] at hfile
    cases hfile

end Load

end Gleaner
