import Gleaner.Proofs.Config.Tagged
import Gleaner.Proofs.Json.Strict
import Gleaner.Proofs.Store.Files
import Gleaner.Proofs.Store.Record
import Gleaner.Proofs.Text.Utf8
import Gleaner.Proofs.Walk.Distinct

/-! The record of a result has all that was found, and comes back whole from its text, also from a
file of many. -/

namespace Gleaner

mutual

/-- A value as it was found, but that a number that is not finite is null. -/
inductive Kept : Datum → Raw → Prop where
  | text (s : String) : Kept (.text s) (.str s)
  | finite {x : Float} : x.isFinite = true → Kept (.number x) (.float x)
  | notFinite {x : Float} : x.isFinite = false → Kept (.number x) .null
  | truth (b : Bool) : Kept (.truth b) (.bool b)
  | record {fields : List (String × Datum)} {entries : List (Key × Raw)} :
      KeptFields fields entries → Kept (.record fields) (.map entries)
  | items {ds : List Datum} {vs : List Raw} : KeptItems ds vs → Kept (.items ds) (.list vs)

/-- The same names in the same order, and their values. -/
inductive KeptFields : List (String × Datum) → List (Key × Raw) → Prop where
  | nil : KeptFields [] []
  | cons {name : String} {d : Datum} {v : Raw} {fields : List (String × Datum)}
      {entries : List (Key × Raw)} : Kept d v → KeptFields fields entries →
      KeptFields ((name, d) :: fields) ((.str name, v) :: entries)

inductive KeptItems : List Datum → List Raw → Prop where
  | nil : KeptItems [] []
  | cons {d : Datum} {v : Raw} {ds : List Datum} {vs : List Raw} :
      Kept d v → KeptItems ds vs → KeptItems (d :: ds) (v :: vs)

end

mutual

theorem kept_toValue (d : Datum) : Kept d d.toValue := by
  cases d with
  | text s => exact .text s
  | truth b => exact .truth b
  | number x =>
    rw [Datum.toValue]
    split
    next hfinite => exact .finite hfinite
    next hfinite => exact .notFinite (Bool.eq_false_iff.mpr hfinite)
  | record fields => exact .record (keptFields_fieldsToEntries fields)
  | items ds => exact .items (keptItems_itemsToValues ds)

theorem keptFields_fieldsToEntries (fields : List (String × Datum)) :
    KeptFields fields (fieldsToEntries fields) := by
  cases fields with
  | nil => exact .nil
  | cons field rest => exact .cons (kept_toValue field.2) (keptFields_fieldsToEntries rest)

theorem keptItems_itemsToValues (ds : List Datum) : KeptItems ds (itemsToValues ds) := by
  cases ds with
  | nil => exact .nil
  | cons d rest => exact .cons (kept_toValue d) (keptItems_itemsToValues rest)

end

namespace Raw

mutual

/-- The numbers with a point in a value, in the order of writing. -/
def numbers : Raw → List Float
  | .float x => [x]
  | .list vs => numbersOfItems vs
  | .map es => numbersOfEntries es
  | _ => []

def numbersOfItems : List Raw → List Float
  | [] => []
  | v :: vs => numbers v ++ numbersOfItems vs

def numbersOfEntries : List (Key × Raw) → List Float
  | [] => []
  | (_, v) :: es => numbers v ++ numbersOfEntries es

end

/-- Each number in a value is read as itself from its own text. -/
def Returns (v : Raw) : Prop := ∀ x ∈ v.numbers, Decimal.read? (Decimal.render x) = some x

end Raw

namespace Store

mutual

theorem finite_of_fault? {v : Raw} (h : Json.fault? v = none) :
    ∀ x ∈ v.numbers, x.isFinite = true := by
  cases v with
  | float x =>
    have hfinite : x.isFinite = true := by
      simpa [Json.fault?, Json.floatFault?] using h
    simpa [Raw.numbers] using hfinite
  | list vs => exact finite_of_itemsFault? h
  | map es => exact finite_of_entriesFault? h
  | _ => simp [Raw.numbers]

theorem finite_of_itemsFault? {vs : List Raw} (h : Json.itemsFault? vs = none) :
    ∀ x ∈ Raw.numbersOfItems vs, x.isFinite = true := by
  cases vs with
  | nil => simp [Raw.numbersOfItems]
  | cons v vs =>
    obtain ⟨hfirst, hrest⟩ := Json.itemsFault?_cons.mp h
    exact List.forall_mem_append.mpr ⟨finite_of_fault? hfirst, finite_of_itemsFault? hrest⟩

theorem finite_of_entriesFault? {es : List (Key × Raw)} (h : Json.entriesFault? es = none) :
    ∀ x ∈ Raw.numbersOfEntries es, x.isFinite = true := by
  cases es with
  | nil => simp [Raw.numbersOfEntries]
  | cons e es =>
    obtain ⟨k, v⟩ := e
    obtain ⟨hfirst, hrest⟩ := Json.entriesFault?_cons h
    exact List.forall_mem_append.mpr ⟨finite_of_fault? hfirst, finite_of_entriesFault? hrest⟩

end

mutual

theorem named_toValue (d : Datum) : named d.toValue = d.toValue := by
  cases d with
  | number x =>
    rw [Datum.toValue]
    split <;> rfl
  | record fields => rw [Datum.toValue, named, namedEntries_fieldsToEntries fields]
  | items ds => rw [Datum.toValue, named, namedItems_itemsToValues ds]
  | _ => rfl

theorem namedEntries_fieldsToEntries (fields : List (String × Datum)) :
    namedEntries (fieldsToEntries fields) = fieldsToEntries fields := by
  cases fields with
  | nil => rfl
  | cons field rest =>
    rw [fieldsToEntries, namedEntries, named_toValue field.2, namedEntries_fieldsToEntries rest]

theorem namedItems_itemsToValues (ds : List Datum) :
    namedItems (itemsToValues ds) = itemsToValues ds := by
  cases ds with
  | nil => rfl
  | cons d rest => rw [itemsToValues, namedItems, named_toValue d, namedItems_itemsToValues rest]

end

theorem keys_fieldsToEntries (fields : List (String × Datum)) :
    (fieldsToEntries fields).map (·.1) = fields.map fun field => Key.str field.1 := by
  induction fields with
  | nil => rfl
  | cons field rest ih => simp [fieldsToEntries, ih]

theorem distinct_fieldsToEntries {fields : List (String × Datum)} (h : DistinctFields fields) :
    Distinct (fieldsToEntries fields) := by
  induction fields with
  | nil => exact distinct_nil
  | cons field rest ih =>
    obtain ⟨hname, -, hrest⟩ := h
    refine distinct_cons.mpr ⟨⟨field.1, rfl⟩, fun e he heq => hname ?_, ih hrest⟩
    have hkey := List.mem_map_of_mem (f := (·.1)) he
    rw [keys_fieldsToEntries, ← heq] at hkey
    simpa using hkey

mutual

theorem readable_toValue {d : Datum} (h : d.Distinct) (hn : d.toValue.Returns) :
    Json.Readable d.toValue := by
  cases d with
  | text s => trivial
  | truth b => trivial
  | number x =>
    rw [Datum.toValue] at hn ⊢
    split
    next hfinite =>
      rw [if_pos hfinite] at hn
      exact ⟨hfinite, hn x (by simp [Raw.numbers])⟩
    next => trivial
  | record fields =>
    exact ⟨distinct_fieldsToEntries h, readable_fieldsToEntries h hn⟩
  | items ds => exact readable_itemsToValues h hn

theorem readable_fieldsToEntries {fields : List (String × Datum)} (h : DistinctFields fields)
    (hn : ∀ x ∈ Raw.numbersOfEntries (fieldsToEntries fields),
      Decimal.read? (Decimal.render x) = some x) :
    Json.ReadableEntries (fieldsToEntries fields) := by
  cases fields with
  | nil => trivial
  | cons field rest =>
    obtain ⟨hfirst, hrest⟩ := List.forall_mem_append.mp hn
    exact ⟨readable_toValue h.2.1 hfirst, readable_fieldsToEntries h.2.2 hrest⟩

theorem readable_itemsToValues {ds : List Datum} (h : DistinctItems ds)
    (hn : ∀ x ∈ Raw.numbersOfItems (itemsToValues ds), Decimal.read? (Decimal.render x) = some x) :
    Json.ReadableItems (itemsToValues ds) := by
  cases ds with
  | nil => trivial
  | cons d rest =>
    obtain ⟨hfirst, hrest⟩ := List.forall_mem_append.mp hn
    exact ⟨readable_toValue h.1 hfirst, readable_itemsToValues h.2 hrest⟩

end

theorem fault?_of_hasLine {record : Raw} (h : Files.HasLine record) :
    Json.fault? (named record) = none := by
  obtain ⟨line, hline⟩ := h
  unfold recordText Json.encode at hline
  cases hfault : Json.fault? (named record) with
  | none => rfl
  | some f => cases f <;> simp [hfault] at hline

section Record

variable {r : Result} {name : String}

theorem named_warnings (ws : List Warning) :
    namedItems (ws.map Warning.record) = ws.map Warning.record := by
  induction ws with
  | nil => rfl
  | cons w ws ih => rw [List.map_cons, namedItems, ih]; rfl

theorem named_recordWith (r : Result) (name : String) :
    named (r.recordWith name) = r.recordWith name := by
  unfold Result.recordWith Result.entries
  cases r.url <;> simp [named, namedEntries, namedEntries_fieldsToEntries, named_warnings]

theorem readable_warnings (ws : List Warning) : Json.ReadableItems (ws.map Warning.record) := by
  refine Json.readableItems_iff.mpr (List.forall_mem_map.mpr fun w _ => ?_)
  simp [Warning.record, Json.Readable, Json.ReadableEntries, distinct_cons, distinct_nil]

theorem readable_recordWith (h : DistinctFields r.data) (hn : (r.recordWith name).Returns) :
    Json.Readable (r.recordWith name) := by
  have hdata : Json.ReadableEntries (fieldsToEntries r.data) := by
    refine readable_fieldsToEntries h fun x hx => hn x ?_
    simp [Result.recordWith, Result.entries, Raw.numbers, Raw.numbersOfEntries, hx]
  unfold Result.recordWith Result.entries
  cases r.url <;>
    simp [Json.Readable, Json.ReadableEntries, distinct_cons, distinct_nil, hdata,
      distinct_fieldsToEntries h, readable_warnings]

theorem recordText_recordWith (r : Result) (name : String) (l : Json.Layout) :
    recordText l (r.recordWith name) =
      .ok (String.ofList (Json.text l 0 (r.recordWith name))) := by
  have hfault := fault?_of_hasLine (hasLine_recordWith r name)
  rw [recordText, Json.encode, hfault, named_recordWith]

/-- What a record has from a result: the address, what was found, the warnings, and the name of the
schema. -/
def IsRecordOf (r : Result) (name : String) (record : Raw) : Prop :=
  ∃ address entries, (address = match r.url with
      | some u => .str u
      | none => .null) ∧ KeptFields r.data entries ∧
    record = .map [(.str "url", address), (.str "data", .map entries),
      (.str "warnings", .list (r.warnings.map Warning.record)), (.str "schema", .str name)]

/-- A record has all of its result but numbers that are not finite. It has a text in every layout,
which is one of JSON and from which the record comes back, and on one line there is no line feed. -/
structure Whole (r : Result) (name : String) (record : Raw) : Prop where
  kept : IsRecordOf r name record
  finite : ∀ x ∈ record.numbers, x.isFinite = true
  text : ∀ l, ∃ text, recordText l record = .ok text ∧ Json.Strict (Json.isGap ·) text.toList ∧
    (record.Returns → Json.decode text = .ok record)
  line : ∀ line, recordText .line record = .ok line → '\n' ∉ line.toList

theorem whole_recordWith (h : DistinctFields r.data) (name : String) :
    Whole r name (r.recordWith name) := by
  have hfault := fault?_of_hasLine (hasLine_recordWith r name)
  rw [named_recordWith] at hfault
  refine ⟨⟨_, _, rfl, keptFields_fieldsToEntries r.data, rfl⟩, finite_of_fault? hfault,
    fun l => ⟨_, recordText_recordWith r name l, ?_, fun hn => ?_⟩, fun line hline => ?_⟩
  · rw [String.toList_ofList]
    exact Json.strict_text hfault (fun _ => Json.isGap_of_blank) 0
  · exact Json.decode_text (readable_recordWith h hn) l
  · rw [recordText_recordWith] at hline
    cases hline
    rw [String.toList_ofList]
    exact Json.newline_notMem_line hfault

end Record

/-- A record of what a scrape comes to, with the name of its schema. -/
inductive Scraped : Result → String → Raw → Prop where
  | scrape {schema : Schema} {s : Settings} {markup : String} {url : Option String} {r : Result}
      {name : String} : Schema.Distinct schema → schema.scrape s markup url = .ok r →
      Scraped r name (r.recordWith name)

namespace Files

variable {actions : List Action} {root : Path} {limit : Int} {start d e : Disk} {s t : Files}
  {records : List Raw} {domain other : String}

/-- What waits for a domain are records that were saved for it, and what is in its file behind what
was there at the start are lines of such records. -/
structure Holds (start : Disk) (s : Files) (d : Disk) (domain : String) (records : List Raw) :
    Prop where
  waiting : ∀ record ∈ s.waitingOf domain, record ∈ records
  content : ∃ appended lines, HasLines appended lines ∧ (∀ record ∈ appended, record ∈ records) ∧
    d.content (s.fileOf domain) = start.content (s.fileOf domain) ++ Text.octetsOf (joined lines)

theorem Holds.congr (h : Holds start s d domain records) (hroot : t.root = s.root)
    (hwaiting : t.waitingOf domain = s.waitingOf domain)
    (hcontent : e.content (s.fileOf domain) = d.content (s.fileOf domain)) :
    Holds start t e domain records where
  waiting := hwaiting ▸ h.waiting
  content := by
    rw [fileOf_congr hroot, hcontent]
    exact h.content

/-- First lines of what waits go to the file. -/
theorem Holds.appended {lines first : List String} (h : Holds start s d domain records)
    (hlines : HasLines (s.waitingOf domain) lines) (hfirst : first <+: lines)
    (happend : d.append (s.fileOf domain) (joined first) = .ok e) :
    ∃ appended lines, HasLines appended lines ∧ (∀ record ∈ appended, record ∈ records) ∧
      e.content (s.fileOf domain) =
        start.content (s.fileOf domain) ++ Text.octetsOf (joined lines) := by
  obtain ⟨appended, old, hold, hmem, hcontent⟩ := h.content
  have hnew : HasLines ((s.waitingOf domain).take first.length) first := by
    have htake := List.forall₂_take first.length hlines
    rwa [← List.prefix_iff_eq_take.mp hfirst] at htake
  refine ⟨_, old ++ first, List.rel_append hold hnew, ?_, ?_⟩
  · exact List.forall_mem_append.mpr
      ⟨hmem, fun record hrecord => h.waiting record (List.mem_of_mem_take hrecord)⟩
  · rw [Disk.content_append happend, hcontent]
    simp [joined]

theorem holds_flush (hproper : Proper root limit s) (hdomain : '/' ∉ domain.toList)
    (h : Holds start s d domain records) (other : String) :
    Holds start (s.flush d other).store (s.flush d other).disk domain records := by
  by_cases hne : domain = other
  · subst hne
    cases flushed s d domain with
    | idle halike hdisk =>
      rw [hdisk]
      exact h.congr halike.root (halike.waiting domain) rfl
    | cut halike _ hall _ happend =>
      refine ⟨halike.waiting domain ▸ h.waiting, ?_⟩
      rw [fileOf_congr halike.root]
      exact h.appended (linesOf_eq_ok.mp hall) (List.takeWhile_prefix _) happend
    | whole hcleared _ hall _ happend =>
      refine ⟨by simp [hcleared.waiting], ?_⟩
      rw [fileOf_congr hcleared.root]
      exact h.appended (linesOf_eq_ok.mp hall) List.prefix_rfl happend
  · obtain ⟨hroot, hwaiting, -, hcontent⟩ := others_flush hproper d hdomain hne
    exact h.congr hroot hwaiting hcontent

theorem holds_receive (records : List Raw) (s : Files) (d : Disk) (url : String) (record : Raw)
    (h : Holds start s d domain records) :
    Holds start (s.receive (domainFor url) record) d domain
      (records ++ (Action.save url record).recordsFor domain) := by
  obtain ⟨appended, lines, hlines, hmem, hcontent⟩ := h.content
  refine ⟨fun r hr => ?_, appended, lines, hlines,
    fun r hr => List.mem_append_left _ (hmem r hr), hcontent⟩
  by_cases hdomain : domain = domainFor url
  · subst hdomain
    rw [waitingOf_receive] at hr
    rw [Action.recordsFor, if_pos rfl]
    exact (List.mem_append.mp hr).elim (fun hr => List.mem_append_left _ (h.waiting r hr))
      (List.mem_append_right _)
  · rw [waitingOf_receive_of_ne s record hdomain] at hr
    exact List.mem_append_left _ (h.waiting r hr)

theorem holds_of_run (hrun : run actions ({ root, limit }, start) = (s, d))
    (hdomain : '/' ∉ domain.toList) : Holds start s d domain (savedFor domain actions) := by
  have hnew : Holds start { root, limit } start domain [] :=
    ⟨nofun, [], [], .nil, nofun, by simp [joined]⟩
  have hend := run_preserves (P := fun records s d => Holds start s d domain records) domain
    holds_receive (fun _ _ _ other hproper h => holds_flush hproper hdomain h other)
    (fun _ _ d places h => h.congr rfl rfl (Disk.content_close d places _))
    actions [] (proper_new root limit) hnew
  rwa [hrun, List.nil_append] at hend

/-- Lines that are split at line feeds are the lines that were joined. -/
theorem splitAt_join {lines : List String} (h : ∀ line ∈ lines, '\n' ∉ line.toList) :
    Text.splitAt '\n' (String.join (lines.map (· ++ "\n"))).toList =
      lines.map String.toList ++ [[]] := by
  induction lines with
  | nil => rfl
  | cons line lines ih =>
    obtain ⟨hline, hlines⟩ := List.forall_mem_cons.mp h
    have htext : (String.join ((line :: lines).map (· ++ "\n"))).toList =
        line.toList ++ '\n' :: (String.join (lines.map (· ++ "\n"))).toList := by
      simp
    rw [htext, Text.splitAt_append_cons, Text.splitAt_of_notMem hline, ih hlines]
    rfl

/-- What is in a file behind what was there at the start is a text whose lines are those of
records. -/
def HoldsLines (start d : Disk) (file : Path) (records : List Raw) : Prop :=
  ∃ octets text lines, d.content file = start.content file ++ octets ∧
    Text.Utf8.decode octets = .ok text ∧ Text.splitAt '\n' text.toList = lines ++ [[]] ∧
    lines.map (fun line => Json.decode (String.ofList line)) = records.map .ok

theorem decode_of_hasLines {records : List Raw} {lines : List String}
    (hlines : HasLines records lines)
    (hwhole : ∀ record ∈ records, (∃ r name, Whole r name record) ∧ record.Returns) :
    (∀ line ∈ lines, '\n' ∉ line.toList) ∧ lines.map Json.decode = records.map .ok := by
  induction hlines with
  | nil => simp
  | @cons record line records lines hline hlines ih =>
    obtain ⟨⟨⟨r, name, hrecord⟩, hreturns⟩, hrest⟩ := List.forall_mem_cons.mp hwhole
    obtain ⟨hfeeds, hdecode⟩ := ih hrest
    obtain ⟨text, htext, -, hback⟩ := hrecord.text .line
    cases hline.symm.trans htext
    refine ⟨List.forall_mem_cons.mpr ⟨hrecord.line line hline, hfeeds⟩, ?_⟩
    rw [List.map_cons, List.map_cons, hback hreturns, hdecode]

theorem holdsLines_of_hasLines {records : List Raw} {lines : List String} {file : Path}
    (hlines : HasLines records lines)
    (hcontent : d.content file =
      start.content file ++ Text.octetsOf (String.join (lines.map (· ++ "\n"))))
    (hwhole : ∀ record ∈ records, (∃ r name, Whole r name record) ∧ record.Returns) :
    HoldsLines start d file records := by
  obtain ⟨hfeeds, hdecode⟩ := decode_of_hasLines hlines hwhole
  refine ⟨_, _, lines.map String.toList, hcontent, Text.Utf8.decode_octetsOf _,
    splitAt_join hfeeds, ?_⟩
  simpa [Function.comp_def] using hdecode

/-- The record of a result is whole. Whatever happens to a store of such records, what it has
written to the file of a domain, split at line feeds and read line by line, are records that were
saved for the domain. If all of these can be written, they are those that are counted, in order. -/
theorem records_come_back {r : Result} {name : String} {record : Raw}
    (h : Scraped r name record) :
    Whole r name record ∧
      ∀ {actions : List Action} {root : Path} {limit : Int} {start d : Disk} {s : Files},
        run actions ({ root, limit }, start) = (s, d) →
        (∀ url saved, Action.save url saved ∈ actions →
          (∃ r name, Scraped r name saved) ∧ saved.Returns) →
        ∀ url, ∃ appended, HoldsLines start d (s.fileOf (domainFor url)) appended ∧
          (∀ saved ∈ appended, saved ∈ savedFor (domainFor url) actions) ∧
          ((∀ saved ∈ savedFor (domainFor url) actions, Writable saved) → appended =
            (savedFor (domainFor url) actions).take (s.writtenOf (domainFor url))) := by
  have hwhole : ∀ {r name record}, Scraped r name record → Whole r name record := by
    rintro r name _ ⟨hdistinct, hscrape⟩
    exact whole_recordWith (Schema.distinct_scrape hdistinct hscrape) name
  refine ⟨hwhole h, ?_⟩
  intro actions root limit start d s hrun hactions url
  have hsaved : ∀ saved ∈ savedFor (domainFor url) actions,
      (∃ r name, Whole r name saved) ∧ saved.Returns := by
    intro saved hsaved
    obtain ⟨address, haction⟩ := mem_savedFor hsaved
    obtain ⟨⟨r, name, hscraped⟩, hreturns⟩ := hactions address saved haction
    exact ⟨⟨r, name, hwhole hscraped⟩, hreturns⟩
  have hslash := slash_notMem_domainFor url
  by_cases hall : ∀ saved ∈ savedFor (domainFor url) actions, Writable saved
  · obtain ⟨lines, hlines, hcontent⟩ := (balanced_of_run hrun hall hslash).content
    have hmem : ∀ saved ∈ (savedFor (domainFor url) actions).take (s.writtenOf (domainFor url)),
        saved ∈ savedFor (domainFor url) actions := fun saved => List.mem_of_mem_take
    exact ⟨_, holdsLines_of_hasLines hlines hcontent fun saved h => hsaved saved (hmem saved h),
      hmem, fun _ => rfl⟩
  · obtain ⟨appended, lines, hlines, hmem, hcontent⟩ := (holds_of_run hrun hslash).content
    exact ⟨appended, holdsLines_of_hasLines hlines hcontent fun saved h =>
      hsaved saved (hmem saved h), hmem, fun hwritable => absurd hwritable hall⟩

/-- A weight that is there, and one that is not. -/
def weights : Schema :=
  [("net", .primitive ⟨"b", .absent, none, .number⟩),
    ("gross", .primitive ⟨"i", .absent, none, .number⟩)]

def weighed : Result :=
  ⟨[("net", .number 2.5), ("gross", .number Decimal.notANumber)], [], none⟩

theorem scrape_weights : Schema.scrape weights {} "<b>2.5</b>" none = .ok weighed := by
  have hd : Document.ofMarkup "<b>2.5</b>" none Document.defaultParser .asWritten =
      .ok ⟨[.element "b" [] [.text .plain "2.5"]], none, "html.parser"⟩ := by cbv
  have hnet : Document.query ⟨[.element "b" [] [.text .plain "2.5"]], none, "html.parser"⟩ "b" =
      .ok [.mk ⟨"b", [], [.text .plain "2.5"]⟩ [] []
        (some (.whole [.element "b" [] [.text .plain "2.5"]]))] := by cbv
  have hgross : Document.query ⟨[.element "b" [] [.text .plain "2.5"]], none, "html.parser"⟩ "i" =
      .ok [] := by cbv
  have htext : Field.valueOf (.mk ⟨"b", [], [.text .plain "2.5"]⟩ [] []
      (some (.whole [.element "b" [] [.text .plain "2.5"]]))) [] = "2.5" := by cbv
  have hnumber : Field.readNumber "2.5" = 2.5 := by decide +kernel
  have hnone : Field.readNumber "" = Decimal.notANumber := by decide +kernel
  rw [Schema.scrape_eq hd]
  simp [weights, weighed, Schema.recordOf, Schema.outcomeOf, Schema.Primitive.resolve, hnet,
    hgross, Field.extract, Field.FieldType.read, Schema.visits, Schema.visitsIn,
    Schema.Attributes.toList, Except.toOption, Visit.warnings, Visit.warning?, htext, hnumber,
    hnone]

/-- Two records of one domain in one file. -/
theorem records_come_back_weights :
    ∃ s d, run [.save "http://a.org/x" (weighed.recordWith "w"),
          .save "http://a.org/y" (weighed.recordWith "w"), .flush "a.org"]
        ({ root := { parts := ["out"] }, limit := 9 }, { entries := [(["out"], .folder)] }) =
          (s, d) ∧
      s.writtenOf "a.org" = 2 ∧ Whole weighed "w" (weighed.recordWith "w") ∧
      HoldsLines { entries := [(["out"], .folder)] } d (s.fileOf "a.org")
        [weighed.recordWith "w", weighed.recordWith "w"] := by
  have hscraped : Scraped weighed "w" (weighed.recordWith "w") :=
    .scrape (by simp [weights, Schema.Distinct, Schema.Node.Distinct]) scrape_weights
  have hreturns : (weighed.recordWith "w").Returns := by
    have hnumbers : (weighed.recordWith "w").numbers = [2.5] := by decide +kernel
    rw [Raw.Returns, hnumbers]
    decide +kernel
  obtain ⟨⟨s, d⟩, hrun⟩ : ∃ w, run [.save "http://a.org/x" (weighed.recordWith "w"),
        .save "http://a.org/y" (weighed.recordWith "w"), .flush "a.org"]
      ({ root := { parts := ["out"] }, limit := 9 }, { entries := [(["out"], .folder)] }) = w :=
    ⟨_, rfl⟩
  have hwritten : s.writtenOf "a.org" = 2 := by
    have hcount : (run [.save "http://a.org/x" (weighed.recordWith "w"),
          .save "http://a.org/y" (weighed.recordWith "w"), .flush "a.org"]
        ({ root := { parts := ["out"] }, limit := 9 },
          { entries := [(["out"], .folder)] })).1.writtenOf "a.org" = 2 := by decide +kernel
    rwa [hrun] at hcount
  have hx : domainFor "http://a.org/x" = "a.org" := by decide +kernel
  have hy : domainFor "http://a.org/y" = "a.org" := by decide +kernel
  have hactions : ∀ url saved, Action.save url saved ∈
      [.save "http://a.org/x" (weighed.recordWith "w"),
        .save "http://a.org/y" (weighed.recordWith "w"), .flush "a.org"] →
      (∃ r name, Scraped r name saved) ∧ saved.Returns := by
    intro url saved hsaved
    simp only [List.mem_cons, Action.save.injEq, reduceCtorEq, List.not_mem_nil, or_false] at hsaved
    rcases hsaved with ⟨-, rfl⟩ | ⟨-, rfl⟩
    · exact ⟨⟨weighed, "w", hscraped⟩, hreturns⟩
    · exact ⟨⟨weighed, "w", hscraped⟩, hreturns⟩
  have hwritable : Writable (weighed.recordWith "w") :=
    (hasLine_recordWith weighed "w").writable (by decide +kernel)
  obtain ⟨hwhole, hlines⟩ := records_come_back hscraped
  obtain ⟨appended, hholds, -, happended⟩ := hlines hrun hactions "http://a.org/x"
  have hsaved : savedFor "a.org" [.save "http://a.org/x" (weighed.recordWith "w"),
      .save "http://a.org/y" (weighed.recordWith "w"), .flush "a.org"] =
        [weighed.recordWith "w", weighed.recordWith "w"] := by
    simp [savedFor, Action.recordsFor, hx, hy]
  rw [hx, hsaved, hwritten] at happended
  have hall : appended = [weighed.recordWith "w", weighed.recordWith "w"] :=
    happended (by simpa using hwritable)
  rw [hx, hall] at hholds
  exact ⟨s, d, hrun, hwritten, hwhole, hholds⟩

end Files

end Store

end Gleaner
