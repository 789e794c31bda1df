import Gleaner.Proofs.Store.Flush
import Gleaner.Proofs.Url.Domain

/-! A store of a file for each domain keeps every record, whichever files fail to open and when. -/

namespace Gleaner.Store.Files

variable {s t : Files} {d e start : Disk} {domain other : String} {record : Raw}
  {records : List Raw} {root : Path} {limit : Int}

/-- The records of a domain are in its file, after what was there at the start, or they wait. -/
structure Balanced (start : Disk) (s : Files) (d : Disk) (domain : String) (records : List Raw) :
    Prop where
  count : s.writtenOf domain ≤ records.length
  waiting : s.waitingOf domain = records.drop (s.writtenOf domain)
  content : ∃ lines, HasLines (records.take (s.writtenOf domain)) lines ∧
    d.content (s.fileOf domain) = start.content (s.fileOf domain) ++
      Text.octetsOf (String.join (lines.map (· ++ "\n")))

/-- The folder and the limit of a store are as they were set, and only domains have records that
wait. -/
structure Proper (root : Path) (limit : Int) (s : Files) : Prop where
  root : s.root = root
  limit : s.limit = limit
  domains : ∀ domain, s.waitingOf domain ≠ [] → '/' ∉ domain.toList

theorem fileName_ne (name : String) (h : name.length < 6) (domain : String) :
    domain ++ ".jsonl" ≠ name := by
  intro hname
  rw [← hname, String.length_append, show ".jsonl".length = 6 from rfl] at h
  omega

theorem fileOf_eq (s : Files) (hslash : '/' ∉ domain.toList) :
    s.fileOf domain = { s.root with parts := s.root.parts ++ [domain ++ ".jsonl"] } := by
  have hname : '/' ∉ (domain ++ ".jsonl").toList := by
    simpa using hslash
  have hpart : Path.isEmptyPart (domain ++ ".jsonl") = false := by
    have hempty := fileName_ne "" (by decide) domain
    have hself := fileName_ne "." (by decide) domain
    simp [Path.isEmptyPart, hempty, hself]
  exact Path.join_of_notMem hname hpart

/-- Two domains have two files. -/
theorem apart_fileOf (s : Files) (d : Disk) (hdomain : '/' ∉ domain.toList)
    (hother : '/' ∉ other.toList) (hne : other ≠ domain) :
    d.Apart (s.fileOf domain) (s.fileOf other) := by
  rw [fileOf_eq s hdomain, fileOf_eq s hother]
  have hnames : domain ++ ".jsonl" ≠ other ++ ".jsonl" := by
    intro h
    have htexts := congrArg String.toList h
    rw [String.toList_append, String.toList_append, List.append_cancel_right_eq] at htexts
    exact hne (String.toList_inj.mp htexts).symm
  exact Disk.apart_of_ne (fileName_ne ".." (by decide) domain) (fileName_ne ".." (by decide) other)
    hnames rfl rfl

/-- The balance of a domain depends on what is told of this domain only. -/
theorem balanced_congr (hs : Balanced start s d domain records) (hroot : t.root = s.root)
    (hwaiting : t.waitingOf domain = s.waitingOf domain)
    (hwritten : t.writtenOf domain = s.writtenOf domain)
    (hcontent : e.content (s.fileOf domain) = d.content (s.fileOf domain)) :
    Balanced start t e domain records := by
  constructor
  · rw [hwritten]
    exact hs.count
  · rw [hwritten, hwaiting]
    exact hs.waiting
  · rw [hwritten, fileOf_congr hroot, hcontent]
    exact hs.content

theorem balanced_of_cleared {new : List String} (h : Cleared s t domain)
    (hs : Balanced start s d domain records) (hnew : HasLines (s.waitingOf domain) new)
    (happend : d.append (s.fileOf domain) (joined new) = .ok e) :
    Balanced start t e domain records := by
  have hall : t.writtenOf domain = records.length := by
    have hcount := hs.count
    rw [h.written, hs.waiting, List.length_drop]
    omega
  obtain ⟨old, hold, hcontent⟩ := hs.content
  refine ⟨hall.le, ?_, old ++ new, ?_, ?_⟩
  · rw [h.waiting, hall, List.drop_length]
  · rw [hall, List.take_length, ← List.take_append_drop (s.writtenOf domain) records, ← hs.waiting]
    exact List.rel_append hold hnew
  · rw [fileOf_congr h.root, Disk.content_append happend, hcontent]
    simp [joined]

/-- What a flush does to what is told of other domains. -/
theorem others_flush (hproper : Proper root limit s) (d : Disk) (hother : '/' ∉ other.toList)
    (hne : other ≠ domain) : (s.flush d domain).store.root = s.root ∧
      (s.flush d domain).store.waitingOf other = s.waitingOf other ∧
      (s.flush d domain).store.writtenOf other = s.writtenOf other ∧
      (s.flush d domain).disk.content (s.fileOf other) = d.content (s.fileOf other) := by
  have hcontent : (s.flush d domain).disk.content (s.fileOf other) =
      d.content (s.fileOf other) := by
    rcases disk_flush s d domain with hdisk | ⟨hwaits, text, happend⟩
    · rw [hdisk]
    · have hapart := apart_fileOf s d (hproper.domains domain hwaits) hother hne
      exact Disk.content_append_of_apart happend hapart
  rcases store_flush s d domain with halike | hcleared
  · exact ⟨halike.root, halike.waiting other, halike.written other, hcontent⟩
  · exact ⟨hcleared.root, hcleared.others_waiting other hne, hcleared.others_written other hne,
      hcontent⟩

/-- A flush moves records, if all of them can be written, from where they wait to the file of their
domain, and only there. -/
theorem balanced_flush (hproper : Proper root limit s) (domain : String)
    (hother : '/' ∉ other.toList) (hall : ∀ record ∈ records, Writable record)
    (hs : Balanced start s d other records) :
    Balanced start (s.flush d domain).store (s.flush d domain).disk other records := by
  by_cases hdomain : other = domain
  · subst hdomain
    cases flushed s d other with
    | idle halike hdisk =>
      rw [hdisk]
      exact balanced_congr hs halike.root (halike.waiting other) (halike.written other) rfl
    | cut _ _ hlines hstray =>
      obtain ⟨record, hrecord, hbad⟩ := exists_not_writable hlines hstray
      rw [hs.waiting] at hrecord
      exact absurd (hall record (List.mem_of_mem_drop hrecord)) hbad
    | whole hcleared _ hlines _ happend =>
      exact balanced_of_cleared hcleared hs (linesOf_eq_ok.mp hlines) happend
  · obtain ⟨hroot, hwaiting, hwritten, hcontent⟩ := others_flush hproper d hother hdomain
    exact balanced_congr hs hroot hwaiting hwritten hcontent

theorem proper_flush (hproper : Proper root limit s) (d : Disk) (domain : String) :
    Proper root limit (s.flush d domain).store := by
  rcases store_flush s d domain with halike | hcleared
  · refine ⟨halike.root.trans hproper.root, halike.limit.trans hproper.limit, ?_⟩
    intro other hwaiting
    rw [halike.waiting] at hwaiting
    exact hproper.domains other hwaiting
  · refine ⟨hcleared.root.trans hproper.root, hcleared.limit.trans hproper.limit, ?_⟩
    intro other hwaiting
    by_cases hdomain : other = domain
    · subst hdomain
      exact absurd hcleared.waiting hwaiting
    · rw [hcleared.others_waiting other hdomain] at hwaiting
      exact hproper.domains other hwaiting

theorem balanced_receive (hs : Balanced start s d domain records) (record : Raw) :
    Balanced start (s.receive domain record) d domain (records ++ [record]) := by
  have hcount := hs.count
  constructor
  · show s.writtenOf domain ≤ _
    simp
    omega
  · show _ = (records ++ [record]).drop (s.writtenOf domain)
    rw [waitingOf_receive, hs.waiting, List.drop_append_of_le_length hcount]
  · show ∃ lines, HasLines ((records ++ [record]).take (s.writtenOf domain)) lines ∧ _
    rw [List.take_append_of_le_length hcount]
    exact hs.content

theorem balanced_receive_other (hs : Balanced start s d other records) (hne : other ≠ domain)
    (record : Raw) : Balanced start (s.receive domain record) d other records :=
  balanced_congr hs rfl (waitingOf_receive_of_ne s record hne) rfl rfl

/-- What may happen to a store. -/
inductive Action where
  | save (url : String) (record : Raw)
  | flush (domain : String)
  | finalize
  /-- From now on the files at these places cannot be opened, and all others can. -/
  | close (places : List (List String))

namespace Action

def act : Action → Files × Disk → Files × Disk
  | save url record, (s, d) => ((s.save d url record).store, (s.save d url record).disk)
  | flush domain, (s, d) => ((s.flush d domain).store, (s.flush d domain).disk)
  | finalize, (s, d) => ((s.finalize d).store, (s.finalize d).disk)
  | close places, (s, d) => (s, { d with closed := places })

/-- The records that an action saves for a domain. -/
def recordsFor (domain : String) : Action → List Raw
  | save url record => if domainFor url = domain then [record] else []
  | flush _ => []
  | finalize => []
  | close _ => []

end Action

def run (actions : List Action) (w : Files × Disk) : Files × Disk :=
  actions.foldl (fun w a => a.act w) w

/-- The records of a domain, in the order in which they were saved. -/
def savedFor (domain : String) (actions : List Action) : List Raw :=
  actions.flatMap (Action.recordsFor domain)

theorem mem_savedFor {actions : List Action} (h : record ∈ savedFor domain actions) :
    ∃ url, Action.save url record ∈ actions := by
  obtain ⟨a, ha, hrecord⟩ := List.mem_flatMap.mp h
  cases a with
  | save url saved =>
    rw [Action.recordsFor] at hrecord
    split at hrecord
    · rw [List.mem_singleton.mp hrecord]
      exact ⟨url, ha⟩
    · cases hrecord
  | flush domain => cases hrecord
  | finalize => cases hrecord
  | close places => cases hrecord

theorem slash_notMem_domainFor (url : String) : '/' ∉ (domainFor url).toList := by
  unfold domainFor
  split
  · decide
  · exact Url.slash_notMem_domainOf url

theorem proper_receive (hproper : Proper root limit s) (url : String) (record : Raw) :
    Proper root limit (s.receive (domainFor url) record) := by
  refine ⟨hproper.root, hproper.limit, ?_⟩
  intro other hwaiting
  by_cases h : other = domainFor url
  · rw [h]
    exact slash_notMem_domainFor url
  · rw [waitingOf_receive_of_ne s record h] at hwaiting
    exact hproper.domains other hwaiting

theorem act_save (s : Files) (d : Disk) (url : String) (record : Raw) :
    (Action.save url record).act (s, d) =
      if s.limit ≤ ((s.receive (domainFor url) record).waitingOf (domainFor url)).length then
        (Action.flush (domainFor url)).act (s.receive (domainFor url) record, d)
      else (s.receive (domainFor url) record, d) :=
  save_eq s d url record

theorem proper_act (a : Action) (d : Disk) (hproper : Proper root limit s) :
    Proper root limit (a.act (s, d)).1 := by
  cases a with
  | save url record =>
    have hreceive := proper_receive hproper url record
    rw [act_save]
    split
    · exact proper_flush hreceive d (domainFor url)
    · exact hreceive
  | flush domain => exact proper_flush hproper d domain
  | finalize =>
    have hflush : ∀ s d domain, Proper root limit s →
        Proper root limit (s.flush d domain).store := fun s d domain h => proper_flush h d domain
    exact finalize_preserves (P := fun s _ => Proper root limit s) hflush hproper
  | close places => exact hproper

theorem proper_run (actions : List Action) (d : Disk) (hproper : Proper root limit s) :
    Proper root limit (run actions (s, d)).1 := by
  induction actions generalizing s d with
  | nil => exact hproper
  | cons a actions ih => exact ih (a.act (s, d)).2 (proper_act a d hproper)

section Preserved

variable {P : List Raw → Files → Disk → Prop}

/-- What holds of the records of a domain, and goes on holding when a record is received, when a
domain is flushed and when files close, holds after every action. -/
theorem act_preserves (other : String)
    (hreceive : ∀ records s d url record, P records s d →
      P (records ++ (Action.save url record).recordsFor other) (s.receive (domainFor url) record) d)
    (hflush : ∀ records s d domain, Proper root limit s → P records s d →
      P records (s.flush d domain).store (s.flush d domain).disk)
    (hclose : ∀ records s d places, P records s d → P records s { d with closed := places })
    (a : Action) (records : List Raw) (hproper : Proper root limit s) (h : P records s d) :
    P (records ++ a.recordsFor other) (a.act (s, d)).1 (a.act (s, d)).2 := by
  cases a with
  | save url record =>
    have hsaved := hreceive records s d url record h
    rw [act_save]
    split
    · exact hflush _ _ d (domainFor url) (proper_receive hproper url record) hsaved
    · exact hsaved
  | flush domain =>
    rw [Action.recordsFor, List.append_nil]
    exact hflush records s d domain hproper h
  | finalize =>
    rw [Action.recordsFor, List.append_nil]
    have hall := finalize_preserves (P := fun s d => Proper root limit s ∧ P records s d)
      (fun s d domain h => ⟨proper_flush h.1 d domain, hflush records s d domain h.1 h.2⟩)
      ⟨hproper, h⟩
    exact hall.2
  | close places =>
    rw [Action.recordsFor, List.append_nil]
    exact hclose records s d places h

theorem run_preserves (other : String)
    (hreceive : ∀ records s d url record, P records s d →
      P (records ++ (Action.save url record).recordsFor other) (s.receive (domainFor url) record) d)
    (hflush : ∀ records s d domain, Proper root limit s → P records s d →
      P records (s.flush d domain).store (s.flush d domain).disk)
    (hclose : ∀ records s d places, P records s d → P records s { d with closed := places })
    (actions : List Action) (records : List Raw) (hproper : Proper root limit s)
    (h : P records s d) :
    P (records ++ savedFor other actions) (run actions (s, d)).1 (run actions (s, d)).2 := by
  induction actions generalizing s d records with
  | nil =>
    rw [savedFor, List.flatMap_nil, List.append_nil]
    exact h
  | cons a actions ih =>
    rw [savedFor, List.flatMap_cons, ← List.append_assoc]
    exact ih _ (proper_act a d hproper)
      (act_preserves other hreceive hflush hclose a records hproper h)

end Preserved

/-- The balance of a domain, if its records can be written. -/
def BalancedIfWritable (start : Disk) (domain : String) (records : List Raw) (s : Files) (d : Disk) :
    Prop :=
  (∀ record ∈ records, Writable record) → Balanced start s d domain records

theorem balancedIfWritable_receive (records : List Raw) (s : Files) (d : Disk) (url : String)
    (record : Raw) (hs : BalancedIfWritable start other records s d) :
    BalancedIfWritable start other (records ++ (Action.save url record).recordsFor other)
      (s.receive (domainFor url) record) d := by
  intro hall
  have hbalanced := hs (List.forall_mem_append.mp hall).1
  by_cases h : domainFor url = other
  · subst h
    simpa [Action.recordsFor] using balanced_receive hbalanced record
  · simpa [Action.recordsFor, h] using balanced_receive_other hbalanced (Ne.symm h) record

/-- Whatever is done with a store keeps the balance of a domain whose records can be written. -/
theorem balanced_run (actions : List Action) (hproper : Proper root limit s)
    (hother : '/' ∉ other.toList)
    (hall : ∀ record ∈ records ++ savedFor other actions, Writable record)
    (hs : Balanced start s d other records) :
    Balanced start (run actions (s, d)).1 (run actions (s, d)).2 other
      (records ++ savedFor other actions) :=
  run_preserves (P := BalancedIfWritable start other) other balancedIfWritable_receive
    (fun _ _ _ domain hproper hs hall => balanced_flush hproper domain hother hall (hs hall))
    (fun _ _ d places hs hall => balanced_congr (hs hall) rfl rfl rfl (Disk.content_close d places _))
    actions records hproper (fun _ => hs) hall

theorem balanced_new (root : Path) (limit : Int) (start : Disk) (domain : String) :
    Balanced start { root, limit } start domain [] := by
  refine ⟨Nat.le_refl 0, rfl, [], .nil, ?_⟩
  simp

theorem proper_new (root : Path) (limit : Int) : Proper root limit { root, limit } :=
  ⟨rfl, rfl, fun _ hwaiting => absurd rfl hwaiting⟩

/-- No record is lost, written twice, out of order or in the file of another domain, whichever
files failed to open and when. While files open, fewer records of a domain wait than the limit says,
and none after the end. -/
theorem run_keeps_records {actions : List Action}
    (hrun : run actions ({ root, limit }, start) = (s, d))
    (hactions : ∀ url record, Action.save url record ∈ actions → Writable record) :
    s.root = root ∧ s.limit = limit ∧
      (∀ url, Balanced start s d (domainFor url) (savedFor (domainFor url) actions)) ∧
      (∀ url record, Writable record →
        (limit ≤ (s.waitingOf (domainFor url)).length + 1 → d.opens (s.fileOf (domainFor url))) →
        (((s.save d url record).store.waitingOf (domainFor url)).length : Int) < max 1 limit) ∧
      ((∀ domain, s.waitingOf domain ≠ [] → d.opens (s.fileOf domain)) →
        ∀ domain, (s.finalize d).store.waitingOf domain = []) := by
  have hproper := proper_run actions start (proper_new root limit)
  have hsaved : ∀ domain, ∀ record ∈ [] ++ savedFor domain actions, Writable record := by
    intro domain record hrecord
    obtain ⟨url, hsave⟩ := mem_savedFor hrecord
    exact hactions url record hsave
  have hbalanced : ∀ domain, '/' ∉ domain.toList →
      Balanced start s d domain (savedFor domain actions) := by
    intro domain hslash
    have hdomain := balanced_run actions (proper_new root limit) hslash (hsaved domain)
      (balanced_new root limit start domain)
    rwa [hrun, List.nil_append] at hdomain
  rw [hrun] at hproper
  have hlines : ∀ domain, ∀ record ∈ s.waitingOf domain, Writable record := by
    intro domain record hrecord
    have hslash := hproper.domains domain (List.ne_nil_of_mem hrecord)
    rw [(hbalanced domain hslash).waiting] at hrecord
    exact hsaved domain record (List.mem_of_mem_drop hrecord)
  refine ⟨hproper.root, hproper.limit, ?_, ?_, ?_⟩
  · exact fun url => hbalanced (domainFor url) (slash_notMem_domainFor url)
  · intro url record hrecord hopens
    rw [← hproper.limit] at hopens ⊢
    exact waitingOf_save (hlines (domainFor url)) hrecord hopens
  · exact fun hopens => waitingOf_finalize hlines hopens

/-- A file that does not open when its records are due, and opens later. -/
theorem run_keeps_records_retried :
    ∃ s, run [.save "http://a.org/1" (.int 1), .close [["out", "a.org.jsonl"]],
          .save "http://a.org/2" (.int 2), .save "http://b.org/" (.int 3), .close [],
          .flush "a.org"]
        ({ root := { parts := ["out"] }, limit := 2 }, { entries := [(["out"], .folder)] }) =
          (s, { entries :=
            [(["out"], .folder), (["out", "a.org.jsonl"], .file [49, 10, 50, 10])] }) ∧
      s.written = [("a.org", 2)] ∧ s.root = { parts := ["out"] } ∧ s.limit = 2 ∧
      (∀ url, Balanced { entries := [(["out"], .folder)] } s
        { entries := [(["out"], .folder), (["out", "a.org.jsonl"], .file [49, 10, 50, 10])] }
        (domainFor url) (savedFor (domainFor url)
          [.save "http://a.org/1" (.int 1), .close [["out", "a.org.jsonl"]],
            .save "http://a.org/2" (.int 2), .save "http://b.org/" (.int 3), .close [],
            .flush "a.org"])) := by
  have hrun : run [.save "http://a.org/1" (.int 1), .close [["out", "a.org.jsonl"]],
        .save "http://a.org/2" (.int 2), .save "http://b.org/" (.int 3), .close [], .flush "a.org"]
      ({ root := { parts := ["out"] }, limit := 2 }, { entries := [(["out"], .folder)] }) =
        (_, { entries :=
          [(["out"], .folder), (["out", "a.org.jsonl"], .file [49, 10, 50, 10])] }) :=
    Prod.ext rfl (by decide +kernel)
  have hactions : ∀ url record, Action.save url record ∈ [.save "http://a.org/1" (.int 1),
        .close [["out", "a.org.jsonl"]], .save "http://a.org/2" (.int 2),
        .save "http://b.org/" (.int 3), .close [], .flush "a.org"] → Writable record := by
    intro url record hsaved
    simp only [List.mem_cons, Action.save.injEq, reduceCtorEq, List.not_mem_nil, false_or,
      or_false] at hsaved
    rcases hsaved with ⟨-, rfl⟩ | ⟨-, rfl⟩ | ⟨-, rfl⟩
    · exact ⟨"1", by cbv, by cbv⟩
    · exact ⟨"2", by cbv, by cbv⟩
    · exact ⟨"3", by cbv, by cbv⟩
  obtain ⟨hroot, hlimit, hbalanced, -⟩ := run_keeps_records hrun hactions
  exact ⟨_, hrun, by decide +kernel, hroot, hlimit, hbalanced⟩

end Gleaner.Store.Files
