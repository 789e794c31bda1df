import Gleaner.Store.Failure
import Gleaner.Url.Domain

/-!
A store with one file for each domain, to which records are appended, a line for each. Records
wait until there are enough of a domain; those that cannot be written go on waiting.
-/

namespace Gleaner.Store

structure Files where
  root : Path
  /-- So many waiting records of a domain are written. -/
  limit : Int := 100
  waiting : List (String × List Raw) := []
  written : List (String × Nat) := []

/-- Changes the value of a name, which is set from a default if the name is new and goes last. -/
def adjust {β : Type} (name : String) (default : β) (change : β → β) :
    List (String × β) → List (String × β)
  | [] => [(name, change default)]
  | (n, b) :: rest =>
    if n = name then (n, change b) :: rest else (n, b) :: adjust name default change rest

namespace Files

/-- The records of a domain that wait. -/
def waitingOf (s : Files) (domain : String) : List Raw :=
  ((s.waiting.find? (·.1 = domain)).map (·.2)).getD []

def fileOf (s : Files) (domain : String) : Path := s.root.join (domain ++ ".jsonl")

/-- The lines of records, or the first record that has none. -/
def linesOf : List Raw → Except Unwritable (List String)
  | [] => .ok []
  | r :: rest => match recordText .line r with
    | .error u => .error u
    | .ok line => (linesOf rest).map (line :: ·)

/-- Lines as they stand in a file. -/
def joined (lines : List String) : String := String.join (lines.map (· ++ "\n"))

/-- The lines before the first that has no octets. -/
def soundLines (lines : List String) : List String :=
  lines.takeWhile fun line => (Text.stray? line).isNone

/-- Writes the waiting records of a domain. A file that cannot be opened is noted only. A line
that has no octets is found out when those before it are written, and all go on waiting. -/
def flush (s : Files) (d : Disk) (domain : String) : Step Files (Option Path) :=
  let s := { s with waiting := adjust domain [] id s.waiting }
  let records := s.waitingOf domain
  if records.isEmpty then ⟨s, d, [], .ok none⟩
  else match linesOf records with
    | .error u => ⟨s, d, [], .error (.record u)⟩
    | .ok lines =>
      let file := s.fileOf domain
      match d.append file (joined (soundLines lines)) with
      | .error f =>
        if isSystemFault f then
          ⟨s, d, [.error "persistence" s!"Failed to flush domain {domain}: {f.message}"], .ok none⟩
        else ⟨s, d, [], .error (.disk f)⟩
      | .ok e => match lines.findSome? Text.stray? with
        | some t => ⟨s, e, [], .error (.text t)⟩
        | none =>
          let s := { s with
            waiting := adjust domain [] (fun _ => []) s.waiting
            written := adjust domain 0 (· + records.length) s.written }
          let note := s!"Flushed {records.length} records for domain {domain} to {file.toString}"
          ⟨s, e, [.info "persistence" note], .ok (some file)⟩

/-- Keeps the record of an address until there are enough of its domain. -/
def save (s : Files) (d : Disk) (url : String) (record : Raw) : Step Files (Option Path) :=
  let (found, notes) := Url.domainOf url
  let domain := if found = "" then noDomain else found
  let s := { s with waiting := adjust domain [] (· ++ [record]) s.waiting }
  if s.limit ≤ (s.waitingOf domain).length then
    let step := s.flush d domain
    { step with
      log := notes ++ step.log
      result := step.result.map fun _ => some (s.fileOf domain) }
  else ⟨s, d, notes, .ok (some (s.fileOf domain))⟩

/-- Writes the waiting records of several domains, up to the first failure. -/
def flushAll (s : Files) (d : Disk) : List String → Step Files Unit
  | [] => ⟨s, d, [], .ok ()⟩
  | domain :: rest =>
    let step := s.flush d domain
    match step.result with
    | .error f => ⟨step.store, step.disk, step.log, .error f⟩
    | .ok _ =>
      let others := step.store.flushAll step.disk rest
      { others with log := step.log ++ others.log }

/-- Writes all that waits. -/
def finalize (s : Files) (d : Disk) : Step Files Unit :=
  let step := s.flushAll d (s.waiting.map (·.1))
  let start := .info "persistence" "Finalizing FilePerDomainStrategy - flushing all buffers"
  let stop := match step.result with
    | .error _ => []
    | .ok _ => [.info "persistence"
        s!"FilePerDomainStrategy completed. Wrote {step.store.written.length} domain files."]
  { step with log := start :: step.log ++ stop }

end Files

end Gleaner.Store
