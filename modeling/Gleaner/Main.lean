import Gleaner.Command.Basic

/-!
The program. It takes the files that a command line names onto a disk, runs the line there, and
writes back what has changed. Its surroundings are empty: every request fails.
-/

namespace Gleaner.Program

/-- The text of a place, from the root. -/
def textOf (place : List String) : String := "/" ++ "/".intercalate place

/-- What is at a place of the file system. What is there and cannot be read counts as a folder. -/
def look (place : List String) : IO (Option Disk.Entry) := do
  try
    return some (.file (← IO.FS.readBinFile (textOf place)).toList)
  catch e => match e with
    | .noFileOrDirectory .. => return none
    | _ => return some .folder

/-- Takes what is at a place onto a disk. -/
def take (d : Disk) (place : List String) : IO Disk := do
  match ← look place with
  | some e => return d.put place e
  | none => return d

/-- Takes all that a path leads to and past onto a disk. -/
def takePath (d : Disk) (p : Path) : IO Disk := do
  let mut disk := d
  let mut place := if p.absolute then [] else d.home
  for name in p.parts do
    place := if name = ".." then place.dropLast else place ++ [name]
    disk ← take disk place
  return disk

/-- The disk of a working folder, with nothing in it yet. -/
def emptyAt (home : List String) : Disk :=
  { home, entries := (List.range home.length).map fun n => (home.take (n + 1), .folder) }

/-- The files that a configuration names. -/
def schemaPaths (d : Disk) (config : Path) : List Path :=
  match Load.readValue d config with
  | .ok (.map entries) => match Value.lookup? entries "schemas" with
    | some (.map schemas) => schemas.filterMap fun ((_, v) : Key × Raw) => match v with
      | .str name => some (config.parent.join name)
      | _ => none
    | _ => []
  | _ => []

/-- The paths that a command names. -/
def pathsOf : Command → List Path
  | .scrape o => (o.schema.toList ++ o.file.toList).map Path.ofString
  | .batch o => (o.config.toList ++ o.output.toList).map Path.ofString

/-- The disk of a command: the files that it names, and those that its configuration names. -/
def load (c : Command) (home : List String) : IO Disk := do
  let disk ← (pathsOf c).foldlM takePath (emptyAt home)
  match c with
  | .batch { config := some name, .. } =>
    (schemaPaths disk (Path.ofString name)).foldlM takePath disk
  | _ => return disk

/-- The places of a disk that are not on another. -/
def added (before after : Disk) : List (List String) :=
  (after.entries.map (·.1)).filter fun place => (before.entryAt place).isNone

/-- Runs a line on a disk. Where it makes what is already there, that is taken onto the disk first;
the fuel bounds how often. -/
def settle (line : List String) (d : Disk) : Nat → IO (Disk × Command.Outcome)
  | 0 => return (d, Command.runLine line { web := [] } d)
  | fuel + 1 => do
    let outcome := Command.runLine line { web := [] } d
    let disk ← (added d outcome.disk).foldlM take d
    if disk.entries.length = d.entries.length then return (d, outcome) else settle line disk fuel

/-- Writes what is on a disk and not on the one before. -/
def writeBack (before after : Disk) : IO Unit := do
  for (place, e) in after.entries do
    if before.entryAt place != some e then
      match e with
      | .folder => IO.FS.createDirAll (textOf place)
      | .file content => IO.FS.writeBinFile (textOf place) ⟨content.toArray⟩

def usage : String :=
  "usage: run [--dry-run] [--verbose] config_file output_dir\n" ++
    "       scrape (--url URL | --html-file FILE) [--fetcher (http | browser)]\n" ++
    "              [--timeout SECONDS] [--propagate-location] [--verbose] schema_file\n"

/-- Tells the outcome of a line, and its exit code. -/
def report (o : Command.Outcome) : IO UInt32 := do
  for n in o.log do
    IO.eprintln s!"{n.origin} - {n.level.name} - {n.message}"
  match o.printed with
  | .help => IO.print usage
  | .text s => IO.print s
  match o.code with
  | .ok code =>
    if code = Command.misuseCode then IO.eprint usage
    return UInt32.ofNat code
  | .error e =>
    IO.eprintln e.message
    return 1

end Gleaner.Program

open Gleaner

def main (line : List String) : IO UInt32 := do
  let home := (Path.ofString (toString (← IO.currentDir))).parts
  let disk ← match Command.ofLine line with
    | .ok (some c) => Program.load c home
    | _ => pure (Program.emptyAt home)
  let (before, outcome) ← Program.settle line disk 3
  Program.writeBack before outcome.disk
  Program.report outcome
