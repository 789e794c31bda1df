import Gleaner.Disk.Path
import Gleaner.Text.Quoted
import Gleaner.Text.Utf8

/-!
Files and folders as a value. An operation on a path either fails for a stated cause or yields the
disk after it; it touches no other path.
-/

namespace Gleaner

open Text (Octets)

inductive Disk.Entry where
  | file (content : Octets)
  | folder
  deriving DecidableEq, Inhabited

/-- What lies below the root, each entry under its names from there, and the working folder. -/
structure Disk where
  home : List String := []
  entries : List (List String × Disk.Entry) := []
  /-- Places whose files may be neither opened nor made. -/
  closed : List (List String) := []
  deriving DecidableEq, Inhabited

namespace Disk

inductive Fault where
  | missing
  | denied
  | exists
  | notFolder
  | isFolder
  | nameTooLong
  /-- No path holds a zero character. -/
  | zeroCharacter
  /-- A path that has no octets. -/
  | stray
  deriving DecidableEq, Inhabited

def Fault.number : Fault → Nat
  | missing => 2
  | denied => 13
  | «exists» => 17
  | notFolder => 20
  | isFolder => 21
  | nameTooLong => 36
  | zeroCharacter => 22
  | stray => 22

def Fault.reason : Fault → String
  | missing => "No such file or directory"
  | denied => "Permission denied"
  | «exists» => "File exists"
  | notFolder => "Not a directory"
  | isFolder => "Is a directory"
  | nameTooLong => "File name too long"
  | zeroCharacter => "embedded null byte"
  | stray => "surrogates not allowed"

/-- Whether a fault is one of the path itself, which is a bad value on every disk. -/
def Fault.isOfPath : Fault → Bool
  | zeroCharacter | stray => true
  | _ => false

structure Failure where
  fault : Fault
  path : Path

def Failure.message (f : Failure) : String :=
  match f.fault with
  | .zeroCharacter => f.fault.reason
  | .stray => ((Text.strayIn? Text.isNameless f.path.toString.toList).map (·.message)).getD
      f.fault.reason
  | _ => "[Errno " ++ toString f.fault.number ++ "] " ++ f.fault.reason ++ ": " ++
      Text.quoted f.path.toString

/-- The entry at a place; the root itself is always there. -/
def entryAt (d : Disk) (place : List String) : Option Entry :=
  if place.isEmpty then some .folder
  else (d.entries.find? fun e => e.1 = place).map (·.2)

/-- Sets what is at a place. -/
def put (d : Disk) (place : List String) (e : Entry) : Disk :=
  if d.entries.any fun f => f.1 = place then
    { d with entries := d.entries.map fun f => if f.1 = place then (place, e) else f }
  else { d with entries := d.entries ++ [(place, e)] }

/-- Octets that a name may have. -/
def nameLimit : Nat := 255

/-- The place that names lead to from a place. Every place on the way has to be a folder. -/
def walk (d : Disk) : List String → List String → Except Fault (List String)
  | place, [] => .ok place
  | place, name :: names =>
    match d.entryAt place with
    | none => .error .missing
    | some (.file _) => .error .notFolder
    | some .folder =>
      if name = ".." then d.walk place.dropLast names
      else if nameLimit < name.utf8ByteSize then .error .nameTooLong
      else d.walk (place ++ [name]) names

/-- What is wrong with a path on every disk. -/
def pathFault? (p : Path) : Option Fault :=
  if p.parts.any (·.toList.any Text.isNameless) then some .stray
  else if p.parts.any (·.toList.contains '\x00') then some .zeroCharacter
  else none

/-- The place of a path, and what is there. -/
def locate (d : Disk) (p : Path) : Except Fault (List String × Option Entry) :=
  match pathFault? p with
  | some f => .error f
  | none => (d.walk (if p.absolute then [] else d.home) p.parts).map fun place =>
    (place, d.entryAt place)

/-- Whether there is anything at a path. A name that no entry can have is an error. -/
def isThere (d : Disk) (p : Path) : Except Failure Bool :=
  match d.locate p with
  | .ok (_, found) => .ok found.isSome
  | .error .nameTooLong => .error ⟨.nameTooLong, p⟩
  | .error _ => .ok false

def isFolder (d : Disk) (p : Path) : Bool :=
  match d.locate p with
  | .ok (_, some .folder) => true
  | _ => false

/-- The content of a file. -/
def read (d : Disk) (p : Path) : Except Failure Octets :=
  match d.locate p with
  | .error f => .error ⟨f, p⟩
  | .ok (_, none) => .error ⟨.missing, p⟩
  | .ok (_, some .folder) => .error ⟨.isFolder, p⟩
  | .ok (place, some (.file content)) =>
    if d.closed.contains place then .error ⟨.denied, p⟩ else .ok content

/-- What a file holds; one that is still to be made holds nothing. -/
def held : Option Entry → Octets
  | some (.file content) => content
  | _ => []

/-- Opens a file, which is made if there is none, and sets its content from the present one. -/
def update (d : Disk) (p : Path) (change : Octets → Octets) : Except Failure Disk :=
  match d.locate p with
  | .error f => .error ⟨f, p⟩
  | .ok (_, some .folder) => .error ⟨.isFolder, p⟩
  | .ok (place, found) =>
    if d.closed.contains place then .error ⟨.denied, p⟩
    else .ok (d.put place (.file (change (held found))))

/-- Writes a file anew. -/
def write (d : Disk) (p : Path) (text : String) : Except Failure Disk :=
  d.update p fun _ => Text.octetsOf text

/-- Writes at the end of a file. -/
def append (d : Disk) (p : Path) (text : String) : Except Failure Disk :=
  d.update p fun content => content ++ Text.octetsOf text

def makeOne (d : Disk) (p : Path) : Except Failure Disk :=
  match d.locate p with
  | .error f => .error ⟨f, p⟩
  | .ok (_, some _) => .error ⟨.exists, p⟩
  | .ok (place, none) => .ok (d.put place .folder)

/-- Makes a folder that may be there already. -/
def makeUnlessThere (d : Disk) (p : Path) : Except Failure Disk :=
  match d.makeOne p with
  | .ok e => .ok e
  | .error f => if d.isFolder p && f.fault ≠ .missing then .ok d else .error f

/-- Makes a folder and all above it, from the nearest one that is there; fuel bounds the way up. -/
def makeAllFrom (d : Disk) (p : Path) : Nat → Except Failure Disk
  | 0 => d.makeUnlessThere p
  | fuel + 1 =>
    match d.makeUnlessThere p with
    | .ok e => .ok e
    | .error f =>
      if f.fault = .missing && !p.parts.isEmpty then
        match d.makeAllFrom p.parent fuel with
        | .error g => .error g
        | .ok e => e.makeUnlessThere p
      else .error f

/-- Makes a folder and all above it, as far as they are not there. -/
def makeAll (d : Disk) (p : Path) : Except Failure Disk := d.makeAllFrom p p.parts.length

end Disk

end Gleaner
