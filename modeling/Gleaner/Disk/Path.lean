import Gleaner.Text.Blank

/-!
Paths on disk: names one below the other, from the root or from the working folder. Names that
stand for the folder itself are left out; those that go up are kept, since what is above depends
on the disk.
-/

namespace Gleaner

structure Path where
  absolute : Bool := false
  parts : List String
  deriving DecidableEq, Inhabited

namespace Path

def isEmptyPart (s : String) : Bool := s = "" || s = "."

def partsOf (s : String) : List String :=
  ((Text.splitAt '/' s.toList).map String.ofList).filter fun p => !isEmptyPart p

def ofString (s : String) : Path := { absolute := s.startsWith "/", parts := partsOf s }

def toString (p : Path) : String :=
  let names := "/".intercalate p.parts
  if p.absolute then "/" ++ names else if p.parts.isEmpty then "." else names

/-- A path below another, unless it starts at the root. -/
def join (p : Path) (below : String) : Path :=
  let q := ofString below
  if q.absolute then q else { p with parts := p.parts ++ q.parts }

def parent (p : Path) : Path := { p with parts := p.parts.dropLast }

end Path

end Gleaner
