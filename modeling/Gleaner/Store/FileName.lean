import Gleaner.Digest.Basic
import Gleaner.Url.Basic

/-!
File names for addresses: made of safe characters, of bounded length, and with a digest of the
address where the name alone would not tell it apart.
-/

namespace Gleaner.Store

def isSafe (c : Char) : Bool := c.isAlphanum || c = '-' || c = '_' || c = '.'

/-- Keeps one of each run of low lines. -/
def squeeze : List Char → List Char
  | '_' :: '_' :: cs => squeeze ('_' :: cs)
  | c :: cs => c :: squeeze cs
  | [] => []

/-- The first characters of a text; a negative limit counts from its end. -/
def takeTo (limit : Int) (cs : List Char) : List Char :=
  if 0 ≤ limit then cs.take limit.toNat else cs.take (cs.length - limit.natAbs)

/-- The longest file name. -/
def nameLimit : Nat := 120

/-- A text as a file name. -/
def safeChars (limit : Int) (cs : List Char) : List Char :=
  let safe := cs.map fun c => if isSafe c then c else '_'
  match takeTo limit (Text.trimOf (· = '_') (squeeze safe)) with
  | [] => "unnamed".toList
  | kept => kept

def safeName (limit : Int) (s : String) : String := String.ofList (safeChars limit s.toList)

def extension : List Char := ".json".toList

/-- Digits of a digest in a file name. -/
def digestDigits : Nat := 8

/-- The name for a path, before it is made safe. -/
def pathName (path : List Char) : List Char :=
  if path.isEmpty || path = ['/'] then "index".toList
  else (Text.trimOf (· = '/') path).map fun c => if c = '/' then '_' else c

/-- The characters that a file name has for its stem. -/
def stemLimit : Nat := nameLimit - extension.length

/-- Whether a name alone would not tell an address apart, or be too long. -/
def needsDigest (u : Url) (name : List Char) : Bool :=
  !u.query.isEmpty || stemLimit < name.length

/-- The file name for an address, which has been read as a url. -/
def fileName (address : String) (u : Url) : String :=
  let name := safeChars nameLimit (pathName u.path)
  let stem :=
    if needsDigest u name then
      name.take (stemLimit - digestDigits - 1) ++
        '_' :: (Digest.Algorithm.md5.digest address).toList.take digestDigits
    else name
  String.ofList (stem ++ extension)

/-- An address with a digest in its file name has to have octets. -/
def nameFault? (address : String) (u : Url) : Option Text.Stray :=
  if needsDigest u (safeChars nameLimit (pathName u.path)) then Text.stray? address else none

end Gleaner.Store
