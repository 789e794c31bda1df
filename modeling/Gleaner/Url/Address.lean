import Gleaner.Text.Blank
import Gleaner.Text.Hex

/-!
Numeric addresses of hosts: four decimal octets, or eight groups of hexadecimal digits of which
one run of zeros may be left out.
-/

namespace Gleaner.Url

/-- Up to three digits, without a zero in front, of at most 255. -/
def isOctet (cs : List Char) : Bool :=
  !cs.isEmpty && cs.all Char.isDigit && cs.length ≤ 3 && (cs = ['0'] || cs.head? ≠ some '0') &&
    cs.foldl (fun n c => 10 * n + (c.toNat - 48)) 0 ≤ 255

def isV4 (cs : List Char) : Bool :=
  let octets := Text.splitAt '.' cs
  octets.length = 4 && octets.all isOctet

def isGroup (cs : List Char) : Bool := !cs.isEmpty && cs.length ≤ 4 && cs.all Text.isHexDigit

/-- The groups of an address. An address of the first kind at the end counts as two. -/
def groupsOf (cs : List Char) : List (List Char) :=
  let groups := Text.splitAt ':' cs
  match groups.getLast? with
  | some last => if isV4 last then groups.dropLast ++ [['0'], ['0']] else groups
  | none => groups

/-- How many groups stand on one side of a gap, where the outermost one may be missing if it is
the only one. -/
def sideCount? (outer : Option (List Char)) (groups : List (List Char)) : Option Nat :=
  if outer = some [] then if groups.length = 1 then some 0 else none
  else if groups.all isGroup then some groups.length
  else none

/-- Groups without gap are eight; with a gap, which is an empty group inside, at most seven stand
beside it. -/
def isGroups (groups : List (List Char)) : Bool :=
  let inner := groups.tail.dropLast
  match inner.filter List.isEmpty with
  | [] => groups.length = 8 && groups.all isGroup
  | [_] =>
    let before := groups.head?.toList ++ inner.takeWhile (!·.isEmpty)
    let after := (inner.dropWhile (!·.isEmpty)).tail ++ groups.getLast?.toList
    match sideCount? groups.head? before, sideCount? groups.getLast? after with
    | some m, some n => m + n ≤ 7
    | _, _ => false
  | _ => false

/-- An address of the second kind, with the name of a zone or none. -/
def isV6 (cs : List Char) : Bool :=
  let (address, zoneOk) := match Text.cutAt? '%' cs with
    | some (a, zone) => (a, !zone.isEmpty && !zone.contains '%')
    | none => (cs, true)
  let groups := Text.splitAt ':' address
  zoneOk && 3 ≤ groups.length && isGroups (groupsOf address)

/-- An address of a later kind: its version in hexadecimal digits, a point, and something more. -/
def isFuture (cs : List Char) : Bool :=
  match cs with
  | 'v' :: rest =>
    !(rest.takeWhile Text.isHexDigit).isEmpty && (match rest.dropWhile Text.isHexDigit with
      | '.' :: more => !more.isEmpty
      | _ => false)
  | _ => false

end Gleaner.Url
