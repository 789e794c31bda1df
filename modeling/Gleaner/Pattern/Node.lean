import Gleaner.Text.Word
import Gleaner.Text.Digit
import Gleaner.Text.Blank
import Gleaner.Text.Lower

/-!
Capture patterns as trees. Letters of the pattern's options are resolved while it is read, so each
part carries the options that hold for it.
-/

namespace Gleaner.Pattern

/-- Options of a pattern or of a part of it. -/
structure Options where
  ignoreCase : Bool := false
  multiline : Bool := false
  dotAll : Bool := false
  verbose : Bool := false
  asciiOnly : Bool := false
  unicode : Bool := false
  deriving DecidableEq

/-- Which letters count as equal: only the same, small and capital ASCII letters, or those of all
scripts. -/
inductive CaseRule where
  | exact
  | ascii
  | full
  deriving DecidableEq

def Options.caseRule (o : Options) : CaseRule :=
  if !o.ignoreCase then .exact else if o.asciiOnly then .ascii else .full

inductive Category where
  | digit
  | blank
  | word
  deriving DecidableEq

/-- One part of a set of characters. -/
inductive SetItem where
  | range (low high : Nat)
  | category (kind : Category) (negated asciiOnly : Bool)
  deriving DecidableEq

/-- A set of characters, perhaps turned into its complement. -/
structure CharSet where
  negated : Bool
  items : List SetItem
  rule : CaseRule

inductive Anchor where
  | textStart
  | textEnd
  | lineStart
  | lineEnd
  | lastLineEnd
  | boundary (negated asciiOnly : Bool)
  deriving DecidableEq

/-- How a repetition chooses its count: as many as possible, as few as possible, or as many as
possible without coming back to it. -/
inductive Greed where
  | greedy
  | lazy
  | possessive
  deriving DecidableEq

inductive Node where
  | set (s : CharSet)
  | anchor (a : Anchor)
  | group (index : Option Nat) (body : List Node)
  | branch (alternatives : List (List Node))
  | loop (greed : Greed) (low : Nat) (high : Option Nat) (body : List Node)
  | atomic (body : List Node)
  /-- Looks ahead, or behind over a least and greatest width. -/
  | look (behind : Option (Nat × Nat)) (negated : Bool) (body : List Node)
  | backReference (index : Nat) (rule : CaseRule)
  | conditional (index : Nat) (yes no : List Node)

/-- The least and the greatest number of characters that a part can match. -/
abbrev Width := Nat × Nat

/-- Widths beyond this one are not told apart. -/
def widthLimit : Nat := Nat.pow 2 64

def Width.add (a b : Width) : Width := (min (a.1 + b.1) widthLimit, min (a.2 + b.2) widthLimit)

def Width.hull (a b : Width) : Width := (min a.1 b.1, max a.2 b.2)

def Width.times (w : Width) (low : Nat) (high : Option Nat) : Width :=
  (min (w.1 * low) widthLimit,
    match high with
    | none => if w.2 = 0 then 0 else widthLimit
    | some h => min (w.2 * h) widthLimit)

mutual

/-- The width of a part, given the widths of the groups that are closed. -/
def Node.width (closed : Nat → Width) : Node → Width
  | .set _ => (1, 1)
  | .anchor _ => (0, 0)
  | .group _ body => widthOf closed body
  | .branch alternatives => widthOfBranch closed alternatives
  | .loop _ low high body => Width.times (widthOf closed body) low high
  | .atomic body => widthOf closed body
  | .look _ _ _ => (0, 0)
  | .backReference index _ => closed index
  | .conditional _ yes no => Width.hull (widthOf closed yes) (widthOf closed no)

def widthOf (closed : Nat → Width) : List Node → Width
  | [] => (0, 0)
  | n :: ns => Width.add (n.width closed) (widthOf closed ns)

def widthOfBranch (closed : Nat → Width) : List (List Node) → Width
  | [] => (widthLimit, 0)
  | ns :: rest => Width.hull (widthOf closed ns) (widthOfBranch closed rest)

end

mutual

/-- Whether every look behind has one width. -/
def Node.fixed : Node → Bool
  | .set _ | .anchor _ | .backReference _ _ => true
  | .group _ body | .loop _ _ _ body | .atomic body => allFixed body
  | .branch alternatives => branchFixed alternatives
  | .look behind _ body => (match behind with
    | some (low, high) => low = high
    | none => true) && allFixed body
  | .conditional _ yes no => allFixed yes && allFixed no

def allFixed : List Node → Bool
  | [] => true
  | n :: ns => n.fixed && allFixed ns

def branchFixed : List (List Node) → Bool
  | [] => true
  | ns :: rest => allFixed ns && branchFixed rest

end

end Gleaner.Pattern
