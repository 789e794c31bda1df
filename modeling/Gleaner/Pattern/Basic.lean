import Gleaner.Pattern.Reader
import Gleaner.Pattern.Matcher

/-!
Capture patterns: compiling one, and finding its first match in a text.
-/

namespace Gleaner

/-- A compiled pattern. -/
structure Pattern where
  source : String
  groups : Nat
  body : List Pattern.Node

namespace Pattern

def Halt.refusal (source : String) : Halt → Refusal
  | .fault f place => .malformed f (place.map (Position.ofOffset source))
  | .countTooLarge => .countTooLarge

/-- The first condition, in the order of the pattern, on a group that the pattern does not have. -/
def missingCondition? (c : Cursor) : Option (Nat × Nat) :=
  c.conditions.find? fun (index, _) => c.widths.size ≤ index

/-- Compiles a pattern under options given beside it. -/
def compile (source : String) (options : Options) : Except Refusal Pattern :=
  let cs := source.toList
  let start : Cursor :=
    { size := cs.length, next := [], rest := cs, options, names := [], widths := #[none],
      lookBehind := none, conditions := [] }
  match (readPattern options).run start with
  | .error halt => .error (halt.refusal source)
  | .ok (body, c) =>
    if c.options.asciiOnly && c.options.unicode then .error .asciiAndUnicode
    else if !c.next.isEmpty then
      .error (.malformed .unbalanced (some (Position.ofOffset source c.place)))
    else match missingCondition? c with
      | some (index, offset) =>
        .error (.malformed (.noSuchGroup index) (some (Position.ofOffset source offset)))
      | none =>
        if allFixed body then .ok { source, groups := c.widths.size - 1, body }
        else .error (.malformed .looseLookBehind none)

/-- A match: the text it was found in and where it and its groups stand. -/
structure Match where
  input : Array Char
  start : Nat
  spot : Spot

def Match.slice (m : Match) (a b : Nat) : String := String.ofList (m.input.extract a b).toList

def Match.whole (m : Match) : String := m.slice m.start m.spot.pos

/-- What a group matched, if it took part. -/
def Match.group? (m : Match) (index : Nat) : Option String :=
  (m.spot.span? index).map fun (a, b) => m.slice a b

/-- Tries every place from the given one on. -/
def searchFrom (p : Pattern) (input : Array Char) : Nat → Nat → Option Match
  | 0, _ => none
  | fuel + 1, i =>
    match matchAll input p.body ⟨i, Array.replicate (2 * (p.groups + 1)) none⟩ some with
    | some spot => some ⟨input, i, spot⟩
    | none => p.searchFrom input fuel (i + 1)

/-- The first match in a text. -/
def search (p : Pattern) (s : String) : Option Match :=
  let input := s.toList.toArray
  p.searchFrom input (input.size + 1) 0

end Pattern

end Gleaner
