import Gleaner.Pattern.Node

/-!
Matching by backtracking: the first way through the parts, in their order of preference. A part is
matched against what follows it, given as a continuation, so every recursion is on the pattern.
-/

namespace Gleaner.Pattern

/-- A place in the text and where the groups started and ended last. -/
structure Spot where
  pos : Nat
  marks : Array (Option Nat)

/-- What a way through the rest of the pattern leads to. -/
abbrev Continuation := Spot → Option Spot

def Spot.start? (s : Spot) (index : Nat) : Option Nat := (s.marks[2 * index]?).bind id
def Spot.end? (s : Spot) (index : Nat) : Option Nat := (s.marks[2 * index + 1]?).bind id

/-- The bounds of what a group matched last. -/
def Spot.span? (s : Spot) (index : Nat) : Option (Nat × Nat) :=
  match s.start? index, s.end? index with
  | some a, some b => if a ≤ b then some (a, b) else none
  | _, _ => none

def Spot.mark (s : Spot) (slot : Nat) : Spot :=
  { s with marks := s.marks.setIfInBounds slot (some s.pos) }

def Category.holds (kind : Category) (asciiOnly : Bool) (c : Char) : Bool :=
  if asciiOnly && 128 ≤ c.val then false
  else match kind with
    | digit => Text.isDecimal c
    | blank => if asciiOnly then c = ' ' || (9 ≤ c.toNat && c.toNat ≤ 13) else Text.isBlank c
    | word => Text.isWord c

/-- Letters that stand for a given one. -/
def CaseRule.variants : CaseRule → Char → List Char
  | exact, c => [c]
  | ascii, c => Text.asciiVariants c
  | full, c => Text.caseVariants c

def CaseRule.fold : CaseRule → Char → Char
  | exact, c => c
  | ascii, c => c.toLower
  | full, c => Text.lowerChar c

def SetItem.holds (rule : CaseRule) (c : Char) : SetItem → Bool
  | range low high => (rule.variants c).any fun v => low ≤ v.toNat && v.toNat ≤ high
  | category kind negated asciiOnly => kind.holds asciiOnly (rule.fold c) != negated

def CharSet.holds (s : CharSet) (c : Char) : Bool := (s.items.any (·.holds s.rule c)) != s.negated

section
variable (input : Array Char)

def wordAt (asciiOnly : Bool) (i : Nat) : Bool :=
  match input[i]? with
  | some c => Category.word.holds asciiOnly c
  | none => false

def Anchor.holds (i : Nat) : Anchor → Bool
  | textStart => i = 0
  | textEnd => i = input.size
  | lineStart => i = 0 || input[i - 1]? = some '\n'
  | lineEnd => i = input.size || input[i]? = some '\n'
  | lastLineEnd => i = input.size || (i + 1 = input.size && input[i]? = some '\n')
  | boundary negated asciiOnly =>
    let before := 0 < i && wordAt input asciiOnly (i - 1)
    (input.size ≠ 0 && (before != wordAt input asciiOnly i) != negated)

/-- Whether the same letters stand at two places. -/
def sameText (rule : CaseRule) (i j : Nat) : Nat → Bool
  | 0 => true
  | n + 1 => match input[i]?, input[j]? with
    | some a, some b => rule.fold a = rule.fold b && sameText rule (i + 1) (j + 1) n
    | _, _ => false

/-- How far a repetition has come. -/
structure Rounds where
  count : Nat
  /-- Where the last round beyond the least count started. -/
  last : Option Nat

/-- Whether one more round may be tried: not beyond the greatest count, and not after a round that
matched nothing. -/
def Rounds.more (r : Rounds) (high : Option Nat) (i : Nat) : Bool :=
  (match high with
    | some h => r.count < h
    | none => true) && r.last ≠ some i

/-- Rounds of a body, first those that the least count asks for. -/
def greedyLoop (body : Spot → Continuation → Option Spot) (low : Nat) (high : Option Nat)
    (k : Continuation) : Nat → Rounds → Continuation
  | 0, _, s => k s
  | fuel + 1, r, s =>
    if r.count < low then body s (greedyLoop body low high k fuel { r with count := r.count + 1 })
    else if r.more high s.pos then
      match body s (greedyLoop body low high k fuel ⟨r.count + 1, some s.pos⟩) with
      | some t => some t
      | none => k s
    else k s

def lazyLoop (body : Spot → Continuation → Option Spot) (low : Nat) (high : Option Nat)
    (k : Continuation) : Nat → Rounds → Continuation
  | 0, _, s => k s
  | fuel + 1, r, s =>
    if r.count < low then body s (lazyLoop body low high k fuel { r with count := r.count + 1 })
    else match k s with
      | some t => some t
      | none =>
        if r.more high s.pos then
          body s (lazyLoop body low high k fuel ⟨r.count + 1, some s.pos⟩)
        else none

/-- Each round is settled before the next one starts. -/
def possessiveLoop (body : Spot → Continuation → Option Spot) (low : Nat) (high : Option Nat) :
    Nat → Rounds → Spot → Option Spot
  | 0, _, s => some s
  | fuel + 1, r, s =>
    if r.count < low then
      match body s some with
      | some t => possessiveLoop body low high fuel { r with count := r.count + 1 } t
      | none => none
    else if r.more high s.pos then
      match body s some with
      | some t => possessiveLoop body low high fuel ⟨r.count + 1, some s.pos⟩ t
      | none => some s
    else some s

/-- Enough rounds: each one beyond the least count but the last goes forward. -/
def roundsLeft (low : Nat) (s : Spot) : Nat := low + (input.size - s.pos) + 2

mutual

def matchNode : Node → Spot → Continuation → Option Spot
  | .set set, s, k => match input[s.pos]? with
    | some c => if set.holds c then k { s with pos := s.pos + 1 } else none
    | none => none
  | .anchor a, s, k => if a.holds input s.pos then k s else none
  | .group none body, s, k => matchAll body s k
  | .group (some index) body, s, k =>
    matchAll body (s.mark (2 * index)) fun t => k (t.mark (2 * index + 1))
  | .branch alternatives, s, k => matchFirst alternatives s k
  | .loop greed low high body, s, k =>
    let fuel := roundsLeft input low s
    match greed with
    | .greedy => greedyLoop (fun s k => matchAll body s k) low high k fuel ⟨0, none⟩ s
    | .lazy => lazyLoop (fun s k => matchAll body s k) low high k fuel ⟨0, none⟩ s
    | .possessive =>
      (possessiveLoop (fun s k => matchAll body s k) low high fuel ⟨0, none⟩ s).bind k
  | .atomic body, s, k => (matchAll body s some).bind k
  | .look behind negated body, s, k =>
    let back := match behind with
      | some (w, _) => w
      | none => 0
    let found := if back ≤ s.pos then matchAll body { s with pos := s.pos - back } some else none
    match found, negated with
    | some t, false => k { s with marks := t.marks }
    | none, true => k s
    | _, _ => none
  | .backReference index rule, s, k => match s.span? index with
    | some (a, b) =>
      if sameText input rule a s.pos (b - a) then k { s with pos := s.pos + (b - a) } else none
    | none => none
  | .conditional index yes no, s, k =>
    if (s.span? index).isSome then matchAll yes s k else matchAll no s k

def matchAll : List Node → Spot → Continuation → Option Spot
  | [], s, k => k s
  | n :: ns, s, k => matchNode n s fun t => matchAll ns t k

def matchFirst : List (List Node) → Spot → Continuation → Option Spot
  | [], _, _ => none
  | ns :: rest, s, k => match matchAll ns s k with
    | some t => some t
    | none => matchFirst rest s k

end

end

end Gleaner.Pattern
