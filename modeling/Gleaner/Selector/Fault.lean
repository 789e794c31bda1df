import Gleaner.Text.Quoted

/-!
What can be wrong with a selector. A fault of its writing is shown in its context: the lines of the
selector, with a mark under the place.
-/

namespace Gleaner.Selector

inductive Fault where
  | expectedSelector
  | misplacedCombinator (combinator : Char)
  | repeatedCombinator
  | unclosed
  | unmatchedClose
  | misplacedTag
  | malformed (kind : String)
  | invalidCharacter (c : Char)
  | invalidUse (name : String)
  | unknownState (name : String)
  | unknownCustom (name : String)

/-- The fault at an offset in words. -/
def Fault.describe (offset : Nat) : Fault → String
  | expectedSelector => s!"Expected a selector at position {offset}"
  | misplacedCombinator c =>
    s!"The combinator '{c}' at position {offset}, must have a selector before it"
  | repeatedCombinator => s!"The multiple combinators at position {offset}"
  | unclosed => s!"Unclosed pseudo-class at position {offset}"
  | unmatchedClose => s!"Unmatched pseudo-class close at position {offset}"
  | misplacedTag => s!"Tag name found at position {offset} instead of at the start"
  | malformed kind => s!"Malformed {kind} selector at position {offset}"
  | invalidCharacter c => s!"Invalid character {Text.quoted (String.singleton c)} position {offset}"
  | invalidUse name => s!"Invalid syntax for pseudo class '{name}'"
  | unknownState name =>
    s!"'{name}' was detected as a pseudo-class and is either unsupported or invalid. If the " ++
      "syntax was not intended to be recognized as a pseudo-class, please escape the colon."
  | unknownCustom name => s!"Undefined custom selector '{name}' found at position {offset}"

/-- A line of a selector: where it starts, its characters, and where the next one starts. -/
structure Line where
  start : Nat
  body : List Char
  stop : Nat

/-- Lines end with a carriage return, a line feed or both. -/
def linesFrom (start : Nat) (body : List Char) : List Char → List Line
  | [] => [⟨start, body.reverse, start + body.length⟩]
  | '\r' :: '\n' :: cs =>
    let stop := start + body.length + 2
    ⟨start, body.reverse, stop⟩ :: linesFrom stop [] cs
  | c :: cs =>
    if c = '\n' || c = '\r' then
      let stop := start + body.length + 1
      ⟨start, body.reverse, stop⟩ :: linesFrom stop [] cs
    else linesFrom start (c :: body) cs

def spaces (n : Nat) : List Char := List.replicate n ' '

/-- One of several lines: the one with the place in it has an arrow, and a mark below. -/
def Line.show (l : Line) (offset : Nat) : List Char :=
  if l.start ≤ offset && offset < l.stop then
    let shift := if l.start + l.body.length < offset then 2 else 3
    '-' :: '-' :: '>' :: ' ' :: l.body ++ '\n' :: spaces (offset - l.start + 1 + shift) ++ ['^']
  else spaces 4 ++ l.body

/-- The number of the line that holds an offset, or one. -/
def lineNumber (lines : List Line) (offset : Nat) : Nat :=
  match lines.findIdx? fun l => l.start ≤ offset && offset < l.stop with
  | some i => i + 1
  | none => 1

/-- The selector with a mark under the place. -/
def context (source : List Char) (offset : Nat) : Nat × List Char :=
  match linesFrom 0 [] source with
  | [l] => (1, l.body ++ '\n' :: spaces offset ++ ['^'])
  | lines => (lineNumber lines offset, List.intercalate ['\n'] (lines.map (·.show offset)))

inductive Refusal where
  | written (fault : Fault) (source : String) (offset : Nat)
  | atRule (offset : Nat)
  | pseudoElement (offset : Nat)
  /-- An escape with a number that no character has. -/
  | noCharacter

def Refusal.message : Refusal → String
  | written fault source offset =>
    let (line, shown) := context source.toList offset
    s!"{fault.describe offset}\n  line {line}:\n{String.ofList shown}"
  | atRule offset => s!"At-rules found at position {offset}"
  | pseudoElement offset => s!"Pseudo-element found at position {offset}"
  | noCharacter => "chr() arg not in range(0x110000)"

end Gleaner.Selector
