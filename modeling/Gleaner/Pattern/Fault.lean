import Gleaner.Text.Quoted

/-!
What can be wrong with a capture pattern, and how it is reported.
-/

namespace Gleaner.Pattern

inductive Fault where
  | danglingEscape
  | missingName (what : String)
  | unterminatedName (terminator : Char)
  | badName (name : String)
  | unknownName (name : String)
  | redefinedName (name : String) (index first : Nat)
  | incompleteEscape (text : String)
  | missingBrace
  | unknownCharacterName (name : String)
  | octalTooLarge (text : String)
  | badEscape (text : String)
  | openGroup
  | groupInsideLookBehind
  | noSuchGroup (index : Nat)
  | groupZero
  | unterminatedSet
  | badRange (low high : String)
  | bounds
  | nothingToRepeat
  | repeatedTwice
  | endsInGroup
  | unknownExtension (text : String)
  | unterminatedComment
  | unterminatedGroup
  | threeBranches
  | lateOptions
  | unknownOption
  | localeOption
  | clashingOptions
  | missingAfterOptions (what : String)
  | globalOn
  | globalOff
  | typeOff
  | onAndOff
  | unbalanced
  | looseLookBehind

def Fault.message : Fault → String
  | danglingEscape => "bad escape (end of pattern)"
  | missingName what => s!"missing {what}"
  | unterminatedName terminator => s!"missing {terminator}, unterminated name"
  | badName name => s!"bad character in group name {Text.quoted name}"
  | unknownName name => s!"unknown group name {Text.quoted name}"
  | redefinedName name index first =>
    s!"redefinition of group name {Text.quoted name} as group {index}; was group {first}"
  | incompleteEscape text => s!"incomplete escape {text}"
  | missingBrace => "missing \x7b"
  | unknownCharacterName name => s!"undefined character name {Text.quoted name}"
  | octalTooLarge text => s!"octal escape value {text} outside of range 0-0o377"
  | badEscape text => s!"bad escape {text}"
  | openGroup => "cannot refer to an open group"
  | groupInsideLookBehind => "cannot refer to group defined in the same lookbehind subpattern"
  | noSuchGroup index => s!"invalid group reference {index}"
  | groupZero => "bad group number"
  | unterminatedSet => "unterminated character set"
  | badRange low high => s!"bad character range {low}-{high}"
  | bounds => "min repeat greater than max repeat"
  | nothingToRepeat => "nothing to repeat"
  | repeatedTwice => "multiple repeat"
  | endsInGroup => "unexpected end of pattern"
  | unknownExtension text => s!"unknown extension ?{text}"
  | unterminatedComment => "missing ), unterminated comment"
  | unterminatedGroup => "missing ), unterminated subpattern"
  | threeBranches => "conditional backref with more than two branches"
  | lateOptions => "global flags not at the start of the expression"
  | unknownOption => "unknown flag"
  | localeOption => "bad inline flags: cannot use 'L' flag with a str pattern"
  | clashingOptions => "bad inline flags: flags 'a', 'u' and 'L' are incompatible"
  | missingAfterOptions what => s!"missing {what}"
  | globalOn => "bad inline flags: cannot turn on global flag"
  | globalOff => "bad inline flags: cannot turn off global flag"
  | typeOff => "bad inline flags: cannot turn off flags 'a', 'u' and 'L'"
  | onAndOff => "bad inline flags: flag turned on and off"
  | unbalanced => "unbalanced parenthesis"
  | looseLookBehind => "look-behind requires fixed-width pattern"

/-- A position in a pattern; lines are told only where there are several. -/
structure Position where
  offset : Nat
  line : Nat
  column : Nat
  several : Bool

def Position.ofOffset (source : String) (offset : Nat) : Position :=
  let before := source.toList.take offset
  { offset, line := before.count '\n' + 1
    column := (before.reverse.takeWhile (· ≠ '\n')).length + 1
    several := source.toList.contains '\n' }

def Position.text (p : Position) : String :=
  let line := if p.several then s!" (line {p.line}, column {p.column})" else ""
  s!" at position {p.offset}{line}"

/-- Why a pattern is refused. -/
inductive Refusal where
  | malformed (fault : Fault) (place : Option Position)
  | countTooLarge
  | asciiAndUnicode

def Refusal.message : Refusal → String
  | malformed fault none => fault.message
  | malformed fault (some p) => fault.message ++ p.text
  | countTooLarge => "the repetition number is too large"
  | asciiAndUnicode => "ASCII and UNICODE flags are incompatible"

end Gleaner.Pattern
