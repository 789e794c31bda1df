import Gleaner.Pattern.Basic

/-!
Refining an extracted text by a capture pattern: only the first group of the first match stays, or
the whole match if the pattern has no groups.
-/

namespace Gleaner.Field

/-- A pattern as text, compiled when it is used, or one compiled before. -/
inductive Refinement where
  | source (text : String)
  | compiled (pattern : Pattern)

def keep (p : Pattern) (value : String) : String :=
  match p.search value with
  | none => ""
  | some m => if p.groups = 0 then m.whole else (m.group? 1).getD ""

def Refinement.pattern : Refinement → Except Pattern.Refusal Pattern
  | source text => Pattern.compile text {}
  | compiled p => .ok p

/-- What stays of a value. -/
def Refinement.apply (r : Refinement) (value : String) : Except Pattern.Refusal String :=
  r.pattern.map fun p => keep p value

end Gleaner.Field
