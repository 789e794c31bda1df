/-!
Classes of characters, given as lists of ranges of code points.
-/

namespace Gleaner.Text

/-- Both ends of a range belong to it. -/
def inRanges (ranges : List (Nat × Nat)) (c : Char) : Bool :=
  ranges.any fun r => r.1 ≤ c.toNat && c.toNat ≤ r.2

end Gleaner.Text
