/-!
Selectors as trees: alternatives of compound selectors, each a row of tests on an element and
perhaps a relation to another element.
-/

namespace Gleaner

namespace Selector

/-- How the value of an attribute is compared. -/
inductive Comparison where
  | present
  | equal
  | startsWith
  | endsWith
  | contains
  | word
  | dashed
  deriving DecidableEq

structure AttributeTest where
  name : String
  comparison : Comparison
  value : List Char
  ignoreCase : Bool

/-- The places a · n + b, or the single place a. -/
structure Formula where
  a : Int
  b : Int
  repeated : Bool

/-- States that an element has by its place or by its role in a form. -/
inductive State where
  | root
  | scope
  | empty
  | defined
  | link
  | checked
  | default
  | indeterminate
  | disabled
  | enabled
  | required
  | optional
  | readOnly
  | readWrite
  | inRange
  | outOfRange
  | placeholderShown
  | opened
  | muted
  deriving DecidableEq

/-- Where the other element of a relation is looked for. -/
inductive Reach where
  | ancestor
  | parent
  | earlier
  | previous
  | descendant
  | child
  | later
  | next
  deriving DecidableEq

mutual

/-- One test on an element. -/
inductive Part where
  /-- A tag name, or a star, with the namespace written before it. -/
  | tag (space : Option String) (name : String)
  | id (name : String)
  | className (name : String)
  | attribute (test : AttributeTest)
  /-- The place among the siblings, or among those with the same tag, that the list selects. -/
  | nth (formula : Formula) (sameTag fromEnd : Bool) (among : List Compound)
  /-- Any of the alternatives holds, or none of them. -/
  | anyOf (negated : Bool) (alternatives : List Compound)
  | state (s : State)
  | language (ranges : List String)
  | direction (rightToLeft : Bool)

/-- Tests that all hold, the texts that must be contained, and a relation. -/
inductive Compound where
  /-- Holds of no element. -/
  | never
  | all (parts : List Part) (texts : List (Bool × List String))
      (relation : Option (Reach × Compound))

end

end Selector

/-- A selector list, with the number of alternatives as they are written. -/
abbrev Selector := List Selector.Compound

end Gleaner
