/-!
What is wrong with a value that should have a given shape. A check goes on after a complaint, so
that all of them are reported together, each with its place in the value.
-/

namespace Gleaner.Shape

inductive Cause where
  | missing
  | unknown
  | keyNotText
  | notText
  | notTuple
  | notList
  | notMap
  /-- Neither a mapping nor a finished value of a named shape. -/
  | notShape (name : String)
  | notAmong (choices : String)
  | notPattern (kind : String)
  | notTruth
  | truthUnclear
  | notWhole
  | wholeUnclear
  | wholeTooLarge
  | fractional
  | notFinite
  | notNumber
  | numberUnclear
  deriving DecidableEq, Inhabited

def Cause.message : Cause → String
  | missing => "Field required"
  | unknown => "Extra inputs are not permitted"
  | keyNotText => "Keys should be strings"
  | notText => "Input should be a valid string"
  | notTuple => "Input should be a valid tuple"
  | notList => "Input should be a valid list"
  | notMap => "Input should be a valid dictionary"
  | notShape name => s!"Input should be a valid dictionary or instance of {name}"
  | notAmong choices => s!"Input should be {choices}"
  | notPattern kind => s!"Value error, pattern must be a string or compiled regex, got {kind}"
  | notTruth => "Input should be a valid boolean"
  | truthUnclear => "Input should be a valid boolean, unable to interpret input"
  | notWhole => "Input should be a valid integer"
  | wholeUnclear => "Input should be a valid integer, unable to parse string as an integer"
  | wholeTooLarge => "Unable to parse input string as an integer, exceeded maximum size"
  | fractional => "Input should be a valid integer, got a number with a fractional part"
  | notFinite => "Input should be a finite number"
  | notNumber => "Input should be a valid number"
  | numberUnclear => "Input should be a valid number, unable to parse string as a number"

structure Complaint where
  place : List String
  cause : Cause
  deriving DecidableEq

def Complaint.text (c : Complaint) : String :=
  let place := ".".intercalate c.place
  if place = "" then c.cause.message else place ++ ": " ++ c.cause.message

/-- All complaints on one line. -/
def describe (cs : List Complaint) : String := "; ".intercalate (cs.map Complaint.text)

/-- What a check yields: a value, or everything that is wrong. -/
abbrev Checked (β : Type) := Except (List Complaint) β

namespace Checked

variable {β γ δ : Type}

def refuse (cause : Cause) : Checked β := .error [⟨[], cause⟩]

/-- Complaints about a part are complaints about the whole, at the part's place. -/
def within (place : String) : Checked β → Checked β
  | .ok b => .ok b
  | .error cs => .error (cs.map fun c => { c with place := place :: c.place })

/-- Both checks are made, whatever the first one yields. -/
def both (f : β → γ → δ) : Checked β → Checked γ → Checked δ
  | .ok b, .ok c => .ok (f b c)
  | .ok _, .error cs => .error cs
  | .error bs, .ok _ => .error bs
  | .error bs, .error cs => .error (bs ++ cs)

/-- All checks are made, in order. -/
def all : List (Checked β) → Checked (List β)
  | [] => .ok []
  | c :: cs => both List.cons c (all cs)

end Checked

end Gleaner.Shape
