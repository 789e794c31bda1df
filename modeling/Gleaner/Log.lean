/-!
Notes of what a run does, in order.
-/

namespace Gleaner

inductive Level where
  | info
  | warning
  | error
  deriving DecidableEq, Inhabited

def Level.name : Level → String
  | info => "INFO"
  | warning => "WARNING"
  | error => "ERROR"

/-- A note, with the part of the program that made it. -/
structure Note where
  level : Level
  origin : String
  message : String
  deriving DecidableEq, Inhabited

abbrev Log := List Note

namespace Note

def info (origin message : String) : Note := ⟨.info, origin, message⟩
def warning (origin message : String) : Note := ⟨.warning, origin, message⟩
def error (origin message : String) : Note := ⟨.error, origin, message⟩

end Note

end Gleaner
