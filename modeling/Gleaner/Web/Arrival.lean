import Gleaner.Log
import Gleaner.Web.Basic

/-!
How fetches go in time. The fetches that are under way take turns; a fetch is told by the turns
that it takes and by the time that it sleeps, and by the turns before and after it in which it is
watched over. Time itself passes only when nobody has a turn to take, and is counted in
microseconds.
-/

namespace Gleaner.Web

/-- How the fetch of a page goes. -/
structure Arrival where
  /-- The turns between its start and its end. -/
  turns : Nat := 0
  /-- The time that it sleeps after these turns. -/
  pause : Nat := 0
  /-- What comes back, if anything ever does. -/
  answer : Option (Except Fault String)
  /-- Notes that are made at the start. -/
  log : Log := []

/-- How long a fetch may take. -/
inductive Limit where
  | unlimited
  /-- No time at all: the fetch is given up before it starts. -/
  | spent
  /-- A time that cannot be compared: it is over at the first look at the clock. -/
  | brief
  /-- A time that is over after so long. -/
  | after (n : Nat)
  /-- A time that is never over. -/
  | boundless
  deriving DecidableEq

/-- The microseconds in a time above zero, the last of which may only have begun. -/
def microseconds (t : Float) : Nat :=
  let bits := t.toBits.toNat
  let e := bits / Nat.pow 2 52 % 2048
  let m := bits % Nat.pow 2 52 + if e = 0 then 0 else Nat.pow 2 52
  (m * Nat.pow 2 (max e 1) * 1000000 + (Nat.pow 2 1075 - 1)) / Nat.pow 2 1075

def Limit.ofSeconds : Option Float → Limit
  | none => .unlimited
  | some t =>
    if t ≤ 0.0 then .spent
    else if t.isNaN then .brief
    else if t.isInf then .boundless
    else .after (microseconds t)

/-- Whether the time is over at some point, also for a fetch that hangs. -/
def Limit.ends : Limit → Bool
  | .spent | .brief | .after _ => true
  | .unlimited | .boundless => false

/-- The turns of a fetch that end before a brief time is over. -/
def briefTurns : Nat := 1

/-- Whether a fetch is cut because its time is over. It is cut as well when it would end at that
very moment. -/
def Arrival.isCut (a : Arrival) : Limit → Bool
  | .spent => true
  | .brief => a.answer.isNone || briefTurns < a.turns || a.pause ≠ 0
  | .after n => a.answer.isNone || n ≤ a.pause
  | .unlimited | .boundless => false

/-- What a fetch comes to. -/
inductive Ending where
  | never
  | overdue
  | back (r : Except Fault String)

def Arrival.within (a : Arrival) (l : Limit) : Ending :=
  if a.isCut l then .overdue
  else match a.answer with
    | none => .never
    | some r => .back r

/-- A step of a fetch. -/
inductive Move where
  /-- Leaves the turn to the others. -/
  | pass
  | start
  /-- Waits until so much time has passed. -/
  | stall (n : Nat)
  /-- Waits for ever. -/
  | halt
  | finish
  deriving DecidableEq

abbrev Course := List Move

/-- The way of a fetch that nobody cuts, once it has started. -/
def Arrival.flight (a : Arrival) : Course :=
  match a.answer with
  | none => [.halt]
  | some _ =>
    List.replicate a.turns .pass ++ (if a.pause = 0 then [] else [.stall a.pause, .pass]) ++
      [.finish]

/-- The way of a fetch, from the moment it is asked for until its end is known. -/
def Arrival.course (a : Arrival) (l : Limit) : Course :=
  match l with
  | .unlimited => .start :: a.flight
  | .spent => [.pass, .pass, .pass]
  | .brief =>
    if a.isCut l then [.pass, .start, .pass, .pass, .finish, .pass, .pass]
    else .pass :: .start :: (a.flight ++ [.pass])
  | .after n =>
    if a.isCut l then [.pass, .start, .stall n, .pass, .pass, .finish, .pass, .pass]
    else .pass :: .start :: (a.flight ++ [.pass, .pass])
  | .boundless => .pass :: .start :: (a.flight ++ [.pass, .pass])

/-- Whether the fetch ever starts on its way. -/
def Course.starts (c : Course) : Bool := c.contains .start

end Gleaner.Web
