import Gleaner.Text.Encoding
import Gleaner.Text.Quoted

/-!
The web as a table: what a request for an address gets.
-/

namespace Gleaner

namespace Web

/-- What keeps a request from being answered. -/
inductive Cause where
  /-- Anything that the transport reports, by its own name for it. -/
  | transport (name : String)
  | timeout
  | system
  | value
  | missing
  | runtime
  /-- A page that cannot be had, by its address. -/
  | page (url : String)
  deriving DecidableEq, Inhabited

structure Fault where
  cause : Cause
  message : String
  deriving DecidableEq, Inhabited

/-- An answer to a request. -/
structure Answer where
  status : Int := 200
  reason : String := "OK"
  content : Text.Octets
  encoding : Text.Encoding := .utf8

/-- Seconds, as they were given. -/
inductive Seconds where
  | whole (n : Int)
  | decimal (x : Float)

structure Request where
  url : String
  /-- The name under which the client asks, if it gives one. -/
  agent : Option String
  timeout : Seconds

end Web

/-- What addresses answer. -/
abbrev Web := List (String × Except Web.Fault Web.Answer)

namespace Web

/-- The fault that a status stands for. -/
def statusFault? (url : String) (a : Answer) : Option Fault :=
  let fault (side : String) : Fault :=
    ⟨.transport "HTTPError", s!"{a.status} {side} Error: {a.reason} for url: {url}"⟩
  if 400 ≤ a.status && a.status < 500 then some (fault "Client")
  else if 500 ≤ a.status && a.status < 600 then some (fault "Server")
  else none

/-- The answer of an address, unless it answers with a fault. -/
def ask (w : Web) (url : String) : Except Fault Answer :=
  match w.find? (·.1 = url) with
  | none => .error ⟨.transport "ConnectionError", s!"no page for {url}"⟩
  | some (_, .error f) => .error f
  | some (_, .ok a) => match statusFault? url a with
    | some f => .error f
    | none => .ok a

/-- Whether a fault is one of the transport. -/
def Fault.isTransport (f : Fault) : Bool :=
  match f.cause with
  | .transport _ => true
  | _ => false

end Web

end Gleaner
