import Gleaner.Value
import Gleaner.Web.Fetcher

/-!
The fetcher that renders pages in a browser. It is entered before it fetches, which starts a
browser, and left afterwards, which closes the one at hand.
-/

namespace Gleaner.Web

/-- What a browser makes of a page: its markup, if it has any, or why it could not be rendered. -/
structure Rendering where
  succeeds : Bool
  markup : Option String
  reason : Option String

/-- What a browser is made to do. -/
inductive BrowserEvent where
  | made (agent : String)
  | started
  | rendered (url : String) (milliseconds : Int)
  | closed
  deriving DecidableEq

inductive BrowserFault where
  /-- There is no browser yet, or no more. -/
  | notEntered
  | notRendered (url reason : String)
  /-- A page that is not among those given. -/
  | unknown (url : String)
  deriving DecidableEq

def BrowserFault.message : BrowserFault → String
  | notEntered => "BrowserFetcher must be entered with 'async with' before fetching"
  | notRendered url reason => s!"{reason}: {url}"
  | unknown url => Text.quoted url

/-- Whole milliseconds, cut off. -/
def Seconds.milliseconds : Seconds → Int
  | whole n => n * 1000
  | decimal x =>
    let y := x * 1000.0
    let whole := if y < 0.0 then -((-y).floor) else y.floor
    (Key.wholeOf? whole).getD 0

structure Browser where
  agent : String
  milliseconds : Int
  /-- How many browsers were started so far. Each has the number of those before it. -/
  made : Nat := 0
  /-- The browser at hand. -/
  held : Option Nat := none
  deriving DecidableEq

inductive BrowserStep where
  | enter
  | leave
  | fetch (url : String)

/-- What a step yields, with what it leaves behind and what was done with which browser. -/
structure BrowserOutcome where
  browser : Browser
  result : Except BrowserFault (Option String)
  used : Option Nat
  events : List BrowserEvent

namespace Browser

def ofOptions (o : FetcherOptions) : Browser :=
  { agent := o.agent, milliseconds := o.timeout.milliseconds }

/-- Renders a page in the browser at hand. -/
def fetch (b : Browser) (pages : List (String × Rendering)) (url : String) : BrowserOutcome :=
  match b.held with
  | none => ⟨b, .error .notEntered, none, []⟩
  | some n =>
    let result : Except BrowserFault (Option String) := match pages.find? (·.1 = url) with
      | none => .error (.unknown url)
      | some (_, r) =>
        if r.succeeds then .ok r.markup
        else .error (.notRendered url (match r.reason with
          | some "" | none => "Failed to render page"
          | some reason => reason))
    ⟨b, result, some n, [.rendered url b.milliseconds]⟩

/-- Starts a browser, which is at hand from then on. -/
def enter (b : Browser) : BrowserOutcome :=
  ⟨{ b with made := b.made + 1, held := some b.made }, .ok none, some b.made,
    [.made b.agent, .started]⟩

/-- Closes the browser at hand. -/
def leave (b : Browser) : BrowserOutcome :=
  match b.held with
  | none => ⟨b, .ok none, none, []⟩
  | some n => ⟨{ b with held := none }, .ok none, some n, [.closed]⟩

def step (b : Browser) (pages : List (String × Rendering)) : BrowserStep → BrowserOutcome
  | .enter => b.enter
  | .leave => b.leave
  | .fetch url => b.fetch pages url

/-- Takes steps one after the other. -/
def run (b : Browser) (pages : List (String × Rendering)) : List BrowserStep → List BrowserOutcome
  | [] => []
  | s :: rest =>
    let outcome := b.step pages s
    outcome :: outcome.browser.run pages rest

end Browser

end Gleaner.Web
