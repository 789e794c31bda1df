import Gleaner.Config.Basic
import Gleaner.Log
import Gleaner.Sitemap
import Gleaner.Url.Normal
import Gleaner.Web.Basic
import Gleaner.Xml.Source

/-!
The items of a batch: sitemaps are replaced by the pages that they list, and of items that mean the
same page only the first one stays.
-/

namespace Gleaner

namespace Sitemap

/-- What is neither an answer nor a fault that is only noted. -/
inductive Failure where
  | fault (f : Web.Fault)
  | encoding (f : Xml.Failure)

def Failure.message : Failure → String
  | fault f => f.message
  | encoding f => f.message

/-- What a visit yields, with the requests and the notes on the way. -/
structure Visit (β : Type) where
  result : Except Failure β
  requests : List Web.Request
  log : Log

/-- The addresses that the sitemap at an address lists: none, if there is no sitemap. -/
def fetch (w : Web) (url : String) (timeout : Web.Seconds) : Visit (List String) :=
  let start : Note := .info "config" s!"Fetching sitemap: {url}"
  let none (message : String) : Visit (List String) :=
    ⟨.ok [], [⟨url, .none, timeout⟩],
      [start, .error "config" s!"Error fetching sitemap {url}: {message}"]⟩
  match w.ask url with
  | .error f =>
    if f.isTransport then none f.message
    else ⟨.error (.fault f), [⟨url, .none, timeout⟩], [start]⟩
  | .ok a => match Xml.parse a.content with
    | .error (.malformed f text) => none (f.message text)
    | .error f => ⟨.error (.encoding f), [⟨url, .none, timeout⟩], [start]⟩
    | .ok document =>
      let found := addresses document
      ⟨.ok found, [⟨url, .none, timeout⟩],
        [start, .info "config" s!"Found {found.length} URLs in sitemap: {url}"]⟩

end Sitemap

namespace Item

/-- Replaces each sitemap by the pages that it lists, up to the first failure. -/
def expand (w : Web) (timeout : Web.Seconds) : List Item → Sitemap.Visit (List Item)
  | [] => ⟨.ok [], [], []⟩
  | i :: rest =>
    if i.isSitemap then
      let visit := Sitemap.fetch w i.url timeout
      match visit.result with
      | .error f => ⟨.error f, visit.requests, visit.log⟩
      | .ok urls =>
        let others := expand w timeout rest
        let listed := urls.map fun url => { url, schema := i.schema : Item }
        ⟨others.result.map (listed ++ ·), visit.requests ++ others.requests,
          visit.log ++ others.log⟩
    else
      let others := expand w timeout rest
      { others with result := others.result.map (i :: ·) }

/-- What tells items apart: the normal form of the address, and the schema. -/
@[irreducible] def key (i : Item) : Except Url.Fault (String × String) :=
  (Url.normalize i.url true).map fun url => (url, i.schema)

/-- Keeps the first item of each key that is not among those seen. -/
def firstsFrom (seen : List (String × String)) : List Item → Except Url.Fault (List Item)
  | [] => .ok []
  | i :: rest => match i.key with
    | .error f => .error f
    | .ok k =>
      if seen.contains k then firstsFrom seen rest
      else (firstsFrom (k :: seen) rest).map (i :: ·)

/-- Keeps the first item of each key. -/
def firsts (items : List Item) : Except Url.Fault (List Item) := firstsFrom [] items

end Item

end Gleaner
