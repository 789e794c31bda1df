import Gleaner.Document
import Gleaner.Schema.Typed

/-!
The configuration of a batch: what to scrape with which schema, where to keep it, and how to fetch
it. Names that are not known are passed over.
-/

namespace Gleaner

open Shape

/-- How a page is scraped. -/
structure Settings where
  /-- Whether items of lists know the address of their page. -/
  propagates : Bool := false
  /-- Seconds that a fetch may take. -/
  fetchTimeout : Option Float := none
  parser : String := Document.defaultParser

def defaultAgent : String := "schema-scraper/1.0"

structure Defaults where
  /-- How many pages are fetched at a time. -/
  threads : Int := 5
  fetcher : String := "http"
  /-- Seconds that a request may take. -/
  timeout : Float := 30.0
  agent : String := defaultAgent
  settings : Settings := {}

/-- A page to scrape, or a sitemap that lists such pages. -/
structure Item where
  url : String
  schema : String
  isSitemap : Bool := false
  deriving DecidableEq, Inhabited

structure Config where
  strategy : String := "folder_per_domain"
  defaults : Defaults := {}
  schemas : List (String × Schema) := []
  items : List Item := []

/-- Reads a mapping of a shape. -/
def readShape {β : Type} (title : String) (read : Entries → Checked β) : Raw → Checked β
  | .map entries => read entries
  | _ => .refuse (.notShape title)

namespace Settings

def ofEntries (es : Entries) : Checked Settings :=
  .both (fun propagates (fetchTimeout, parser) => { propagates, fetchTimeout, parser })
    (defaulted es ["propagateLocation", "propagate_location"] false readTruth)
    (.both Prod.mk
      (defaulted es ["fetchTimeout", "fetch_timeout"] none (readOptional readNumber))
      (defaulted es ["parser"] Document.defaultParser readText))

def read : Raw → Checked Settings := readShape "ScraperSettings" ofEntries

end Settings

namespace Defaults

def ofEntries (es : Entries) : Checked Defaults :=
  .both (fun (threads, fetcher) (timeout, agent, settings) =>
      { threads, fetcher, timeout, agent, settings })
    (.both Prod.mk (defaulted es ["threads"] 5 readWhole)
      (defaulted es ["fetcher"] "http" readText))
    (.both Prod.mk (defaulted es ["timeout"] 30.0 readNumber)
      (.both Prod.mk (defaulted es ["userAgent", "user_agent"] defaultAgent readText)
        (defaulted es ["settings"] {} Settings.read)))

def read : Raw → Checked Defaults := readShape "Defaults" ofEntries

end Defaults

namespace Item

def ofEntries (es : Entries) : Checked Item :=
  .both (fun url (schema, isSitemap) => { url, schema, isSitemap })
    (required es ["url"] readText)
    (.both Prod.mk (required es ["schema", "schema_name"] readText)
      (defaulted es ["isSitemap", "is_sitemap"] false readTruth))

def read : Raw → Checked Item := readShape "Item" ofEntries

end Item

/-- Reads named schemas whose nodes are written out. -/
def readSchemas : Raw → Checked (List (String × Schema))
  | .map entries => .all (entries.map fun (k, v) => readEntry k (Schema.Typed.nested v))
  | _ => .refuse .notMap

namespace Config

def ofEntries (es : Entries) : Checked Config :=
  .both (fun (strategy, defaults) (schemas, items) => { strategy, defaults, schemas, items })
    (.both Prod.mk
      (defaulted es ["persistenceStrategy", "persistence_strategy"] "folder_per_domain" readText)
      (defaulted es ["defaults"] {} Defaults.read))
    (.both Prod.mk (defaulted es ["schemas"] [] readSchemas)
      (defaulted es ["items"] [] (readList Item.read)))

def read : Raw → Checked Config := readShape "Config" ofEntries

end Config

end Gleaner
