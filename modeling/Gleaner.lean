import Gleaner.Main
import Gleaner.Shape.Target
import Gleaner.Proofs.Schema.Grammar
import Gleaner.Proofs.Walk.Account
import Gleaner.Proofs.Walk.Standalone
import Gleaner.Proofs.Walk.Isolation
import Gleaner.Proofs.Walk.Location
import Gleaner.Proofs.Store.Ledger
import Gleaner.Proofs.Store.Confinement
import Gleaner.Proofs.Store.Overwrite
import Gleaner.Proofs.Url.Form
import Gleaner.Proofs.Url.Render
import Gleaner.Proofs.Config.Duplicates
import Gleaner.Proofs.Config.Tagged
import Gleaner.Proofs.Batch.Filing
import Gleaner.Proofs.Markup.Rescope
import Gleaner.Proofs.Batch.Tally
import Gleaner.Proofs.Batch.Rounds
import Gleaner.Proofs.Config.Loading
import Gleaner.Proofs.Config.Reckoned
import Gleaner.Proofs.Store.Finalize
import Gleaner.Proofs.Schema.Fields
import Gleaner.Proofs.Schema.Blame
import Gleaner.Proofs.Config.Inline
import Gleaner.Proofs.Store.Lossless
import Gleaner.Proofs.Field.Number
import Gleaner.Proofs.Web.Browser
import Gleaner.Proofs.Batch.Turns
import Gleaner.Proofs.Config.Stable
import Gleaner.Proofs.Store.Naming
import Gleaner.Proofs.Walk.Unambiguous
import Gleaner.Proofs.Config.Listed
import Gleaner.Proofs.Schema.Nulls
