import Gleaner.Log
import Gleaner.Url.Basic

/-!
The domain that an address belongs to. An address that cannot be read belongs to none.
-/

namespace Gleaner.Url

/-- The domain of an address, with a note if it cannot be read. -/
def domainOf (s : String) : String × Log :=
  match parse s with
  | .ok u => (u.domain, [])
  | .error f =>
    ("", [.warning "utils" s!"Failed to extract domain from URL {s}: {f.message}"])

end Gleaner.Url
