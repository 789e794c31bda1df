/-!
What a scrape yields: texts, numbers and truth values in records and lists.
-/

namespace Gleaner

inductive Datum where
  | text (s : String)
  | number (x : Float)
  | truth (b : Bool)
  | record (fields : List (String × Datum))
  | items (list : List Datum)
  deriving Inhabited

end Gleaner
