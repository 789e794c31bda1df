import Gleaner.Datum
import Gleaner.Document
import Gleaner.Schema.Raw

/-!
The result of a scrape: the values that were found, and a warning for every field that was left
out.
-/

namespace Gleaner

/-- Why a field has no value. -/
inductive Mishap where
  | selector (r : Selector.Refusal)
  | pattern (r : Pattern.Refusal)
  | page (f : Document.Failure)

namespace Mishap

/-- The kind of a mishap, as results name it. -/
def kind : Mishap → String
  | selector (.written ..) => "SelectorSyntaxError"
  | selector .noCharacter => "ValueError"
  | selector _ => "NotImplementedError"
  | pattern (.malformed ..) => "error"
  | pattern .countTooLarge => "OverflowError"
  | pattern .asciiAndUnicode => "ValueError"
  | page (.unknownParser _) => "FeatureNotFound"
  | page (.rejected _) => "ParserRejectedMarkup"

def message : Mishap → String
  | selector r => r.message
  | pattern r => r.message
  | page f => f.message

end Mishap

structure Warning where
  route : String
  mishap : Mishap

structure Result where
  data : List (String × Datum)
  warnings : List Warning
  url : Option String

namespace Result

/-- Whether every field has its value. -/
def isWhole (r : Result) : Bool := r.warnings.isEmpty

end Result

mutual

/-- A value as it goes into a record: a number that is not finite has no text there. -/
def Datum.toValue : Datum → Raw
  | .text s => .str s
  | .number x => if x.isFinite then .float x else .null
  | .truth b => .bool b
  | .record fields => .map (fieldsToEntries fields)
  | .items ds => .list (itemsToValues ds)

def fieldsToEntries : List (String × Datum) → List (Key × Raw)
  | [] => []
  | (name, d) :: rest => (.str name, d.toValue) :: fieldsToEntries rest

def itemsToValues : List Datum → List Raw
  | [] => []
  | d :: rest => d.toValue :: itemsToValues rest

end

mutual

/-- A value as it is, whether or not it has a text. -/
def Datum.toRaw : Datum → Raw
  | .text s => .str s
  | .number x => .float x
  | .truth b => .bool b
  | .record fields => .map (fieldsToRaw fields)
  | .items ds => .list (itemsToRaw ds)

def fieldsToRaw : List (String × Datum) → List (Key × Raw)
  | [] => []
  | (name, d) :: rest => (.str name, d.toRaw) :: fieldsToRaw rest

def itemsToRaw : List Datum → List Raw
  | [] => []
  | d :: rest => d.toRaw :: itemsToRaw rest

end

def Warning.record (w : Warning) : Raw :=
  .map [(.str "path", .str w.route), (.str "message", .str w.mishap.message),
    (.str "errorType", .str w.mishap.kind)]

/-- The entries of the record of a result. -/
def Result.entries (r : Result) : List (Key × Raw) :=
  [(.str "url", match r.url with
      | some u => .str u
      | none => .null),
    (.str "data", .map (fieldsToEntries r.data)),
    (.str "warnings", .list (r.warnings.map Warning.record))]

/-- The record of a result, as it is printed. -/
def Result.record (r : Result) : Raw := .map r.entries

/-- The record of a result, as it is kept, with the name of its schema. -/
def Result.recordWith (r : Result) (schema : String) : Raw :=
  .map (r.entries ++ [(.str "schema", .str schema)])

end Gleaner
