import Gleaner.Proofs.Store.Flush
import Gleaner.Scrape.Result

/-! Every result of a scrape has a line: its numbers that are not finite are left out, and there is
nothing else in it that has no text. -/

namespace Gleaner.Store

mutual

theorem fault?_toValue (v : Datum) : Json.fault? (named v.toValue) = none := by
  cases v with
  | text s => rfl
  | truth b => rfl
  | number x =>
    rw [Datum.toValue]
    split
    next hfinite => simp [named, Json.fault?, Json.floatFault?, hfinite]
    next => rfl
  | record fields =>
    rw [Datum.toValue, named, Json.fault?]
    exact entriesFault?_fieldsToEntries fields
  | items vs =>
    rw [Datum.toValue, named, Json.fault?]
    exact itemsFault?_itemsToValues vs

theorem entriesFault?_fieldsToEntries (fields : List (String × Datum)) :
    Json.entriesFault? (namedEntries (fieldsToEntries fields)) = none := by
  cases fields with
  | nil => rfl
  | cons field rest =>
    obtain ⟨name, v⟩ := field
    rw [fieldsToEntries, namedEntries, Json.entriesFault?, fault?_toValue v,
      entriesFault?_fieldsToEntries rest]
    rfl

theorem itemsFault?_itemsToValues (vs : List Datum) :
    Json.itemsFault? (namedItems (itemsToValues vs)) = none := by
  cases vs with
  | nil => rfl
  | cons v rest =>
    rw [itemsToValues, namedItems, Json.itemsFault?, fault?_toValue v,
      itemsFault?_itemsToValues rest]
    rfl

end

theorem itemsFault?_warnings (warnings : List Warning) :
    Json.itemsFault? (namedItems (warnings.map Warning.record)) = none := by
  induction warnings with
  | nil => rfl
  | cons w rest ih =>
    rw [List.map_cons, namedItems, Json.itemsFault?, ih]
    rfl

/-- The record of a result has a line, whatever was found. -/
theorem hasLine_recordWith (r : Result) (schema : String) :
    Files.HasLine (r.recordWith schema) := by
  have hdata := entriesFault?_fieldsToEntries r.data
  have hwarnings := itemsFault?_warnings r.warnings
  have hfault : Json.fault? (named (r.recordWith schema)) = none := by
    unfold Result.recordWith Result.entries
    cases r.url <;>
      simp [named, namedEntries, Json.fault?, Json.entriesFault?, Json.keyFault?, hdata, hwarnings]
  refine ⟨String.ofList (Json.text .line 0 (named (r.recordWith schema))), ?_⟩
  rw [recordText, Json.encode, hfault]

end Gleaner.Store
