import Gleaner.Datum
import Gleaner.Decimal.Text
import Gleaner.Text.Lower

/-!
The declared types of fields, and how an extracted text is read as each of them. Reading never
fails: a text without a number is the NaN.
-/

namespace Gleaner.Field

inductive FieldType where
  | number
  | boolean
  | string
  deriving DecidableEq, Inhabited

namespace FieldType

def name : FieldType → String
  | number => "number"
  | boolean => "boolean"
  | string => "string"

def all : List FieldType := [number, boolean, string]

def ofName? (s : String) : Option FieldType := all.find? (·.name = s)

end FieldType

/-- Characters that a number may consist of. -/
def isNumeric (c : Char) : Bool := c.isDigit || c = '.' || c = '-'

/-- The number at the start of a text: a minus sign or none, then digits with at most one point
among or beside them. -/
def leadingNumber? (cs : List Char) : Option Decimal.Literal :=
  let (negative, cs) := match cs with
    | '-' :: r => (true, r)
    | r => (false, r)
  let whole := cs.takeWhile Char.isDigit
  let fraction := match cs.dropWhile Char.isDigit with
    | '.' :: r => r.takeWhile Char.isDigit
    | _ => []
  if whole.isEmpty && fraction.isEmpty then none else some ⟨negative, whole, fraction, 0⟩

/-- Drops what no number consists of, then reads as far as there is a number. -/
def readNumber (raw : String) : Float :=
  match leadingNumber? (raw.toList.filter isNumeric) with
  | some l => l.toFloat
  | none => Decimal.notANumber

/-- The word true in letters of either case, or a one. -/
def readTruth (raw : String) : Bool := Text.lower raw = "true" || raw = "1"

/-- Reads a text as a value of the declared type. -/
def FieldType.read : FieldType → String → Datum
  | number, raw => .number (readNumber raw)
  | boolean, raw => .truth (readTruth raw)
  | string, raw => .text raw

end Gleaner.Field
