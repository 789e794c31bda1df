import Gleaner.Value
import Gleaner.Decimal.Text
import Gleaner.Text.Quoted

/-!
Values as JSON text, on one line or indented. A value that JSON has no text for is found before
anything is written.
-/

namespace Gleaner.Json

variable {α : Type}

/-- Either one line, or each item on a line of its own, indented by so many columns a level. -/
inductive Layout where
  | line
  | indented (columns : Nat)

def escape (c : Char) : List Char :=
  if c = '"' then ['\\', '"']
  else if c = '\\' then ['\\', '\\']
  else if c = '\n' then ['\\', 'n']
  else if c = '\r' then ['\\', 'r']
  else if c = '\t' then ['\\', 't']
  else if c = '\x08' then ['\\', 'b']
  else if c = '\x0c' then ['\\', 'f']
  else if c.toNat < 32 then '\\' :: 'u' :: Text.hexFixed 4 c.toNat
  else [c]

def stringText (s : String) : List Char := '"' :: s.toList.flatMap escape ++ ['"']

def intText (n : Int) : List Char := (toString n).toList

/-- Keys are strings in JSON, whatever they were. -/
def keyName : Key → String
  | .null => "null"
  | .bool b => if b then "true" else "false"
  | .int n => toString n
  | .float x => Decimal.render x
  | .str s => s

/-- The break before an item at a depth. -/
def Layout.newline : Layout → Nat → List Char
  | .line, _ => []
  | .indented k, depth => '\n' :: List.replicate (k * depth) ' '

/-- What stands between two items. -/
def Layout.comma : Layout → Nat → List Char
  | .line, _ => [',', ' ']
  | .indented k, depth => ',' :: '\n' :: List.replicate (k * depth) ' '

mutual

/-- The text of a value at a depth. -/
def text (l : Layout) (depth : Nat) : Value α → List Char
  | .null => ['n', 'u', 'l', 'l']
  | .bool true => ['t', 'r', 'u', 'e']
  | .bool false => ['f', 'a', 'l', 's', 'e']
  | .int n => intText n
  | .float x => Decimal.ofFloat x
  | .str s => stringText s
  | .list [] => ['[', ']']
  | .list (v :: vs) =>
    '[' :: l.newline (depth + 1) ++ text l (depth + 1) v ++ itemsText l (depth + 1) vs ++
      l.newline depth ++ [']']
  | .map [] => ['{', '}']
  | .map ((k, v) :: es) =>
    '{' :: l.newline (depth + 1) ++ stringText (keyName k) ++ [':', ' '] ++ text l (depth + 1) v ++
      entriesText l (depth + 1) es ++ l.newline depth ++ ['}']
  | .leaf _ => []

/-- The items of a list after the first. -/
def itemsText (l : Layout) (depth : Nat) : List (Value α) → List Char
  | [] => []
  | v :: vs => l.comma depth ++ text l depth v ++ itemsText l depth vs

/-- The entries of a mapping after the first. -/
def entriesText (l : Layout) (depth : Nat) : List (Key × Value α) → List Char
  | [] => []
  | (k, v) :: es =>
    l.comma depth ++ stringText (keyName k) ++ [':', ' '] ++ text l depth v ++
      entriesText l depth es

end

/-- Why a value has no JSON text. -/
inductive Unwritable (α : Type) where
  | notFinite (x : Float)
  | leaf (a : α)

def floatFault? (x : Float) : Option (Unwritable α) :=
  if x.isFinite then none else some (.notFinite x)

def keyFault? : Key → Option (Unwritable α)
  | .float x => floatFault? x
  | _ => none

mutual

/-- The first part of a value that has no JSON text, in the order of writing. -/
def fault? : Value α → Option (Unwritable α)
  | .float x => floatFault? x
  | .leaf a => some (.leaf a)
  | .list vs => itemsFault? vs
  | .map es => entriesFault? es
  | _ => none

def itemsFault? : List (Value α) → Option (Unwritable α)
  | [] => none
  | v :: vs => (fault? v).orElse fun _ => itemsFault? vs

def entriesFault? : List (Key × Value α) → Option (Unwritable α)
  | [] => none
  | (k, v) :: es => (keyFault? k).orElse fun _ => (fault? v).orElse fun _ => entriesFault? es

end

/-- The text of a value, or the first part of it that has none. -/
def encode (l : Layout) (v : Value α) : Except (Unwritable α) String :=
  match fault? v with
  | some f => .error f
  | none => .ok (String.ofList (text l 0 v))

end Gleaner.Json
