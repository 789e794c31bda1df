/-!
Values as they come from configuration files or from the caller: the shapes of JSON, mappings in
insertion order, and leaves of a further type for what a caller may put in place.
-/

namespace Gleaner

/-- Keys of a mapping. JSON text gives strings only. -/
inductive Key where
  | null
  | bool (b : Bool)
  | int (n : Int)
  | float (x : Float)
  | str (s : String)
  deriving Inhabited

inductive Value (α : Type) where
  | null
  | bool (b : Bool)
  | int (n : Int)
  | float (x : Float)
  | str (s : String)
  | list (items : List (Value α))
  | map (entries : List (Key × Value α))
  | leaf (a : α)
  deriving Inhabited

namespace Key

/-- The whole number that a finite float without fraction stands for. -/
def wholeOf? (x : Float) : Option Int :=
  if x.isFinite && x.floor == x then
    let bits := x.toBits.toNat
    let frac := bits % Nat.pow 2 52
    let e := bits / Nat.pow 2 52 % 2048
    let m := if e = 0 then frac else frac + Nat.pow 2 52
    let shift := max e 1
    let n : Nat :=
      if 1075 ≤ shift then m * Nat.pow 2 (shift - 1075) else m / Nat.pow 2 (1075 - shift)
    some (if x < 0 then -(n : Int) else n)
  else none

/-- The number that a key stands for: truth values count as one and zero. -/
def whole? : Key → Option Int
  | bool b => some (if b then 1 else 0)
  | int n => some n
  | float x => wholeOf? x
  | _ => none

/-- Keys that name the same entry: equal numbers do, whatever their type. -/
def same : Key → Key → Bool
  | null, null => true
  | str s, str t => s = t
  | float x, float y => x == y
  | k, l => match k.whole?, l.whole? with
    | some m, some n => m = n
    | _, _ => false

end Key

/-- Sets the entry of a key: a new key goes last, a known one keeps its place and its spelling. -/
def putEntry {β : Type} (entries : List (Key × β)) (k : Key) (v : β) : List (Key × β) :=
  match entries with
  | [] => [(k, v)]
  | (l, w) :: rest => if l.same k then (l, v) :: rest else (l, w) :: putEntry rest k v

/-- The mapping that a list of pairs stands for. -/
def entriesOf {β : Type} (pairs : List (Key × β)) : List (Key × β) :=
  pairs.foldl (fun acc p => putEntry acc p.1 p.2) []

namespace Value

variable {α : Type}

/-- The value under a name, if the entries have it. -/
def lookup? (entries : List (Key × Value α)) (name : String) : Option (Value α) :=
  (entries.find? fun e => e.1.same (.str name)).map (·.2)

/-- The value under a name, where null counts as absent. -/
def given? (entries : List (Key × Value α)) (name : String) : Option (Value α) :=
  match lookup? entries name with
  | some .null => none
  | found => found

def erase (entries : List (Key × Value α)) (name : String) : List (Key × Value α) :=
  entries.filter fun e => !e.1.same (.str name)

end Value

end Gleaner
