import Gleaner.Text.Digit

/-!
The grammar of command lines: switches, which may be cut short as long as they can be told apart,
and places, which take the other words in order.
-/

namespace Gleaner.Command

/-- What a switch is for. -/
inductive Use where
  | help
  | flag
  /-- The switch takes a value, if it is one of those that it accepts. -/
  | value (accepts : String → Bool)

/-- A switch with its spellings. -/
structure Switch where
  spellings : List String
  use : Use

/-- The spelling by which a switch is known. -/
def Switch.name (s : Switch) : String := s.spellings.getLastD ""

/-- A grammar. Of the switches of a choice exactly one is given, though maybe more than once. -/
structure Grammar where
  switches : List Switch
  places : List String
  choice : List String := []

/-- What is attached to a switch in one word: after a sign of equality, or with nothing between. -/
structure Attached where
  isSigned : Bool
  text : List Char

/-- A switch as it is written. -/
structure Written where
  switch : Switch
  spelling : List Char
  attached : Option Attached

inductive Word where
  | plain
  /-- Two dashes, after which there are no more switches. -/
  | dashes
  | switch (w : Written)
  /-- A switch that is not known. -/
  | unknown

/-- Why a command line is not read to its end. -/
inductive Halt where
  | help
  | misuse
  deriving DecidableEq

/-- A number with a minus sign, which is no switch. -/
def isNegative : List Char → Bool
  | '-' :: cs =>
    let cs := if cs.getLast? = some '\n' then cs.dropLast else cs
    let whole := cs.takeWhile Text.isDecimal
    match cs.dropWhile Text.isDecimal with
    | [] => !whole.isEmpty
    | '.' :: fraction => !fraction.isEmpty && fraction.all Text.isDecimal
    | _ => false
  | _ => false

/-- The text before a sign of equality, and what the sign attaches. -/
def splitSign (cs : List Char) : List Char × Option Attached :=
  match cs.dropWhile (· ≠ '=') with
  | [] => (cs, none)
  | _ :: rest => (cs.takeWhile (· ≠ '='), some ⟨true, rest⟩)

namespace Grammar

/-- All spellings, with their switches. -/
def spelled (g : Grammar) : List (List Char × Switch) :=
  g.switches.flatMap fun s => s.spellings.map fun t => (t.toList, s)

def find? (g : Grammar) (spelling : List Char) : Option Switch :=
  (g.spelled.find? (·.1 = spelling)).map (·.2)

/-- The switches that a word may be short for. A word with one dash starts with a spelling of two
characters, and the rest is attached. -/
def candidates (g : Grammar) (cs : List Char) : List Written :=
  match cs with
  | '-' :: '-' :: _ =>
    let (start, attached) := splitSign cs
    (g.spelled.filter fun e => start.isPrefixOf e.1).map fun e => ⟨e.2, e.1, attached⟩
  | _ =>
    (g.spelled.filter fun e => e.1 = cs.take 2).map fun e =>
      ⟨e.2, e.1, some ⟨false, cs.drop 2⟩⟩

/-- A word that starts with a dash and is no spelling as it stands. -/
def classifyDashed (g : Grammar) (cs : List Char) : Except Halt Word :=
  match splitSign cs with
  | (start, some attached) => match g.find? start with
    | some s => .ok (.switch ⟨s, start, some attached⟩)
    | none => guess
  | _ => guess
where
  guess : Except Halt Word :=
    match g.candidates cs with
    | [w] => .ok (.switch w)
    | [] => .ok (if isNegative cs || cs.contains ' ' then .plain else .unknown)
    | _ => .error .misuse

def classify (g : Grammar) (word : String) : Except Halt Word :=
  match word.toList with
  | '-' :: c :: cs => match g.find? ('-' :: c :: cs) with
    | some s => .ok (.switch ⟨s, '-' :: c :: cs, none⟩)
    | none => g.classifyDashed ('-' :: c :: cs)
  | _ => .ok .plain

/-- The words of a command line, up to the first that may be short for several switches. -/
def words (g : Grammar) : List String → Except Halt (List (String × Word))
  | [] => .ok []
  | "--" :: rest => .ok (("--", .dashes) :: rest.map fun s => (s, .plain))
  | s :: rest => match g.classify s with
    | .error h => .error h
    | .ok w => (g.words rest).map ((s, w) :: ·)

end Grammar

/-- What a word with a switch comes to: switches with their values, one that wants the next word as
its value, and what is left over. -/
structure Bundle where
  given : List (Switch × String) := []
  wants : Option Switch := none
  surplus : Option String := none

namespace Grammar

/-- Follows single letters that are attached to a switch of one letter. -/
def unbundle (g : Grammar) (before : List (Switch × String)) (s : Switch) :
    List Char → Except Halt Bundle
  | [] => match s.use with
    | .value _ => .ok { given := before, wants := some s }
    | _ => .ok { given := before ++ [(s, "")] }
  | c :: cs => match s.use with
    | .value _ => .ok { given := before ++ [(s, String.ofList (c :: cs))] }
    | _ =>
      if c = '-' then .error .misuse
      else match g.find? ['-', c] with
        | none =>
          .ok { given := before ++ [(s, "")], surplus := some (String.ofList ('-' :: c :: cs)) }
        | some t => match cs with
          | '=' :: text => attach (before ++ [(s, "")]) t text
          | _ => g.unbundle (before ++ [(s, "")]) t cs
where
  /-- Gives a switch the value after a sign of equality. -/
  attach (before : List (Switch × String)) (s : Switch) (text : List Char) : Except Halt Bundle :=
    match s.use with
    | .value _ => .ok { given := before ++ [(s, String.ofList text)] }
    | _ => .error .misuse

/-- What a word with a switch comes to. -/
def bundle (g : Grammar) (w : Written) : Except Halt Bundle :=
  match w.attached with
  | none => g.unbundle [] w.switch []
  | some ⟨true, text⟩ => unbundle.attach [] w.switch text
  | some ⟨false, text⟩ => g.unbundle [] w.switch text

end Grammar

end Gleaner.Command
