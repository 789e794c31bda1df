import Gleaner.Command.Grammar

/-!
Command lines read by a grammar: the values of the switches and of the places, or why there are
none. Help is given where it is asked for, unless a word before it cannot be read.
-/

namespace Gleaner.Command

/-- What has been read. A place that is given nothing but dashes is there without a value. -/
structure Reading where
  switches : List (String × String) := []
  places : List (String × Option String) := []
  surplus : List String := []
  /-- The last word was taken by a place. -/
  isPlaced : Bool := false
  /-- Dashes stand before the word that comes next. -/
  isDashed : Bool := false

namespace Reading

/-- The value of a switch, which is the last one given. -/
def value? (r : Reading) (name : String) : Option String :=
  (r.switches.reverse.find? (·.1 = name)).map (·.2)

def has (r : Reading) (name : String) : Bool := (r.value? name).isSome

/-- The value of a place. -/
def place? (r : Reading) (name : String) : Option String :=
  (r.places.find? (·.1 = name)).bind (·.2)

/-- Takes in a switch with its value. -/
def switch (g : Grammar) (r : Reading) (s : Switch) (value : String) : Except Halt Reading :=
  let taken : Reading := { r with switches := r.switches ++ [(s.name, value)], isPlaced := false }
  match s.use with
  | .help => .error .help
  | .flag => .ok taken
  | .value accepts =>
    if !accepts value then .error .misuse
    else if g.choice.contains s.name && g.choice.any fun n => n ≠ s.name && r.has n then
      .error .misuse
    else .ok taken

def switchAll (g : Grammar) (r : Reading) : List (Switch × String) → Except Halt Reading
  | [] => .ok r
  | (s, value) :: rest => match r.switch g s value with
    | .error h => .error h
    | .ok r => switchAll g r rest

def leave (r : Reading) (words : List String) : Reading :=
  { r with surplus := r.surplus ++ words, isPlaced := false }

/-- The place that is next. -/
def nextPlace? (g : Grammar) (r : Reading) : Option String := g.places[r.places.length]?

/-- Takes in a word that is no switch. -/
def plain (g : Grammar) (r : Reading) (word : String) : Reading :=
  match r.nextPlace? g with
  | none => r.leave [word]
  | some place =>
    let value := if word = "--" && !r.isDashed then none else some word
    { r with places := r.places ++ [(place, value)], isPlaced := true, isDashed := false }

/-- Takes in dashes, which go with the place before them or else with the next. -/
def dashes (g : Grammar) (r : Reading) : Reading :=
  if r.isPlaced then { r with isPlaced := false }
  else match r.nextPlace? g with
    | none => r.leave ["--"]
    | some _ => { r with isDashed := true }

/-- Takes in words from the left. -/
def read (g : Grammar) (r : Reading) : List (String × Word) → Except Halt Reading
  | [] => .ok r
  | (s, .plain) :: rest => read g (r.plain g s) rest
  | (_, .dashes) :: rest => read g (r.dashes g) rest
  | (s, .unknown) :: rest => read g (r.leave [s]) rest
  | (_, .switch w) :: rest => match g.bundle w with
    | .error h => .error h
    | .ok b => match b.wants, rest with
      | none, rest => match r.switchAll g b.given with
        | .error h => .error h
        | .ok r => read g (r.leave b.surplus.toList) rest
      | some s, (value, .plain) :: rest => match r.switchAll g (b.given ++ [(s, value)]) with
        | .error h => .error h
        | .ok r => read g r rest
      | some _, _ => .error .misuse

/-- Whether all is there that has to be. -/
def isComplete (g : Grammar) (r : Reading) : Bool :=
  r.places.length = g.places.length && (g.choice.isEmpty || g.choice.any r.has)

end Reading

/-- Reads a command line, which may leave words over. -/
def Grammar.read (g : Grammar) (line : List String) : Except Halt Reading :=
  match g.words line with
  | .error h => .error h
  | .ok words => match Reading.read g {} words with
    | .error h => .error h
    | .ok r => if r.isComplete g then .ok r else .error .misuse

/-- What a command line with several commands comes to. -/
inductive Chosen where
  /-- No command is given. -/
  | nothing
  | command (name : String) (r : Reading)

/-- Reads the words before a command, and then the command by its own grammar. -/
def chooseFrom (outer : Grammar) (commands : List (String × Grammar)) (r : Reading) :
    List (String × Word) → Except Halt Chosen
  | [] => if r.surplus.isEmpty then .ok .nothing else .error .misuse
  | (_, .dashes) :: _ => .error .misuse
  | (s, .unknown) :: rest => chooseFrom outer commands (r.leave [s]) rest
  | (_, .switch w) :: rest => match outer.bundle w with
    | .error h => .error h
    | .ok b => match r.switchAll outer b.given with
      | .error h => .error h
      | .ok r => chooseFrom outer commands (r.leave b.surplus.toList) rest
  | (name, .plain) :: rest => match commands.find? (·.1 = name) with
    | none => .error .misuse
    | some (_, g) => match g.read (rest.map (·.1)) with
      | .error h => .error h
      | .ok given =>
        if r.surplus.isEmpty && given.surplus.isEmpty then .ok (.command name given)
        else .error .misuse

/-- Reads a command line that starts with a command. -/
def choose (outer : Grammar) (commands : List (String × Grammar)) (line : List String) :
    Except Halt Chosen :=
  match outer.words line with
  | .error h => .error h
  | .ok words => chooseFrom outer commands {} words

end Gleaner.Command
