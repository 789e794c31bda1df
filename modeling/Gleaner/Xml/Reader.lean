import Gleaner.Text.Utf8
import Gleaner.Xml.Doctype
import Gleaner.Xml.Node
import Gleaner.Xml.Scope

/-!
Documents read from text.
-/

namespace Gleaner.Xml

/-- An element that is not closed yet: its name as written, its names, the bindings inside it, and
what it holds so far, the last first. -/
structure Frame where
  written : List Char
  space : String
  name : String
  scope : Scope
  content : List Node

/-- What an entity stands for, in a scope. -/
abbrev Expansion := Scope → List Char → Except Reason (List Node)

variable [Alphabet]

/-- Opens the element of a tag. -/
def openFrame (d : Doctype) (scope : Scope) (t : Tag) (left : Nat) : Except Fault Frame := do
  let given ← Reading.given d t.name left ⟨[], scope, []⟩ t.attributes
  let all ← atPlace left (given.defaults (d.rules.filter (·.element = t.name)))
  match all.scope.attributeFault? [] all.names with
  | some r => .error ⟨r, left⟩
  | none =>
    let (space, name) ← atPlace left (all.scope.element t.name)
    .ok ⟨t.name, space, name, all.scope, []⟩

def Frame.close (f : Frame) : Node := .element f.space f.name f.content.reverse

/-- Elements that are open, the innermost first, and what is complete at the outermost level, the
last first. -/
structure Progress where
  frames : List Frame
  done : List Node

def Progress.add (p : Progress) (nodes : List Node) : Progress :=
  match p.frames with
  | [] => { p with done := nodes.reverse ++ p.done }
  | f :: fs => { p with frames := { f with content := nodes.reverse ++ f.content } :: fs }

def Progress.scope (p : Progress) (outer : Scope) : Scope :=
  match p.frames with
  | [] => outer
  | f :: _ => f.scope

def Progress.push (p : Progress) (f : Frame) (isEmpty : Bool) : Progress :=
  if isEmpty then p.add [f.close] else { p with frames := f :: p.frames }

/-- Where content may end: with the outermost element, or with the text. -/
inductive Extent where
  | element
  | text
  deriving DecidableEq

def isPlain (c : Char) : Bool := c ≠ '<' && c ≠ '&' && c ≠ ']' && isAllowed c

/-- An end tag after its slash. -/
def closeTag (start cs : List Char) (p : Progress) : Scan Progress :=
  match scanName start cs with
  | .error f => .error f
  | .ok _ =>
    let isNamed := fun c => isNameChar c || c = ':'
    match skipSpace (cs.dropWhile isNamed) with
    | '>' :: rest => match p.frames with
      | [] => stop .asynchronous start
      | f :: fs =>
        if f.written = cs.takeWhile isNamed then
          .ok (Progress.add { p with frames := fs } [f.close], rest)
        else stop .mismatchedTag cs
    | rest => misfit start rest

/-- Reads a keyword letter by letter. -/
def expectLetters (start : List Char) : List Char → List Char → Except Fault (List Char)
  | [], cs => .ok cs
  | w :: ws, c :: cs => if c = w then expectLetters start ws cs else stop .badToken (c :: cs)
  | _ :: _, [] => misfit start []

/-- What follows a bracket and an exclamation mark in content. -/
def declaration (start cs : List Char) (p : Progress) : Scan Progress :=
  match cs with
  | '-' :: '-' :: rest => (skipComment start rest).map fun rest => (p, rest)
  | '-' :: rest => misfit start rest
  | '[' :: rest =>
    if rest.length < 6 then misfit start []
    else match expectLetters start "CDATA[".toList rest with
      | .error f => .error f
      | .ok rest => (scanSection rest).map fun (text, rest) =>
        (p.add [.text (String.ofList (Text.unifyLines text))], rest)
  | rest => misfit start rest

/-- A part of content. -/
def readPart (d : Doctype) (expand : Expansion) (outer : Scope) (p : Progress) (cs : List Char) :
    Scan Progress :=
  match cs with
  | '<' :: '/' :: rest => closeTag cs rest p
  | '<' :: '!' :: rest => declaration cs rest p
  | '<' :: '?' :: rest => (skipInstruction cs rest).map fun rest => (p, rest)
  | '<' :: rest => match scanTag cs rest with
    | .error f => .error f
    | .ok (t, more) => (openFrame d (p.scope outer) t cs.length).map fun f =>
      (p.push f t.isEmpty, more)
  | '&' :: rest => match scanReference cs rest with
    | .error f => .error f
    | .ok (.number none, _) => stop .badReference cs
    | .ok (.number (some c), more) => .ok (p.add [.text (String.singleton c)], more)
    | .ok (.entity name, more) => match predefined? name with
      | some c => .ok (p.add [.text (String.singleton c)], more)
      | none => (atPlace cs.length (expand (p.scope outer) name)).map fun nodes =>
        (p.add nodes, more)
  | ']' :: ']' :: '>' :: rest => stop .badToken ('>' :: rest)
  | c :: rest =>
    if !isAllowed c then misfit cs cs
    else
      let run := c :: rest.takeWhile isPlain
      .ok (p.add [.text (String.ofList (Text.unifyLines run))], rest.dropWhile isPlain)
  | [] => .ok (p, [])

/-- Reads content; fuel bounds the number of its parts. -/
def readContent (d : Doctype) (expand : Expansion) (outer : Scope) (extent : Extent) :
    Nat → Progress → List Char → Scan (List Node)
  | 0, p, cs => .ok (p.done.reverse, cs)
  | fuel + 1, p, cs =>
    if extent = .element && p.frames.isEmpty && !p.done.isEmpty then .ok (p.done.reverse, cs)
    else if cs.isEmpty then
      if p.frames.isEmpty then .ok (p.done.reverse, [])
      else stop (if extent = .element then .noElement else .asynchronous) []
    else match readPart d expand outer p cs with
      | .error f => .error f
      | .ok (p, rest) => readContent d expand outer extent fuel p rest

/-- What the entities of a document stand for, inside entities that are open; depth bounds their
number. -/
def expandWith (d : Doctype) : Nat → List (List Char) → Expansion
  | 0, _ => fun _ _ => .error .recursiveEntity
  | depth + 1, opened => fun scope name =>
    match d.entity? name with
    | none => .error (if d.isWhole then .undefinedEntity else .missingEntity (String.ofList name))
    | some .binary => .error .binaryEntity
    | some .external => .error (.missingEntity (String.ofList name))
    | some (.text text) =>
      if opened.contains name then .error .recursiveEntity
      else
        let _ : Alphabet := .stored
        match readContent d (expandWith d depth (name :: opened)) scope .text (text.length + 1)
            ⟨[], []⟩ text with
        | .ok (nodes, _) => .ok nodes
        | .error f => .error f.reason

/-- Skips what may follow the outermost element; fuel bounds the number of its parts. -/
def skipRest : Nat → List Char → Except Fault Unit
  | 0, _ => .ok ()
  | fuel + 1, cs =>
    match next cs with
    | .error f => .error f
    | .ok l => match l.token with
      | .theEnd => .ok ()
      | .comment | .instruction => skipRest fuel l.rest
      | _ => stop .junkAfter l.start

/-- Reads a document after its declaration. -/
def readDocument (standsAlone : Bool) (cs : List Char) : Except Fault Node :=
  match scanProlog false (cs.length + 1) { standsAlone } cs with
  | .error f => .error f
  | .ok (d, rest) =>
    let expand := expandWith d (d.entities.length + 1) []
    match readContent d expand Scope.start .element (rest.length + 1) ⟨[], []⟩ rest with
    | .error f => .error f
    | .ok (nodes, rest) => match skipRest (rest.length + 1) rest with
      | .error f => .error f
      | .ok () => match nodes with
        | n :: _ => .ok n
        | [] => stop .noElement rest

end Gleaner.Xml
