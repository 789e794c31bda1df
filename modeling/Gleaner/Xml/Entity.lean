import Gleaner.Xml.Scan

/-!
What a document type declares for the rest of the document, and the values of attributes, in which
entities stand for their texts.
-/

namespace Gleaner.Xml

inductive EntityBody where
  | text (cs : List Char)
  /-- The text is elsewhere. -/
  | external
  /-- What is elsewhere is no text. -/
  | binary

/-- The declaration of an attribute of an element. -/
structure Rule where
  element : List Char
  name : List Char
  /-- Whether space in the value counts. -/
  isText : Bool
  /-- The value where none is given. -/
  value : Option (List Char)

structure Doctype where
  entities : List (List Char × EntityBody) := []
  rules : List Rule := []
  /-- Whether the document says that it needs nothing from elsewhere. -/
  standsAlone : Bool := false
  /-- Whether there may be declarations elsewhere, which are not read. -/
  hasOthers : Bool := false
  /-- Whether declarations still count: they do not after some that may be elsewhere. -/
  counts : Bool := true

namespace Doctype

def entity? (d : Doctype) (name : List Char) : Option EntityBody :=
  (d.entities.find? (·.1 = name)).map (·.2)

/-- Whether every entity is declared here. -/
def isWhole (d : Doctype) : Bool := !d.hasOthers || d.standsAlone

/-- The first declaration of an entity counts. -/
def addEntity (d : Doctype) (name : List Char) (b : EntityBody) : Doctype :=
  if d.counts && (predefined? name).isNone && (d.entity? name).isNone then
    { d with entities := d.entities ++ [(name, b)] }
  else d

def rule? (d : Doctype) (element name : List Char) : Option Rule :=
  d.rules.find? fun r => r.element = element && r.name = name

/-- The first declaration of an attribute counts. -/
def addRule (d : Doctype) (r : Rule) : Doctype :=
  if d.counts && (d.rule? r.element r.name).isNone then { d with rules := d.rules ++ [r] }
  else d

/-- A mention of what is declared elsewhere. -/
def withOthers (d : Doctype) : Doctype := { d with hasOthers := true }

def isText (d : Doctype) (element name : List Char) : Bool :=
  ((d.rule? element name).map (·.isText)).getD true

end Doctype

/-- Why a value is refused, and how many of its characters follow the place, if it is a place in
the value. -/
structure Slip where
  reason : Reason
  left : Option Nat

variable [Alphabet]

/-- The text of the value of an attribute, where `inside` reads the text of an entity; fuel bounds
its length. -/
def valueText (d : Doctype) (inside : List Char → List Char → Except Reason (List Char)) :
    Nat → List Char → Except Slip (List Char)
  | 0, _ => .ok []
  | _ + 1, [] => .ok []
  | fuel + 1, '&' :: cs =>
    let followedBy (text rest : List Char) := (valueText d inside fuel rest).map (text ++ ·)
    match scanReference ('&' :: cs) cs with
    | .error f => .error ⟨.badToken, some f.left⟩
    | .ok (.number none, _) => .error ⟨.badReference, some (cs.length + 1)⟩
    | .ok (.number (some c), rest) => followedBy [c] rest
    | .ok (.entity name, rest) => match predefined? name, d.entity? name with
      | some c, _ => followedBy [c] rest
      | none, none =>
        if d.isWhole then .error ⟨.undefinedEntity, none⟩ else followedBy [] rest
      | none, some .external => .error ⟨.externalInAttribute, some (cs.length + 1)⟩
      | none, some .binary => .error ⟨.binaryEntity, some (cs.length + 1)⟩
      | none, some (.text text) => match inside name text with
        | .error r => .error ⟨r, none⟩
        | .ok text => followedBy text rest
  | _ + 1, '<' :: cs => .error ⟨.badToken, some (cs.length + 1)⟩
  | fuel + 1, '\r' :: '\n' :: cs => (valueText d inside fuel cs).map (' ' :: ·)
  | fuel + 1, c :: cs => (valueText d inside fuel cs).map ((if isSpace c then ' ' else c) :: ·)

/-- The text of an entity in a value, inside entities that are open; depth bounds their number. -/
def insideValue (d : Doctype) : Nat → List (List Char) → List Char → List Char →
    Except Reason (List Char)
  | 0, _, _, _ => .error .recursiveEntity
  | depth + 1, opened, name, text =>
    if opened.contains name then .error .recursiveEntity
    else
      let _ : Alphabet := .stored
      (valueText d (insideValue d depth (name :: opened)) (text.length + 1) text).mapError
        (·.reason)

/-- Space where it does not count: none at the ends, and one character of it between words. -/
def tokenized (cs : List Char) : List Char :=
  List.intercalate [' '] (Text.wordsOf (· = ' ') cs)

/-- The value of an attribute of an element from what is written. The place of a fault is in it,
with as many characters after it as given, or where the tag or the declaration starts. -/
def Doctype.value (d : Doctype) (element name written : List Char) (leftAfter left : Nat) :
    Except Fault (List Char) :=
  match valueText d (insideValue d (d.entities.length + 1) []) (written.length + 1) written with
  | .ok text => .ok (if d.isText element name then text else tokenized text)
  | .error s => .error ⟨s.reason, (s.left.map (· + leftAfter)).getD left⟩

end Gleaner.Xml
