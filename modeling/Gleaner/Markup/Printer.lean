import Gleaner.Markup.Tree

/-!
Markup as it is written from a tree. Attributes are sorted by name, ampersands and angle brackets
are written as references, and a page that states its encoding states the one it is written in.
-/

namespace Gleaner.Markup

def escape (c : Char) : List Char :=
  if c = '&' then ['&', 'a', 'm', 'p', ';']
  else if c = '<' then ['&', 'l', 't', ';']
  else if c = '>' then ['&', 'g', 't', ';']
  else [c]

def escapeAll (cs : List Char) : List Char := cs.flatMap escape

def escapeQuote (c : Char) : List Char := if c = '"' then ['&', 'q', 'u', 'o', 't', ';'] else [c]

/-- A value in double quotes, or in single ones if it holds double quotes alone. -/
def quoteValue (cs : List Char) : List Char :=
  let body := escapeAll cs
  if body.contains '"' then
    if body.contains '\x27' then '"' :: body.flatMap escapeQuote ++ ['"']
    else '\x27' :: body ++ ['\x27']
  else '"' :: body ++ ['"']

/-- The encoding that written pages are in. -/
def writtenEncoding : List Char := ['u', 't', 'f', '-', '8']

/-- Characters before which, or the start of a line at which, an encoding may be stated. -/
def opensCharset (previous : Option Char) : Bool :=
  match previous with
  | none => true
  | some c => c = '\n' || c = ';' || Text.isBlank c

/-- Replaces the encodings that a content type states. -/
def restateCharset : Nat → Option Char → List Char → List Char
  | 0, _, cs => cs
  | _, _, [] => []
  | fuel + 1, previous, c :: cs =>
    match if opensCharset previous then Text.after? "charset=".toList (c :: cs) else none with
    | some rest =>
      "charset=".toList ++ writtenEncoding ++
        restateCharset fuel (some 'x') (rest.dropWhile (· ≠ ';'))
    | none => c :: restateCharset fuel (some c) cs

def attribute? (attributes : List Attribute) (name : String) : Option String :=
  (attributes.find? (·.1 = name)).map (·.2)

/-- Whether the attributes of a meta element state a content type. -/
def statesType (attributes : List Attribute) : Bool :=
  (attribute? attributes "http-equiv").any fun v => Text.lower v = "content-type"

/-- The value of an attribute as it is written. -/
def writtenValue (tag : String) (attributes : List Attribute) (a : Attribute) : List Char :=
  let cs := a.2.toList
  if tag ≠ "meta" then cs
  else if (attribute? attributes "charset").isSome then
    if a.1 = "charset" then writtenEncoding else cs
  else if a.1 = "content" && statesType attributes then restateCharset cs.length none cs
  else cs

def attributeText (tag : String) (attributes : List Attribute) (a : Attribute) : List Char :=
  ' ' :: a.1.toList ++ '=' :: quoteValue (writtenValue tag attributes a)

/-- Attributes in the order of their names. -/
def sorted (attributes : List Attribute) : List Attribute :=
  attributes.mergeSort fun a b => a.1 ≤ b.1

def attributesText (tag : String) (attributes : List Attribute) : List Char :=
  (sorted attributes).flatMap (attributeText tag attributes)

mutual

/-- The text of a node inside of an element whose text is raw or not. -/
def nodeText (raw : Bool) : Node → List Char
  | .element tag attributes children =>
    let start := '<' :: tag.toList ++ attributesText tag attributes
    if isVoid tag && children.isEmpty then start ++ ['/', '>']
    else start ++ '>' :: nodesText (isRawTag tag) children ++ '<' :: '/' :: tag.toList ++ ['>']
  | .text _ s => if raw then s.toList else escapeAll s.toList
  | .comment s => ['<', '!', '-', '-'] ++ s.toList ++ ['-', '-', '>']
  | .rawSection s => "<![CDATA[".toList ++ s.toList ++ [']', ']', '>']
  | .instruction s => ['<', '?'] ++ s.toList ++ ['>']
  | .declaration s => ['<', '?'] ++ s.toList ++ ['?', '>']
  | .doctype s => "<!DOCTYPE ".toList ++ s.toList ++ ['>', '\n']

def nodesText (raw : Bool) : List Node → List Char
  | [] => []
  | n :: ns => nodeText raw n ++ nodesText raw ns

end

/-- The text of a node on its own. -/
def Node.render (n : Node) : String := String.ofList (nodeText false n)

/-- The text of a whole tree. -/
def render (nodes : List Node) : String := String.ofList (nodesText false nodes)

/-- The voices that are heard in an element: its own, or plain text. -/
def hears (tag : String) : Voice := (voiceOf? tag).getD .plain

mutual

/-- The text of a voice in a node. Raw sections count as plain text. -/
def nodeVoice (voice : Voice) : Node → List Char
  | .element _ _ children => nodesVoice voice children
  | .text v s => if v = voice then s.toList else []
  | .rawSection s => if voice = .plain then s.toList else []
  | _ => []

def nodesVoice (voice : Voice) : List Node → List Char
  | [] => []
  | n :: ns => nodeVoice voice n ++ nodesVoice voice ns

end

/-- The text that an element shows. -/
def shownText (tag : String) (children : List Node) : String :=
  String.ofList (nodesVoice (hears tag) children)

end Gleaner.Markup
