import Gleaner.Markup.Token

/-!
Markup as a tree, built from its tokens. An element stays open until a closing tag of its name or
of an outer element comes, so nothing is closed by implication but elements without content.
-/

namespace Gleaner.Markup

/-- What kind of text a string is: text of some elements is read only from within them. -/
inductive Voice where
  | plain
  | style
  | script
  | template
  | rubyText
  | rubyParenthesis
  deriving DecidableEq

inductive Node where
  | element (tag : String) (attributes : List Attribute) (children : List Node)
  | text (voice : Voice) (s : String)
  | comment (s : String)
  | rawSection (s : String)
  | instruction (s : String)
  | declaration (s : String)
  | doctype (s : String)
  deriving Inhabited

/-- The voice of the text in an element, if the element sets one. -/
def voiceOf? (tag : String) : Option Voice :=
  if tag = "style" then some .style
  else if tag = "script" then some .script
  else if tag = "template" then some .template
  else if tag = "rt" then some .rubyText
  else if tag = "rp" then some .rubyParenthesis
  else none

/-- Elements that have no content. -/
def voidTags : List String :=
  ["area", "base", "br", "col", "embed", "hr", "img", "input", "keygen", "link", "menuitem",
    "meta", "param", "source", "track", "wbr", "basefont", "bgsound", "command", "frame", "image",
    "isindex", "nextid", "spacer"]

def isVoid (tag : String) : Bool := voidTags.contains tag

/-- Elements in which blanks count. -/
def keepsBlanks (tag : String) : Bool := tag = "pre" || tag = "textarea"

/-- How attributes that hold several words are kept: as they are written, or word by word with
single blanks between them. -/
inductive WordRule where
  | asWritten
  | wordByWord
  deriving DecidableEq

/-- Attributes that hold several words, on the given elements or on all. -/
def wordAttributes : List (Option String × String) :=
  [(none, "class"), (none, "accesskey"), (none, "dropzone"), (some "a", "rel"), (some "a", "rev"),
    (some "link", "rel"), (some "link", "rev"), (some "td", "headers"), (some "th", "headers"),
    (some "form", "accept-charset"), (some "object", "archive"), (some "area", "rel"),
    (some "icon", "sizes"), (some "iframe", "sandbox"), (some "output", "for")]

def holdsWords (tag name : String) : Bool :=
  wordAttributes.contains (none, name) || wordAttributes.contains (some tag, name)

def joinWords (s : String) : String :=
  String.intercalate " " ((Text.wordsOf Text.isBlank s.toList).map String.ofList)

/-- Sets an attribute: the last value of a name stays, at the place of the first. -/
def putAttribute (found : List Attribute) (a : Attribute) : List Attribute :=
  match found with
  | [] => [a]
  | b :: rest => if b.1 = a.1 then a :: rest else b :: putAttribute rest a

def attributesOf (rule : WordRule) (tag : String) (written : List Attribute) : List Attribute :=
  let found := written.foldl putAttribute []
  match rule with
  | .asWritten => found
  | .wordByWord => found.map fun (n, v) => (n, if holdsWords tag n then joinWords v else v)

/-- An element whose closing tag has not come, with its children in reverse. -/
structure OpenElement where
  tag : String
  attributes : List Attribute
  children : List Node

/-- A tree in the making. -/
structure Builder where
  rule : WordRule
  /-- What stands outside of all elements, in reverse. -/
  top : List Node
  /-- The open elements, innermost first. -/
  stack : List OpenElement
  /-- Text that has not been put into the tree. -/
  pending : Option String
  /-- Elements without content that were closed without a closing tag: each allows for one closing
  tag to come. -/
  settled : List String

namespace Builder

def start (rule : WordRule) : Builder := ⟨rule, [], [], none, []⟩

/-- Puts a node behind the last child of the innermost open element. -/
def add (b : Builder) (n : Node) : Builder :=
  match b.stack with
  | [] => { b with top := n :: b.top }
  | e :: rest => { b with stack := { e with children := n :: e.children } :: rest }

/-- The voice of text at this place: the innermost element that sets one decides. -/
def voice (b : Builder) : Voice := (b.stack.findSome? fun e => voiceOf? e.tag).getD .plain

def isAsciiBlank (c : Char) : Bool := c = ' ' || c = '\n' || c = '\t' || c = '\x0c' || c = '\r'

/-- Text of blanks alone is kept as one line end or one blank, except where blanks count. -/
def settle (b : Builder) (s : String) : String :=
  if !(b.stack.any fun e => keepsBlanks e.tag) && s.toList.all isAsciiBlank then
    if s.toList.contains '\n' then "\n" else " "
  else s

/-- Puts the pending text into the tree. -/
def flush (b : Builder) : Builder :=
  match b.pending with
  | none => b
  | some s => { b with pending := none }.add (.text b.voice (b.settle s))

def addText (b : Builder) (s : String) : Builder :=
  { b with pending := some (b.pending.getD "" ++ s) }

/-- Puts a node that is made of a text into the tree. -/
def addMarked (b : Builder) (make : String → Node) (s : String) : Builder :=
  let b := b.flush
  b.add (make (b.settle s))

/-- Closes the innermost element. -/
def pop (b : Builder) : Builder :=
  match b.stack with
  | [] => b
  | e :: rest => { b with stack := rest }.add (.element e.tag e.attributes e.children.reverse)

def pops (b : Builder) : Nat → Builder
  | 0 => b
  | n + 1 => b.pop.pops n

/-- Closes the innermost element of a name with all elements in it; without such an element
nothing happens. -/
def close (b : Builder) (tag : String) : Builder :=
  let b := b.flush
  match b.stack.findIdx? (·.tag = tag) with
  | none => b
  | some i => b.pops (i + 1)

def openElement (b : Builder) (tag : String) (written : List Attribute) : Builder :=
  let b := b.flush
  { b with stack := ⟨tag, attributesOf b.rule tag written, []⟩ :: b.stack }

/-- Takes a closing tag into account. -/
def closing (b : Builder) (tag : String) : Builder :=
  if b.settled.contains tag then { b with settled := b.settled.erase tag } else b.close tag

/-- Takes one token into account. -/
def step (b : Builder) : Token → Builder
  | .text s => b.addText s
  | .opening tag written =>
    let b := b.openElement tag written
    if isVoid tag then
      let b := b.close tag
      { b with settled := b.settled ++ [tag] }
    else b
  | .single tag written => (b.openElement tag written).close tag
  | .closing tag => b.closing tag
  | .comment s => b.addMarked .comment s
  | .doctype s => b.addMarked .doctype s
  | .instruction s => b.addMarked .instruction s
  | .section s =>
    if (s.toList.take 6).map Char.toUpper = "CDATA[".toList then
      b.addMarked .rawSection (String.ofList (s.toList.drop 6))
    else b.addMarked .declaration s

/-- Closes what is open. -/
def finish (b : Builder) : List Node :=
  let b := b.flush
  (b.pops b.stack.length).top.reverse

end Builder

/-- The tree of a row of tokens. -/
def ofTokens (rule : WordRule) (ts : List Token) : List Node :=
  (ts.foldl Builder.step (Builder.start rule)).finish

/-- The tree of a text. -/
def parse (markup : String) (rule : WordRule) : Except Rejection (List Node) :=
  (tokens markup).map (ofTokens rule)

end Gleaner.Markup
