import Gleaner.Xml.Scan

/-!
The tokens outside the outermost element.
-/

namespace Gleaner.Xml

/-- What a word may be used for: any name, a name with a prefix, or only a value. -/
inductive WordKind where
  | name
  | prefixed
  | other
  deriving DecidableEq

inductive Token where
  | word (kind : WordKind) (text : List Char)
  /-- A name and how often it may occur. -/
  | counted
  /-- What stands between quotes. -/
  | literal (text : List Char)
  /-- A keyword after a number sign. -/
  | hash (keyword : List Char)
  | percent
  /-- The reference to a parameter. -/
  | parameter
  /-- The opening of a declaration with its keyword. -/
  | opening (keyword : List Char)
  | comment
  | instruction
  /-- What looks like the declaration of a document. -/
  | declaration
  /-- A bracket before a name, which is not read. -/
  | tag
  | openBracket
  | closeBracket
  | openGroup
  /-- The end of a group, and how often it may occur. -/
  | closeGroup (count : Option Char)
  | comma
  | bar
  | close
  /-- The marks of a section that is only read under a condition. -/
  | condition
  | theEnd
  deriving DecidableEq

/-- A token, where it starts, and what follows it. -/
structure Lexeme where
  token : Token
  start : List Char
  rest : List Char

/-- Characters that may follow a word or a keyword. -/
def isBreak (c : Char) : Bool := isSpace c || ">),|[%".toList.contains c

variable [Alphabet]

/-- The rest of a word of the given kind so far. -/
def scanWord (start : List Char) : WordKind → List Char → Scan Token
  | kind, [] => .ok (.word kind start, [])
  | kind, c :: cs =>
    if isNameChar c then scanWord start kind cs
    else if isBreak c then
      .ok (.word kind (start.take (start.length - (cs.length + 1))), c :: cs)
    else if c = ':' then match kind with
      | .name => if cs.isEmpty then misfit start cs
        else scanWord start (if starts isNameChar cs then .prefixed else .other) cs
      | _ => scanWord start .other cs
    else if c = '?' || c = '*' || c = '+' then
      if kind = .other then stop .badToken (c :: cs) else .ok (.counted, cs)
    else misfit start (c :: cs)

/-- The rest of a literal, which has to be told from what follows. -/
def scanLiteral (start : List Char) (quote : Char) : List Char → Scan Token
  | [] => misfit start []
  | c :: cs =>
    if c = quote then
      if cs.isEmpty || starts (fun d => isSpace d || ">%[".toList.contains d) cs then
        .ok (.literal [], cs)
      else stop .badToken cs
    else if !isAllowed c then misfit start (c :: cs)
    else match scanLiteral start quote cs with
      | .ok (.literal text, rest) => .ok (.literal (c :: text), rest)
      | r => r

/-- What starts with a percent sign, which is left out. -/
def scanPercent (start cs : List Char) : Scan Token :=
  if starts (fun c => isSpace c || c = '%') cs then .ok (.percent, cs)
  else match scanName start cs with
    | .error f => .error f
    | .ok (_, ';' :: rest) => .ok (.parameter, rest)
    | .ok (_, rest) => misfit start rest

/-- What starts with a number sign, which is left out. -/
def scanHash (start cs : List Char) : Scan Token :=
  match scanName start cs with
  | .error f => .error f
  | .ok (name, rest) =>
    if rest.isEmpty || starts (fun c => isSpace c || ")>%|".toList.contains c) rest then
      .ok (.hash name, rest)
    else misfit start rest

def isKeyword (c : Char) : Bool := c.isAlpha || c = '_'

/-- What starts with a bracket and an exclamation mark, which are left out. -/
def scanOpening (start cs : List Char) : Scan Token :=
  match cs with
  | '-' :: '-' :: rest => (skipComment start rest).map fun rest => (.comment, rest)
  | '-' :: rest => misfit start rest
  | '[' :: rest => .ok (.condition, rest)
  | cs =>
    if starts isKeyword cs then
      let keyword := cs.takeWhile isKeyword
      match cs.dropWhile isKeyword with
      | ['%'] => misfit start []
      | '%' :: c :: rest =>
        if isSpace c || c = '%' then stop .badToken ('%' :: c :: rest)
        else .ok (.opening keyword, '%' :: c :: rest)
      | rest => if starts isSpace rest then .ok (.opening keyword, rest) else misfit start rest
    else misfit start cs

/-- The token at the start of a text that is not empty. -/
def scanToken (start : List Char) : List Char → Scan Token
  | [] => .ok (.theEnd, [])
  | '<' :: '!' :: rest => scanOpening start rest
  | '<' :: '?' :: rest => (scanInstruction start rest).map fun ((target, _), rest) =>
    (if target = "xml".toList then .declaration else .instruction, rest)
  | '<' :: rest =>
    if starts (fun c => isNameStart c || 128 ≤ c.toNat) rest then .ok (.tag, start)
    else misfit start rest
  | '%' :: rest => scanPercent start rest
  | '#' :: rest => scanHash start rest
  | ',' :: rest => .ok (.comma, rest)
  | '|' :: rest => .ok (.bar, rest)
  | '>' :: rest => .ok (.close, rest)
  | '[' :: rest => .ok (.openBracket, rest)
  | ']' :: ']' :: '>' :: rest => .ok (.condition, rest)
  | [']', ']'] => misfit start []
  | ']' :: rest => .ok (.closeBracket, rest)
  | '(' :: rest => .ok (.openGroup, rest)
  | ')' :: rest =>
    if starts (fun c => "?*+".toList.contains c) rest then
      .ok (.closeGroup rest.head?, rest.drop 1)
    else if rest.isEmpty || starts (fun c => isSpace c || ">,|)".toList.contains c) rest then
      .ok (.closeGroup none, rest)
    else stop .badToken rest
  | c :: rest =>
    if isQuote c then scanLiteral start c rest
    else if isNameStart c then scanWord start .name rest
    else if isNameChar c || c = ':' then scanWord start .other rest
    else misfit start (c :: rest)

/-- The next token after space. -/
def next (cs : List Char) : Except Fault Lexeme :=
  let start := skipSpace cs
  (scanToken start start).map fun (token, rest) => ⟨token, start, rest⟩

/-- A token that does not belong where it stands. -/
def Lexeme.refuse {β : Type} (l : Lexeme) : Except Fault β :=
  match l.token with
  | .theEnd => stop .noElement []
  | .parameter => stop .parameterInside l.start
  | .declaration => stop .misplacedDeclaration l.start
  | _ => stop .syntaxError l.start

end Gleaner.Xml
