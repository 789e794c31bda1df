import Gleaner.Selector.Lexer
import Gleaner.Selector.Fault
import Gleaner.Text.Lower

/-!
Reading a selector. Some lists forgive a missing selector: an empty place in them selects nothing.
-/

namespace Gleaner.Selector

/-- What a list stands in. -/
structure Setting where
  nested : Bool
  /-- Relations lead from the element instead of to it. -/
  relative : Bool
  forgiving : Bool

def Setting.whole : Setting := ⟨false, false, false⟩

/-- The source, its length, and how much of its end is blank. -/
structure Source where
  text : String
  size : Nat
  trailing : Nat

/-- The start of a row of blanks and comments that reaches to the end. -/
def trailingGap : Rest → Nat
  | [] => 0
  | c :: r => if (skipGap (c :: r)).isEmpty then r.length + 1 else trailingGap r

def Source.ofString (s : String) : Source :=
  let cs := s.toList
  { text := s, size := cs.length, trailing := trailingGap cs }

abbrev Reading := Except Refusal

def Source.offset (s : Source) (r : Rest) : Nat := s.size - r.length

def Source.fail {β : Type} (s : Source) (fault : Fault) (offset : Nat) : Reading β :=
  .error (.written fault s.text offset)

/-- The text that some characters stand for. -/
def plainText (cs : List Char) : Reading String :=
  match plain? cs with
  | some t => .ok (String.ofList t)
  | none => .error .noCharacter

def textOf (cs : List Char) : Reading (List Char) :=
  match valueText? cs with
  | some t => .ok t
  | none => .error .noCharacter

def textsOf : List (List Char) → Reading (List String)
  | [] => .ok []
  | cs :: rest => do
    let t ← textOf cs
    let ts ← textsOf rest
    .ok (String.ofList t :: ts)

/-- A compound selector in the making. -/
structure Draft where
  parts : List Part
  texts : List (Bool × List String)
  never : Bool

def Draft.start : Draft := ⟨[], [], false⟩

def Draft.add (d : Draft) (p : Part) : Draft := { d with parts := d.parts ++ [p] }

def Draft.finish (d : Draft) (relation : Option (Reach × Compound)) : Compound :=
  if d.never then .never else .all d.parts d.texts relation

/-- Relations that lead from an element, each from the element that the one before leads to. -/
def chain : List (Reach × Draft) → Option (Reach × Compound)
  | [] => none
  | (reach, d) :: rest => some (reach, d.finish (chain rest))

def pastReach (combinator : Char) : Reach :=
  if combinator = '>' then .parent
  else if combinator = '~' then .earlier
  else if combinator = '+' then .previous
  else .ancestor

def futureReach (combinator : Char) : Reach :=
  if combinator = '>' then .child
  else if combinator = '~' then .later
  else if combinator = '+' then .next
  else .descendant

/-- What has been read of a list. -/
structure Progress where
  draft : Draft
  /-- Whether the draft holds anything. -/
  started : Bool
  finished : List Compound
  /-- The element that the draft relates to. -/
  relation : Option (Reach × Compound)
  /-- The relations of the alternative being read, in a relative list. -/
  steps : List (Reach × Draft)
  /-- The combinator before the draft, in a relative list. -/
  leading : Char
  /-- Where the last item ended. -/
  index : Nat

def Progress.start (index : Nat) : Progress := ⟨.start, false, [], none, [], ' ', index⟩

def Progress.add (p : Progress) (part : Part) : Progress :=
  { p with draft := p.draft.add part, started := true }

/-- States written with a colon and nothing else. -/
def stateNames : List (String × List Part) :=
  let at' (sameTag fromEnd : Bool) : Part := .nth ⟨1, 0, false⟩ sameTag fromEnd []
  [(":root", [.state .root]), (":scope", [.state .scope]), (":empty", [.state .empty]),
    (":defined", [.state .defined]), (":link", [.state .link]), (":any-link", [.state .link]),
    (":checked", [.state .checked]), (":default", [.state .default]),
    (":indeterminate", [.state .indeterminate]), (":disabled", [.state .disabled]),
    (":enabled", [.state .enabled]), (":required", [.state .required]),
    (":optional", [.state .optional]), (":read-only", [.state .readOnly]),
    (":read-write", [.state .readWrite]), (":in-range", [.state .inRange]),
    (":out-of-range", [.state .outOfRange]), (":placeholder-shown", [.state .placeholderShown]),
    (":open", [.state .opened]), (":muted", [.state .muted]),
    (":first-child", [at' false false]), (":last-child", [at' false true]),
    (":first-of-type", [at' true false]), (":last-of-type", [at' true true]),
    (":only-child", [at' false false, at' false true]),
    (":only-of-type", [at' true false, at' true true])]

/-- States that no element of a page at rest is in. -/
def idleStates : List String :=
  [":active", ":autofill", ":buffering", ":current", ":focus", ":focus-visible", ":focus-within",
    ":fullscreen", ":future", ":host", ":hover", ":local-link", ":modal", ":past", ":paused",
    ":picture-in-picture", ":playing", ":popover-open", ":seeking", ":stalled", ":target",
    ":target-within", ":user-invalid", ":user-valid", ":visited", ":volume-locked"]

/-- States that take a list of selectors. -/
def listStates : List String :=
  [":contains", ":-soup-contains", ":-soup-contains-own", ":has", ":is", ":matches", ":not",
    ":where"]

def idleListStates : List String := [":current", ":host", ":host-context"]

def specialStates : List String :=
  [":dir", ":lang", ":nth-child", ":nth-last-child", ":nth-last-of-type", ":nth-of-type"]

def isKnownState (name : String) : Bool :=
  (stateNames.any (·.1 = name)) || idleStates.contains name || listStates.contains name ||
    idleListStates.contains name || specialStates.contains name

def containsStates : List String := [":contains", ":-soup-contains", ":-soup-contains-own"]

/-- A name or a star with a bar behind it. -/
def space? (r : Rest) : Option (List Char × Rest) :=
  let (body, rest) := match r with
    | '*' :: r' => (['*'], r')
    | _ => (name? r).getD ([], r)
  match rest with
  | '|' :: rest => some (body, rest)
  | _ => none

def tagName? (r : Rest) : Option (List Char × Rest) :=
  match r with
  | '*' :: r' => some (['*'], r')
  | _ => name? r

/-- A tag name, with a namespace if one is written. -/
def tag? (r : Rest) : Option (Option (List Char) × List Char × Rest) :=
  let spaced := do
    let (space, r) ← space? r
    let (name, r) ← tagName? r
    return (some space, name, r)
  spaced.or ((tagName? r).map fun (name, r) => (none, name, r))

/-- The operator of an attribute selector; the second part says whether it is the negated one. -/
def operator? : Rest → Option (Comparison × Bool × Rest)
  | '=' :: r => some (.equal, false, r)
  | '!' :: '=' :: r => some (.equal, true, r)
  | '~' :: '=' :: r => some (.word, false, r)
  | '^' :: '=' :: r => some (.startsWith, false, r)
  | '|' :: '=' :: r => some (.dashed, false, r)
  | '*' :: '=' :: r => some (.contains, false, r)
  | '$' :: '=' :: r => some (.endsWith, false, r)
  | _ => none

def bracketEnd? (r : Rest) : Option Rest :=
  match skipGap r with
  | ']' :: r' => some r'
  | _ => none

/-- What an attribute selector says. -/
structure AttributeText where
  name : List Char
  comparison : Option (Comparison × Bool × List Char)
  /-- The letter that says whether case counts. -/
  case : Option Char

/-- The letter before the closing bracket, if one is written. -/
def caseLetter? (r : Rest) : Option (Char × Rest) :=
  match skipGap r with
  | c :: r' => if c.toLower = 'i' || c.toLower = 's' then some (c.toLower, r') else none
  | [] => none

/-- The comparison in an attribute selector, up to its closing bracket. -/
def comparison? (name : List Char) (r : Rest) : Option (AttributeText × Rest) := do
  let (comparison, negated, r) ← operator? (skipGap r)
  let (value, r) ← value? (skipGap r)
  match bracketEnd? r with
  | some rest => return (⟨name, some (comparison, negated, value), none⟩, rest)
  | none =>
    let (letter, r) ← caseLetter? r
    let rest ← bracketEnd? r
    return (⟨name, some (comparison, negated, value), some letter⟩, rest)

def attributeBody? (r : Rest) : Option (AttributeText × Rest) := do
  let (name, r) ← name? r
  match comparison? name r with
  | some found => return found
  | none =>
    let rest ← bracketEnd? r
    return (⟨name, none, none⟩, rest)

/-- An attribute selector after its opening bracket. -/
def attribute? (r : Rest) : Option (AttributeText × Rest) :=
  let r := skipGap r
  ((space? r).bind fun (_, r) => attributeBody? r).or (attributeBody? r)

/-- Comparisons with an empty value hold of nothing, but for equality and for dashed values. -/
def AttributeText.parts (t : AttributeText) : Reading (List Part) := do
  let name ← plainText t.name
  let ignoreCase := match t.case with
    | some c => c = 'i'
    | none => Text.lowerAscii name = "type"
  match t.comparison with
  | none => .ok [.attribute ⟨name, .present, [], false⟩]
  | some (comparison, negated, written) =>
    let value ← textOf written
    let test : Part := .attribute ⟨name, comparison, value, ignoreCase⟩
    .ok [if negated then .anyOf true [.all [test] [] none] else test]

/-- Whatever joins two compound selectors: a mark, or blanks alone. -/
def combinator? (r : Rest) : Option (Char × Rest) :=
  match skipGap r with
  | c :: r' =>
    if c = ',' || c = '+' || c = '>' || c = '~' then some (c, skipGap r')
    else if (blank? (skipComments r)).isSome then some (' ', c :: r')
    else none
  | [] => if (blank? (skipComments r)).isSome then some (' ', []) else none

/-- An item of a selector. -/
inductive Item where
  | close
  | parts (found : List Part)
  | texts (own : Bool) (found : List String)
  /-- A place among the siblings that a list, still to be read, selects. -/
  | nthOf (formula : Formula) (fromEnd : Bool)
  | custom (name : String)
  | state (name : String) (opened : Bool)
  | element
  | atRule
  | tag (space : Option String) (name : String)
  | combinator (c : Char)

def directionOf? (r : Rest) : Option (Bool × Rest) :=
  ((word? ['l', 't', 'r'] r).map fun r => (false, r)).or
    ((word? ['r', 't', 'l'] r).map fun r => (true, r))

/-- States with an argument of their own form; none when the argument has another one. -/
def special? (name : String) (r : Rest) : Option (Reading (Item × Rest)) :=
  if containsStates.contains name then do
    let (written, r) ← values? r
    let r ← close? r
    return do
      let vs := match plain? written with
        | some t => splitValues t.length t
        | none => []
      if (plain? written).isNone then throw .noCharacter
      else
        let texts ← textsOf vs
        return (.texts (name = ":-soup-contains-own") texts, r)
  else if name = ":nth-child" || name = ":nth-last-child" then do
    let (f, r) ← formula? r
    let fromEnd := name = ":nth-last-child"
    match close? r with
    | some r => return .ok (.parts [.nth f false fromEnd []], r)
    | none =>
      let r ← of? r
      return .ok (.nthOf f fromEnd, r)
  else if name = ":nth-of-type" || name = ":nth-last-of-type" then do
    let (f, r) ← formula? r
    let r ← close? r
    return .ok (.parts [.nth f true (name = ":nth-last-of-type") []], r)
  else if name = ":lang" then do
    let (written, r) ← values? r
    let r ← close? r
    return do
      let texts ← textsOf (splitValues written.length written)
      return (.parts [.language texts], r)
  else if name = ":dir" then do
    let (rightToLeft, r) ← directionOf? r
    let r ← close? r
    return .ok (.parts [.direction rightToLeft], r)
  else none

/-- What a colon starts; given is what follows it. -/
def colonItem? (r : Rest) : Option (Reading (Item × Rest)) :=
  match name? r with
  | none => match r with
    | ':' :: r' => (name? r').map fun (_, rest) => .ok (.element, (open? rest).getD rest)
    | _ => none
  | some (written, rest) => some do
    let name := Text.lowerAscii (← plainText (':' :: written))
    let special := (open? rest).bind (special? name)
    match special with
    | some found => found
    | none =>
      if written.take 2 = ['-', '-'] then return (.custom name, rest)
      else match open? rest with
        | some r' => return (.state name true, r')
        | none => return (.state name false, rest)

/-- The fault of a text that no item starts. -/
def lexicalFault (c : Char) : Fault :=
  if c = '[' then .malformed "attribute"
  else if c = '.' then .malformed "class"
  else if c = '#' then .malformed "id"
  else if c = ':' then .malformed "pseudo-class"
  else .invalidCharacter c

def ofOption {β : Type} (s : Source) (r : Rest) (c : Char) : Option (Reading β) → Reading β
  | some found => found
  | none => s.fail (lexicalFault c) (s.offset r)

/-- The next item of a text that is not empty. -/
def item (s : Source) (r : Rest) : Reading (Item × Rest) :=
  match close? r with
  | some r' => .ok (.close, r')
  | none => match r with
    | [] => s.fail .expectedSelector (s.offset r)
    | c :: r' =>
      let other : Option (Reading (Item × Rest)) := (combinator? r).map fun (k, rest) =>
        .ok (.combinator k, rest)
      if c = ':' then ofOption s r c (colonItem? r')
      else if c = '&' then .ok (.parts [.state .scope], r')
      else if c = '@' then
        ofOption s r c (((letter? 'p' r').bind name?).map fun (_, rest) => .ok (.atRule, rest))
      else if c = '#' then
        ofOption s r c ((name? r').map fun (n, rest) => do
          return (.parts [.id (← plainText n)], rest))
      else if c = '.' then
        ofOption s r c ((name? r').map fun (n, rest) => do
          return (.parts [.className (← plainText n)], rest))
      else if c = '[' then
        ofOption s r c ((attribute? r').map fun (t, rest) => do
          return (.parts (← t.parts), rest))
      else match tag? r with
        | some (space, n, rest) => do
          let space ← match space with
            | none => pure none
            | some w => (plainText w).map some
          return (.tag space (← plainText n), rest)
        | none => ofOption s r c other

/-- Ends the draft by a combinator, in a list whose relations lead to the element. -/
def Progress.combine (p : Progress) (s : Source) (setting : Setting) (c : Char) :
    Reading Progress :=
  if !p.started then
    if setting.forgiving && c = ',' then
      .ok { p with draft := .start, finished := p.finished ++ [.never], relation := none }
    else s.fail (.misplacedCombinator c) p.index
  else
    let done := p.draft.finish p.relation
    let p := { p with draft := .start, started := false }
    if c = ',' then .ok { p with finished := p.finished ++ [done], relation := none }
    else .ok { p with relation := some (pastReach c, done) }

/-- As above, where relations lead from the element. -/
def Progress.combineRelative (p : Progress) (s : Source) (c : Char) : Reading Progress :=
  let step := (futureReach p.leading, p.draft)
  if c = ',' then
    if !p.started then s.fail (.misplacedCombinator c) p.index
    else
      .ok { p with
        draft := .start, started := false, steps := [], leading := ' '
        finished := p.finished ++ [.all [] [] (chain (p.steps ++ [step]))] }
  else if p.started then
    .ok { p with draft := .start, started := false, steps := p.steps ++ [step], leading := c }
  else if p.leading ≠ ' ' then s.fail .repeatedCombinator p.index
  else .ok { p with leading := c }

/-- Ends a list. -/
def Progress.finish (p : Progress) (s : Source) (setting : Setting) : Reading Selector :=
  if p.started then
    if setting.relative then
      .ok (p.finished ++ [.all [] [] (chain (p.steps ++ [(futureReach p.leading, p.draft)]))])
    else .ok (p.finished ++ [p.draft.finish p.relation])
  else if setting.forgiving && (p.finished.isEmpty || p.relation.isNone) then
    .ok (p.finished ++ [.never])
  else s.fail .expectedSelector p.index

def settingOf (name : String) : Setting :=
  ⟨true, name = ":has", name = ":is" || name = ":where"⟩

/-- Reads a list up to its closing bracket or the end of the source. -/
def readList (s : Source) (setting : Setting) : Nat → Progress → Rest → Reading (Selector × Rest)
  | 0, p, r => do return (← p.finish s setting, r)
  | fuel + 1, p, r =>
    if r.length ≤ s.trailing then
      if setting.nested then s.fail .unclosed p.index
      else do return (← p.finish s setting, r)
    else do
      let (found, rest) ← item s r
      let here := s.offset r
      let after := s.offset rest
      match found with
      | .close =>
        if !p.started && !setting.forgiving then s.fail .expectedSelector here
        else if !setting.nested then s.fail .unmatchedClose here
        else return (← p.finish s setting, rest)
      | .combinator c =>
        let p ← if setting.relative then p.combineRelative s c else p.combine s setting c
        readList s setting fuel { p with index := after } rest
      | .tag space n =>
        if p.started then s.fail .misplacedTag here
        else readList s setting fuel { p.add (.tag space n) with index := after } rest
      | .parts parts =>
        readList s setting fuel { parts.foldl Progress.add p with index := after } rest
      | .texts own texts =>
        let draft := { p.draft with texts := p.draft.texts ++ [(own, texts)] }
        readList s setting fuel { p with draft, started := true, index := after } rest
      | .nthOf f fromEnd =>
        let (among, rest) ← readList s ⟨true, false, false⟩ fuel (.start after) rest
        readList s setting fuel { p.add (.nth f false fromEnd among) with index := after } rest
      | .custom name => s.fail (.unknownCustom name) after
      | .element => throw (.pseudoElement here)
      | .atRule => throw (.atRule here)
      | .state name opened =>
        if opened && listStates.contains name then
          let (inner, rest) ← readList s (settingOf name) fuel (.start after) rest
          readList s setting fuel { p.add (.anyOf (name = ":not") inner) with index := after } rest
        else if opened && idleListStates.contains name then
          let (_, rest) ← readList s ⟨true, false, false⟩ fuel (.start after) rest
          let draft := { p.draft with never := true }
          readList s setting fuel { p with draft, started := true, index := after } rest
        else if !opened && idleStates.contains name then
          let draft := { p.draft with never := true }
          readList s setting fuel { p with draft, started := true, index := after } rest
        else match stateNames.find? fun e => !opened && e.1 = name with
          | some (_, parts) =>
            readList s setting fuel { parts.foldl Progress.add p with index := after } rest
          | none =>
            s.fail (if isKnownState name then .invalidUse name else .unknownState name) here

/-- A null character counts as the replacement character. -/
def withoutNull (s : String) : String :=
  String.ofList (s.toList.map fun c => if c = '\x00' then Char.ofNat 0xFFFD else c)

/-- Reads a selector. -/
def parse (written : String) : Except Refusal Selector :=
  let source := Source.ofString (withoutNull written)
  let r := skipGap source.text.toList
  (readList source .whole (2 * source.size + 2) (.start 0) r).map (·.1)

end Gleaner.Selector
