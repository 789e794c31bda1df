import Gleaner.Pattern.Node
import Gleaner.Pattern.Fault
import Gleaner.Text.Hex

/-!
Reading a capture pattern. The reader looks one item ahead, where a backslash and the character
behind it are one item; a backslash with nothing behind it is refused as soon as it comes into
view.
-/

namespace Gleaner.Pattern

/-- What is left of a pattern and what has been learnt from the part already read. -/
structure Cursor where
  size : Nat
  /-- The item in view: empty at the end. -/
  next : List Char
  rest : List Char
  options : Options
  names : List (String × Nat)
  /-- Widths of the groups opened so far, the whole pattern first; none while one is open. -/
  widths : Array (Option Width)
  /-- The number of groups before the look behind that is being read. -/
  lookBehind : Option Nat
  /-- Groups that conditions name, and where. -/
  conditions : List (Nat × Nat)

/-- Why reading stops. -/
inductive Halt where
  | fault (f : Fault) (place : Option Nat)
  | countTooLarge

abbrev Reading := StateT Cursor (Except Halt)

/-- Where the item in view starts. -/
def Cursor.place (c : Cursor) : Nat := c.size - c.rest.length - c.next.length

/-- A fault so many characters before the item in view. -/
def failBefore {β : Type} (back : Nat) (fault : Fault) : Reading β := do
  let c ← get
  throw (.fault fault (some (c.place - back)))

/-- A fault between a place and the item in view. -/
def failFrom {β : Type} (start : Nat) (fault : Fault) : Reading β :=
  throw (.fault fault (some start))

def advance : Reading Unit := do
  let c ← get
  match c.rest with
  | [] => set { c with next := [] }
  | '\\' :: [] => throw (.fault .danglingEscape (some (c.size - 1)))
  | '\\' :: e :: rest => set { c with next := ['\\', e], rest }
  | x :: rest => set { c with next := [x], rest }

def peek : Reading (List Char) := return (← get).next

def place : Reading Nat := return (← get).place

def take : Reading (List Char) := do
  let item ← peek
  advance
  return item

/-- Takes the item in view if it is this character. -/
def skip (x : Char) : Reading Bool := do
  if (← peek) = [x] then
    advance
    return true
  else return false

/-- Takes at most so many items of a class. -/
def takeSome (p : Char → Bool) : Nat → Reading (List Char)
  | 0 => return []
  | n + 1 => do
    match ← peek with
    | [x] =>
      if p x then
        advance
        return x :: (← takeSome p n)
      else return []
    | _ => return []

/-- Takes items up to a terminator, which is taken too and not returned. -/
def takeUntil (terminator : Char) (what : String) : Nat → List Char → Reading (List Char)
  | 0, got => return got
  | n + 1, got => do
    let item ← take
    if item.isEmpty then
      if got.isEmpty then failBefore 0 (.missingName what)
      else failBefore got.length (.unterminatedName terminator)
    else if item = [terminator] then
      if got.isEmpty then failBefore 1 (.missingName what) else return got
    else takeUntil terminator what n (got ++ item)

def fuelOf (c : Cursor) : Nat := c.rest.length + c.next.length + 2

def name (terminator : Char) (what : String) : Reading String := do
  return String.ofList (← takeUntil terminator what (fuelOf (← get)) [])

/-- A letter or low line, then letters, digits and low lines. -/
def isIdentifier (s : String) : Bool :=
  match s.toList with
  | [] => false
  | c :: cs => Text.isWord c && (Text.decimalValue? c).isNone && cs.all Text.isWord

def isOctal (c : Char) : Bool := '0' ≤ c && c ≤ '7'

/-- What an escape stands for. -/
inductive Escape where
  | literal (code : Nat)
  | category (kind : Category) (negated : Bool)
  | anchor (a : Anchor)
  | reference (index : Nat)

def controlCode? : Char → Option Nat
  | 'a' => some 7
  | 'b' => some 8
  | 'f' => some 12
  | 'n' => some 10
  | 'r' => some 13
  | 't' => some 9
  | 'v' => some 11
  | '\\' => some 92
  | _ => none

def category? : Char → Option (Category × Bool)
  | 'd' => some (.digit, false)
  | 'D' => some (.digit, true)
  | 's' => some (.blank, false)
  | 'S' => some (.blank, true)
  | 'w' => some (.word, false)
  | 'W' => some (.word, true)
  | _ => none

def escapeText (cs : List Char) : String := String.ofList ('\\' :: cs)

/-- A code point written with an exact number of digits in base sixteen. -/
def hexEscape (letter : Char) (count : Nat) : Reading Escape := do
  let ds ← takeSome Text.isHexDigit count
  if ds.length ≠ count then
    failBefore (ds.length + 2) (.incompleteEscape (escapeText (letter :: ds)))
  else
    let code := Text.numberIn 16 ds
    if 0x110000 ≤ code then failBefore (count + 2) (.badEscape (escapeText (letter :: ds)))
    else return .literal code

/-- A character given by its name: no names are known. -/
def namedEscape : Reading Escape := do
  if !(← skip '{') then failBefore 0 .missingBrace
  else
    let n ← name '}' "character name"
    failBefore (n.length + 4) (.unknownCharacterName n)

/-- Escapes with one meaning inside and outside of sets, for an ASCII letter or another mark. -/
def sharedEscape (c : Char) : Reading Escape :=
  if c = 'x' then hexEscape c 2
  else if c = 'u' then hexEscape c 4
  else if c = 'U' then hexEscape c 8
  else if c = 'N' then namedEscape
  else if c.isAlpha then failBefore 2 (.badEscape (escapeText [c]))
  else return .literal c.toNat

def octalEscape (ds : List Char) : Reading Escape :=
  let code := Text.numberIn 8 ds
  if 0o377 < code then failBefore (ds.length + 1) (.octalTooLarge (escapeText ds))
  else return .literal code

/-- An escape inside of a set, after its item has been taken. -/
def escapeInSet (c : Char) : Reading Escape := do
  match controlCode? c, category? c with
  | some code, _ => return .literal code
  | _, some (kind, negated) => return .category kind negated
  | none, none =>
    if isOctal c then octalEscape (c :: (← takeSome isOctal 2))
    else if c.isDigit then failBefore 2 (.badEscape (escapeText [c]))
    else sharedEscape c

/-- Inside a look behind only groups closed before it may be named. -/
def checkLookBehind (index : Nat) : Reading Unit := do
  let c ← get
  match c.lookBehind with
  | none => return
  | some before =>
    if (c.widths[index]?.bind id).isNone then failBefore 0 .openGroup
    else if before ≤ index then failBefore 0 .groupInsideLookBehind
    else return

/-- A reference to a group by its number. -/
def reference (ds : List Char) : Reading Escape := do
  let c ← get
  let index := Text.numberIn 10 ds
  if index < c.widths.size then
    if (c.widths[index]?.bind id).isNone then failBefore (ds.length + 1) .openGroup
    else
      checkLookBehind index
      return .reference index
  else failBefore ds.length (.noSuchGroup index)

/-- Digits after a backslash: three octal ones are a code point, others name a group. -/
def digitEscape (c : Char) : Reading Escape := do
  if c = '0' then octalEscape (c :: (← takeSome isOctal 2))
  else
    match ← takeSome Char.isDigit 1 with
    | [d] =>
      if isOctal c && isOctal d then
        match ← takeSome isOctal 1 with
        | [e] => octalEscape [c, d, e]
        | _ => reference [c, d]
      else reference [c, d]
    | _ => reference [c]

/-- An escape outside of sets, after its item has been taken. -/
def escapeInText (c : Char) (o : Options) : Reading Escape := do
  if c = 'A' then return .anchor .textStart
  else if c = 'Z' then return .anchor .textEnd
  else if c = 'b' then return .anchor (.boundary false o.asciiOnly)
  else if c = 'B' then return .anchor (.boundary true o.asciiOnly)
  else match category? c, controlCode? c with
    | some (kind, negated), _ => return .category kind negated
    | _, some code => return .literal code
    | none, none => if c.isDigit then digitEscape c else sharedEscape c

def literalSet (o : Options) (code : Nat) : Node := .set ⟨false, [.range code code], o.caseRule⟩

def Escape.node (o : Options) : Escape → Node
  | .literal code => literalSet o code
  | .category kind negated => .set ⟨false, [.category kind negated o.asciiOnly], o.caseRule⟩
  | .anchor a => .anchor a
  | .reference index => .backReference index o.caseRule

def Escape.item (o : Options) : Escape → SetItem
  | .literal code => .range code code
  | .category kind negated => .category kind negated o.asciiOnly
  | .anchor _ | .reference _ => .range 1 0

/-- One member of a set, given the item taken for it. -/
def member : List Char → Reading Escape
  | ['\\', c] => escapeInSet c
  | c :: _ => return .literal c.toNat
  | [] => return .literal 0

/-- The members of a set up to its closing bracket; a bracket that comes first is a member. -/
def setItems (o : Options) (start : Nat) : Nat → List SetItem → Reading (List SetItem)
  | 0, got => return got
  | n + 1, got => do
    let this ← take
    if this.isEmpty then failFrom start .unterminatedSet
    else if this = [']'] && !got.isEmpty then return got
    else
      let low ← member this
      if ← skip '-' then
        let that ← take
        if that.isEmpty then failFrom start .unterminatedSet
        else if that = [']'] then return got ++ [low.item o, .range 45 45]
        else
          let high ← member that
          match low, high with
          | .literal a, .literal b =>
            if b < a then
              failBefore (this.length + 1 + that.length)
                (.badRange (String.ofList this) (String.ofList that))
            else setItems o start n (got ++ [.range a b])
          | _, _ =>
            failBefore (this.length + 1 + that.length)
              (.badRange (String.ofList this) (String.ofList that))
      else setItems o start n (got ++ [low.item o])

/-- A set, after its opening bracket. -/
def readSet (o : Options) : Reading Node := do
  let start := (← place) - 1
  let negated ← skip '^'
  let items ← setItems o start (fuelOf (← get)) []
  return .set ⟨negated, items, o.caseRule⟩

/-- Counts beyond this one are refused. -/
def countLimit : Nat := 4294967295

/-- The bounds of a repetition in braces, after the opening one; none when the braces hold
something else. -/
def bounds? : Reading (Option (Nat × Option Nat)) := do
  let saved ← get
  if saved.next = ['}'] then return none
  else
    let low ← takeSome Char.isDigit (fuelOf saved)
    let comma ← skip ','
    let high ← if comma then takeSome Char.isDigit (fuelOf saved) else pure low
    if !(← skip '}') then
      set saved
      return none
    else
      let most := if high.isEmpty then none else some (Text.numberIn 10 high)
      return some (Text.numberIn 10 low, most)

/-- Option letters that a group may carry. -/
def optionLetters : List Char := ['i', 'L', 'm', 's', 'x', 'a', 't', 'u']

def Options.on (o : Options) : Char → Options
  | 'i' => { o with ignoreCase := true }
  | 'm' => { o with multiline := true }
  | 's' => { o with dotAll := true }
  | 'x' => { o with verbose := true }
  | 'a' => { o with asciiOnly := true }
  | 'u' => { o with unicode := true }
  | _ => o

/-- Options of a part: the kind of letters that it names replaces the outer one. -/
def Options.within (o : Options) (on off : List Char) : Options :=
  let typed := on.contains 'a' || on.contains 'u'
  let base := if typed then { o with asciiOnly := false, unicode := false } else o
  let o := on.foldl Options.on base
  { o with
    ignoreCase := o.ignoreCase && !off.contains 'i'
    multiline := o.multiline && !off.contains 'm'
    dotAll := o.dotAll && !off.contains 's'
    verbose := o.verbose && !off.contains 'x' }

/-- A letter that is no option, or a mark where one of these was due. -/
def letterFault (c : Char) (due : String) : Fault :=
  if Text.isAlphanumeric c && (Text.decimalValue? c).isNone then .unknownOption
  else .missingAfterOptions due

/-- Letters that are turned on, with the item that ends them. -/
def lettersOn : Nat → List Char → Char → Reading (List Char × Char)
  | 0, got, c => pure (got, c)
  | n + 1, got, c => do
    if c = 'L' then failBefore 0 .localeOption
    else
      let got := got ++ [c]
      if (c = 'a' || c = 'u') && got.contains 'a' && got.contains 'u' then
        failBefore 0 .clashingOptions
      else
        match ← take with
        | [] => failBefore 0 (.missingAfterOptions "-, : or )")
        | [d] =>
          if d = ')' || d = '-' || d = ':' then pure (got, d)
          else if optionLetters.contains d then lettersOn n got d
          else failBefore 1 (letterFault d "-, : or )")
        | item => failBefore item.length (.missingAfterOptions "-, : or )")

/-- Letters that are turned off, up to a colon. -/
def lettersOff : Nat → List Char → Char → Reading (List Char)
  | 0, got, _ => pure got
  | n + 1, got, c => do
    if c = 'a' || c = 'u' || c = 'L' then failBefore 0 .typeOff
    else
      let got := got ++ [c]
      match ← take with
      | [] => failBefore 0 (.missingAfterOptions ":")
      | [d] =>
        if d = ':' then pure got
        else if optionLetters.contains d then lettersOff n got d
        else failBefore 1 (letterFault d ":")
      | item => failBefore item.length (.missingAfterOptions ":")

/-- What the letters after a question mark say: options for the whole pattern, or letters on and
off for one group. -/
def readOptions (first : Char) : Reading (Option (List Char × List Char)) := do
  let fuel := fuelOf (← get)
  let (on, ending) ← if first = '-' then pure ([], '-') else lettersOn fuel [] first
  if ending = ')' then
    modify fun c => { c with options := on.foldl Options.on c.options }
    pure none
  else if on.contains 't' then failBefore 1 .globalOn
  else if ending = '-' then
    match ← take with
    | [] => failBefore 0 (.missingAfterOptions "flag")
    | [d] =>
      if !optionLetters.contains d then
        failBefore 1 (letterFault d "flag")
      else
        let off ← lettersOff fuel [] d
        if off.contains 't' then failBefore 1 .globalOff
        else if on.any off.contains then failBefore 1 .onAndOff
        else pure (some (on, off))
    | item => failBefore item.length (.missingAfterOptions "flag")
  else pure (some (on, []))

/-- Opens a capturing group. -/
def openGroup (title : Option String) : Reading Nat := do
  let c ← get
  let index := c.widths.size
  match title with
  | none =>
    set { c with widths := c.widths.push none }
    return index
  | some t =>
    match c.names.find? (·.1 = t) with
    | some (_, first) => failBefore (t.length + 1) (.redefinedName t index first)
    | none =>
      set { c with widths := c.widths.push none, names := c.names ++ [(t, index)] }
      return index

def closedWidth (widths : Array (Option Width)) (index : Nat) : Width :=
  (widths[index]?.bind id).getD (0, 0)

def closeGroup (index : Nat) (body : List Node) : Reading Unit :=
  modify fun c => { c with
    widths := c.widths.setIfInBounds index (some (widthOf (closedWidth c.widths) body)) }

def checkedName (terminator : Char) : Reading String := do
  let n ← name terminator "group name"
  if isIdentifier n then return n else failBefore (n.length + 1) (.badName n)

def groupNamed (n : String) : Reading Nat := do
  match (← get).names.find? (·.1 = n) with
  | some (_, index) => return index
  | none => failBefore (n.length + 1) (.unknownName n)

/-- Digits of any script, with single low lines between them. -/
def grouped? : List Char → Option (List Nat)
  | [] => none
  | [c] => (Text.decimalValue? c).map ([·])
  | c :: '_' :: cs => do return (← Text.decimalValue? c) :: (← grouped? cs)
  | c :: cs => do return (← Text.decimalValue? c) :: (← grouped? cs)

/-- A group number as written in a condition; a minus sign may only stand before a zero. -/
def conditionNumber? (s : String) : Option Nat :=
  let (negative, ds) := match Text.trimOf Text.isBlank s.toList with
    | '-' :: ds => (true, ds)
    | '+' :: ds => (false, ds)
    | ds => (false, ds)
  let number := (grouped? ds).map fun ds => ds.foldl (fun n d => 10 * n + d) 0
  number.filter fun n => !negative || n = 0

/-- The group that a condition asks for. -/
def conditionGroup : Reading Nat := do
  let n ← name ')' "group name"
  let index ← if isIdentifier n then groupNamed n else
    match conditionNumber? n with
    | none => failBefore (n.length + 1) (.badName n)
    | some 0 => failBefore (n.length + 1) .groupZero
    | some index =>
      if 1073741823 ≤ index then failBefore (n.length + 1) (.noSuchGroup index)
      else
        modify fun c =>
          if c.conditions.any (·.1 = index) then c
          else { c with conditions := c.conditions ++ [(index, c.place - n.length - 1)] }
        pure index
  checkLookBehind index
  return index

/-- Skips a comment in brackets. -/
def skipComment (start : Nat) : Nat → Reading Unit
  | 0 => return
  | n + 1 => do
    if (← peek).isEmpty then failFrom start .unterminatedComment
    else if (← take) = [')'] then return
    else skipComment start n

/-- Skips a comment that reaches to the end of its line. -/
def skipLine : Nat → Reading Unit
  | 0 => return
  | n + 1 => do
    let item ← take
    if item.isEmpty || item = ['\n'] then return else skipLine n

def isRepetition : Node → Bool
  | .loop _ _ _ _ => true
  | _ => false

def isAnchor : Node → Bool
  | .anchor _ => true
  | _ => false

/-- Repeats the last of the parts, which are kept in reverse. -/
def repeatLast (done : List Node) (start width : Nat) (low : Nat) (high : Option Nat) :
    Reading (List Node) := do
  match done with
  | [] => failFrom (start - width) .nothingToRepeat
  | last :: before =>
    if isAnchor last then failFrom (start - width) .nothingToRepeat
    else if isRepetition last then failFrom (start - width) .repeatedTwice
    else
      let greed ← if ← skip '?' then pure Greed.lazy
        else if ← skip '+' then pure Greed.possessive
        else pure Greed.greedy
      return .loop greed low high [last] :: before

/-- What a bracket opens. -/
inductive Opening where
  /-- Nothing to match: a comment, or options of the whole pattern. -/
  | nothing
  | options (changed : Options)
  | part (node : Node)
  | group (title : Option String) (capturing atomic : Bool) (inner : Options)
  | look (behind negated : Bool)
  | condition (index : Nat)

def noBlank (c : Char) : Bool :=
  c = ' ' || c = '\t' || c = '\n' || c = '\r' || c = '\x0b' || c = '\x0c'

/-- What follows a bracket and a question mark. -/
def readExtension (start : Nat) (o : Options) (atStart : Bool) : Reading Opening := do
  match ← take with
  | [] => failBefore 0 .endsInGroup
  | ['P'] =>
    if ← skip '<' then return .group (some (← checkedName '>')) true false o
    else if ← skip '=' then
      let n ← checkedName ')'
      let index ← groupNamed n
      if ((← get).widths[index]?.bind id).isNone then failBefore (n.length + 1) .openGroup
      else
        checkLookBehind index
        return .part (.backReference index o.caseRule)
    else
      match ← take with
      | [] => failBefore 0 .endsInGroup
      | item => failBefore (item.length + 2) (.unknownExtension (String.ofList ('P' :: item)))
  | [':'] => return .group none false false o
  | ['#'] =>
    skipComment start (fuelOf (← get))
    return .nothing
  | ['='] => return .look false false
  | ['!'] => return .look false true
  | ['<'] =>
    match ← take with
    | [] => failBefore 0 .endsInGroup
    | ['='] => return .look true false
    | ['!'] => return .look true true
    | item => failBefore (item.length + 2) (.unknownExtension (String.ofList ('<' :: item)))
  | ['('] => return .condition (← conditionGroup)
  | ['>'] => return .group none false true o
  | [c] =>
    if optionLetters.contains c || c = '-' then
      match ← readOptions c with
      | none => if atStart then return .options (← get).options else failFrom start .lateOptions
      | some (on, off) => return .group none false false (o.within on off)
    else failBefore 2 (.unknownExtension (String.ofList [c]))
  | item => failBefore (item.length + 1) (.unknownExtension (String.ofList item))

mutual

/-- Alternatives up to a closing bracket or the end. -/
def readBranches (top : Bool) : Nat → Options → Reading (List (List Node))
  | 0, _ => return []
  | fuel + 1, o => do
    let first ← readSequence top fuel o []
    let rest ← readMore top fuel o
    return first :: rest

/-- Further alternatives, each after a bar. -/
def readMore (top : Bool) : Nat → Options → Reading (List (List Node))
  | 0, _ => return []
  | fuel + 1, o => do
    if ← skip '|' then
      let c ← get
      let o := if top then c.options else o
      let next ← readSequence false fuel o []
      let rest ← readMore top fuel o
      return next :: rest
    else return []

/-- The parts of one alternative; those already read are given in reverse. Options of the whole
pattern may come only before its first part. -/
def readSequence (leading : Bool) : Nat → Options → List Node → Reading (List Node)
  | 0, _, done => return done.reverse
  | fuel + 1, o, done => do
    let this ← peek
    if this.isEmpty || this = ['|'] || this = [')'] then return done.reverse
    else
      advance
      match this with
      | ['\\', c] =>
        let e ← escapeInText c o
        readSequence leading fuel o (e.node o :: done)
      | [c] =>
        if o.verbose && noBlank c then readSequence leading fuel o done
        else if o.verbose && c = '#' then
          skipLine (fuelOf (← get))
          readSequence leading fuel o done
        else if c = '[' then
          let s ← readSet o
          readSequence leading fuel o (s :: done)
        else if c = '?' || c = '*' || c = '+' then
          let here ← place
          let least := if c = '+' then 1 else 0
          let done ← repeatLast done here 1 least (if c = '?' then some 1 else none)
          readSequence leading fuel o done
        else if c = '{' then
          let here ← place
          match ← bounds? with
          | none => readSequence leading fuel o (literalSet o c.toNat :: done)
          | some (low, high) =>
            if countLimit ≤ low || countLimit ≤ high.getD 0 then throw .countTooLarge
            else if high.any (· < low) then failFrom here .bounds
            else
              let done ← repeatLast done here 1 low high
              readSequence leading fuel o done
        else if c = '.' then
          let items := if o.dotAll then [] else [SetItem.range 10 10]
          readSequence leading fuel o (.set ⟨true, items, .exact⟩ :: done)
        else if c = '^' then
          let a := if o.multiline then Anchor.lineStart else .textStart
          readSequence leading fuel o (.anchor a :: done)
        else if c = '$' then
          let a := if o.multiline then Anchor.lineEnd else .lastLineEnd
          readSequence leading fuel o (.anchor a :: done)
        else if c = '(' then
          let start := (← place) - 1
          let opening ← if ← skip '?' then readExtension start o (leading && done.isEmpty)
            else pure (.group none true false o)
          match opening with
          | .nothing => readSequence leading fuel o done
          | .options changed => readSequence leading fuel changed done
          | .part node => readSequence leading fuel o (node :: done)
          | .group title capturing atomic inner =>
            let index ← if capturing then pure (some (← openGroup title)) else pure none
            let body ← readBody start fuel inner
            match index with
            | some i => closeGroup i body
            | none => pure ()
            let node : Node := if atomic then .atomic body else .group index body
            readSequence leading fuel o (node :: done)
          | .look behind negated =>
            let outer := (← get).lookBehind
            if behind && outer.isNone then
              modify fun c => { c with lookBehind := some c.widths.size }
            let alternatives ← readBranches false fuel o
            if behind && outer.isNone then modify fun c => { c with lookBehind := none }
            if !(← skip ')') then failFrom start .unterminatedGroup
            else
              let body := [Node.branch alternatives]
              let width := widthOf (closedWidth (← get).widths) body
              let node : Node := .look (if behind then some width else none) negated body
              readSequence leading fuel o (node :: done)
          | .condition index =>
            let yes ← readSequence false fuel o []
            let no ← if ← skip '|' then
                let no ← readSequence false fuel o []
                if (← peek) = ['|'] then failBefore 0 .threeBranches else pure no
              else pure []
            if !(← skip ')') then failFrom start .unterminatedGroup
            else readSequence leading fuel o (.conditional index yes no :: done)
        else readSequence leading fuel o (literalSet o c.toNat :: done)
      | _ => return done.reverse

/-- The alternatives of a group and its closing bracket. -/
def readBody (start : Nat) : Nat → Options → Reading (List Node)
  | 0, _ => return []
  | fuel + 1, o => do
    let alternatives ← readBranches false fuel o
    if !(← skip ')') then failFrom start .unterminatedGroup
    else return match alternatives with
      | [body] => body
      | several => [.branch several]

end

/-- Reads a whole pattern. -/
def readPattern (o : Options) : Reading (List Node) := do
  advance
  let c ← get
  let alternatives ← readBranches true (4 * c.size + 8) o
  return match alternatives with
    | [body] => body
    | several => [.branch several]

end Gleaner.Pattern
