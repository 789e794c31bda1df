import Gleaner.Selector.Language
import Gleaner.Decimal.Text

/-!
States of elements: by their place in the tree, and by their role in links and forms.
-/

namespace Gleaner.Selector

open Markup

/-- The first of the outermost elements. -/
def rootOf? (p : Place) : Option Place :=
  let whole := ((p :: p.ancestors).getLast?).getD p
  whole.children.head?

/-- The root of the page, or of what a frame holds. -/
def isRootElement (p : Place) : Bool :=
  (rootOf? p).any (fun r => r.address = p.address && !p.isWhole) || p.parent?.any isFrame

def isSpace (c : Char) : Bool := c = ' ' || c = '\t' || c = '\r' || c = '\n' || c = '\x0c'

/-- Nodes beside which an element is not alone. -/
def isCompany : Node → Bool
  | .element _ _ _ => true
  | .text _ s => !s.toList.all Text.isBlank
  | .rawSection _ => true
  | _ => false

def isRoot (p : Place) : Bool :=
  isRootElement p && !(p.before.any isCompany) && !(p.after.any isCompany)

def isEmpty (p : Place) : Bool :=
  p.element.children.all fun
    | .element _ _ _ => false
    | .text _ s => s.toList.all isSpace
    | _ => true

def tagOf (p : Place) : String := Text.lowerAscii p.tag

def isOneOf (p : Place) (tags : List String) : Bool := tags.contains (tagOf p)

def has (p : Place) (name : String) : Bool := (attributeNamed? p name).isSome

def value (p : Place) (name : String) : String := (attributeNamed? p name).getD ""

/-- Whether the type of an element is one of some words; case does not count. -/
def hasType (p : Place) (kinds : List String) : Bool :=
  (attributeNamed? p "type").any fun t => kinds.contains (Text.lower t)

def isControl (p : Place) : Bool :=
  (tagOf p = "input" && !hasType p ["hidden"]) ||
    isOneOf p ["button", "select", "textarea", "fieldset"]

def isOffSwitch (p : Place) : Bool := tagOf p = "fieldset" && has p "disabled"

/-- The first legend among its siblings. -/
def isFirstLegend (p : Place) : Bool :=
  tagOf p = "legend" && !(p.earlier.any fun q => tagOf q = "legend")

def isDisabled (p : Place) : Bool :=
  ((isControl p || isOneOf p ["optgroup", "option"]) && has p "disabled") ||
    (tagOf p = "option" &&
      (unframedParent? p).any fun q => tagOf q = "optgroup" && has q "disabled") ||
    (isControl p && (unframedParent? p).any isOffSwitch) ||
    (isControl p && (unframedAncestors p).any fun q =>
      !isFirstLegend q && (unframedParent? q).any isOffSwitch)

def isEnabled (p : Place) : Bool :=
  (isControl p || isOneOf p ["optgroup", "option"]) && !isDisabled p

def isChecked (p : Place) : Bool :=
  (tagOf p = "input" && hasType p ["checkbox", "radio"] && has p "checked") ||
    (tagOf p = "option" && has p "selected")

/-- All elements in this one, but for those in frames. -/
def unframedDescendants (p : Place) : List Place :=
  if isFrame p then []
  else p.descendants.filter fun q =>
    ((q.ancestors.take (q.address.length - p.address.length - 1)).all (!isFrame ·))

/-- The form around an element. -/
def form? (p : Place) : Option Place := (unframedAncestors p).find? fun q => tagOf q = "form"

/-- The form around an element, or the outermost place that no frame keeps apart. -/
def formOrWhole (p : Place) : Option Place := (form? p).or (unframedAncestors p).getLast?

/-- Elements in a form up to the next form in it. -/
def inForm (form : Place) : List Place :=
  (unframedDescendants form).takeWhile fun q => tagOf q ≠ "form"

/-- The button that sends a form when none is chosen. -/
def isDefaultButton (p : Place) : Bool :=
  isOneOf p ["button", "input"] && hasType p ["submit"] &&
    (form? p).any fun form =>
      ((inForm form).find? fun q =>
        isOneOf q ["input", "button"] && Text.lowerAscii (value q "type") = "submit").any
          fun q => q.address = p.address

def isDefault (p : Place) : Bool := isChecked p || isDefaultButton p

def isRadioNamed (name : String) (p : Place) : Bool :=
  tagOf p = "input" && Text.lowerAscii (value p "type") = "radio" &&
    attributeNamed? p "name" = some name

/-- Whether no radio button of the same name in the form is checked. -/
def isUndecided (p : Place) : Bool :=
  match formOrWhole p with
  | none => false
  | some form => !((unframedDescendants form).any fun q =>
      q.address ≠ p.address && isRadioNamed (value p "name") q && has q "checked" &&
        (formOrWhole q).any fun f => f.address = form.address)

def isIndeterminate (p : Place) : Bool :=
  (tagOf p = "input" && hasType p ["checkbox"] && has p "indeterminate") ||
    (tagOf p = "progress" && !has p "value") ||
    (tagOf p = "input" && hasType p ["radio"] && !has p "checked" &&
      (value p "name" = "" || isUndecided p))

def textKinds : List String := ["", "text", "search", "url", "tel", "email", "password", "number"]

def dateKinds : List String := ["date", "datetime-local", "month", "time", "week"]

def isOfKind (p : Place) (kinds : List String) : Bool :=
  !has p "type" && kinds.contains "" || hasType p kinds

/-- All text in an element, comments and raw sections apart. -/
def allText (p : Place) : String :=
  String.ofList (textOfNodes p.element.children)
where
  textOfNodes : List Node → List Char
    | [] => []
    | .text _ s :: rest => s.toList ++ textOfNodes rest
    | .element _ _ children :: rest => textOfNodes children ++ textOfNodes rest
    | _ :: rest => textOfNodes rest

def showsPlaceholder (p : Place) : Bool :=
  value p "placeholder" ≠ "" &&
    ((tagOf p = "input" && isOfKind p textKinds && value p "value" = "") ||
      (tagOf p = "textarea" && (allText p = "" || allText p = "\n")))

def isEditable (p : Place) : Bool :=
  ((tagOf p = "textarea" || (tagOf p = "input" && isOfKind p (textKinds ++ dateKinds))) &&
      !has p "readonly" && !isDisabled p) ||
    (attributeNamed? p "contenteditable").any fun v => v = "" || Text.lower v = "true"

/-- Elements whose kind is known: the names of others have a hyphen. -/
def isDefined (p : Place) : Bool :=
  let name := (tagOf p).toList
  !name.contains '-' || name.contains ':'

def isLeapYear (y : Nat) : Bool := (y % 4 = 0 && y % 100 ≠ 0) || y % 400 = 0

def daysIn (year month : Nat) : Nat :=
  if month = 2 then if isLeapYear year then 29 else 28
  else if [4, 6, 9, 11].contains month then 30 else 31

/-- The day of the week on which a year ends, counted from Sunday. -/
def lastWeekday (y : Nat) : Nat := (y + y / 4 - y / 100 + y / 400) % 7

/-- A year has a week 53 if it ends on a Thursday or starts on one; where the last day belongs to
the next year, 53 weeks are allowed for too. -/
def weeksIn (y : Nat) : Nat :=
  let last := lastWeekday y
  if last = 1 || last = 2 || last = 3 then 53
  else if last = 4 || lastWeekday (y - 1) = 3 then 53 else 52

def naturals? (cs : List Char) : Option Nat :=
  if cs.isEmpty || !cs.all Char.isDigit then none else some (Decimal.natOf cs)

def twoDigits? (cs : List Char) : Option Nat := if cs.length = 2 then naturals? cs else none

def year? (cs : List Char) : Option Nat :=
  if 4 ≤ cs.length then (naturals? cs).filter (1 ≤ ·) else none

def month? (cs : List Char) : Option Nat := (twoDigits? cs).filter fun m => 1 ≤ m && m ≤ 12

def day? (year month : Nat) (cs : List Char) : Option Nat :=
  (twoDigits? cs).filter fun d => 1 ≤ d && d ≤ daysIn year month

def clock? (cs : List Char) : Option (List Nat) :=
  match Text.splitAt ':' cs with
  | [h, m] => do
    let h ← (twoDigits? h).filter (· ≤ 23)
    let m ← (twoDigits? m).filter (· ≤ 59)
    return [h, m]
  | _ => none

def date? (cs : List Char) : Option (List Nat) :=
  match Text.splitAt '-' cs with
  | [y, m, d] => do
    let y ← year? y
    let m ← month? m
    let d ← day? y m d
    return [y, m, d]
  | _ => none

/-- A point on the scale of an input. -/
inductive Amount where
  | number (x : Float)
  | parts (ns : List Nat)

def lessParts : List Nat → List Nat → Bool
  | [], [] => false
  | [], _ :: _ => true
  | _ :: _, [] => false
  | a :: as, b :: bs => a < b || (a = b && lessParts as bs)

def Amount.less : Amount → Amount → Bool
  | number x, number y => x < y
  | parts a, parts b => lessParts a b
  | _, _ => false

/-- A number without sign of plus and without exponent. -/
def plainNumber? (cs : List Char) : Option Float :=
  let body := match cs with
    | '-' :: r => r
    | r => r
  let ok := body.all (fun c => c.isDigit || c = '.') && (body.getLast?).any Char.isDigit
  if ok then (Decimal.literal? cs).map Decimal.Literal.toFloat else none

/-- Reads a value of an input of a kind; one line end may follow it. -/
def amount? (kind : String) (s : String) : Option Amount :=
  let cs := match s.toList.reverse with
    | '\n' :: r => r.reverse
    | _ => s.toList
  if kind = "date" then (date? cs).map .parts
  else if kind = "month" then match Text.splitAt '-' cs with
    | [y, m] => do return .parts [← year? y, ← month? m]
    | _ => none
  else if kind = "week" then match Text.splitAt '-' cs with
    | [y, 'W' :: w] => do
      let y ← year? y
      let w ← (twoDigits? w).filter fun w => 1 ≤ w && w ≤ weeksIn y
      return .parts [y, w]
    | _ => none
  else if kind = "time" then (clock? cs).map .parts
  else if kind = "datetime-local" then match Text.splitAt 'T' cs with
    | [d, t] => do return .parts ((← date? d) ++ (← clock? t))
    | _ => none
  else if kind = "number" || kind = "range" then (plainNumber? cs).map .number
  else none

/-- Kinds of input with a scale. -/
def scaleKinds : List String :=
  ["date", "month", "week", "time", "datetime-local", "number", "range"]

/-- Whether the value of an input lies beyond its bounds; none if it has no bounds. Times go round:
where the least one is the later one, the hours between them are out. -/
def beyond? (p : Place) : Option Bool :=
  let kind := Text.lowerAscii (value p "type")
  if !(tagOf p = "input" && hasType p scaleKinds && (has p "min" || has p "max")) then none
  else
    let amount (name : String) := (attributeNamed? p name).bind (amount? kind)
    match amount "min", amount "max" with
    | none, none => none
    | low, high => some <| match amount "value" with
      | none => false
      | some v =>
        let isBelow := low.any v.less
        let isAbove := high.any (·.less v)
        match low, high with
        | some a, some b =>
          if kind = "time" && b.less a then isBelow && isAbove else isBelow || isAbove
        | _, _ => isBelow || isAbove

/-- Whether an element is in a state. -/
def State.holds (p : Place) : State → Bool
  | root => isRoot p
  | scope => (rootOf? p).any fun r => r.address = p.address && !p.isWhole
  | empty => isEmpty p
  | defined => isDefined p
  | link => isOneOf p ["a", "area"] && has p "href"
  | checked => isChecked p
  | default => isDefault p
  | indeterminate => isIndeterminate p
  | disabled => isDisabled p
  | enabled => isEnabled p
  | required => isOneOf p ["input", "select", "textarea"] && has p "required"
  | optional => isOneOf p ["input", "select", "textarea"] && !has p "required"
  | readOnly => !isEditable p
  | readWrite => isEditable p
  | inRange => beyond? p = some false
  | outOfRange => beyond? p = some true
  | placeholderShown => showsPlaceholder p
  | opened => isOneOf p ["details", "dialog"] && has p "open"
  | muted => isOneOf p ["video", "audio"] && has p "muted"

end Gleaner.Selector
