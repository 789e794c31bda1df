import Gleaner.Xml.Entity

/-!
Namespaces: prefixes stand for the names that are bound to them by the nearest attribute.
-/

namespace Gleaner.Xml

def xmlSpace : String := "http://www.w3.org/XML/1998/namespace"
def xmlnsSpace : String := "http://www.w3.org/2000/xmlns/"

/-- What prefixes are bound to, the nearest binding first. -/
abbrev Scope := List (List Char × String)

def Scope.start : Scope := [("xml".toList, xmlSpace)]

/-- The prefix of a name, or none, and the rest of it. -/
def splitName (name : List Char) : List Char × List Char := (Text.cutAt? ':' name).getD ([], name)

/-- The prefix that an attribute binds; the empty one is for names without prefix. -/
def boundBy? (name : List Char) : Option (List Char) :=
  if name = "xmlns".toList then some []
  else if (splitName name).1 = "xmlns".toList then some (splitName name).2
  else none

/-- Why a binding is refused. -/
def bindingFault? (pre : List Char) (uri : String) : Option Reason :=
  if uri = "" && pre ≠ [] then some .undeclaredPrefix
  else if pre = "xmlns".toList then some .reservedXmlns
  -- a brace would end the namespace in the full names of elements
  else if uri.toList.contains '\x7d' then some .syntaxError
  else if pre = "xml".toList then if uri = xmlSpace then none else some .reservedXml
  else if uri = xmlSpace || uri = xmlnsSpace then some .reservedName
  else none

/-- The namespace of a prefix. -/
def Scope.find? (s : Scope) (pre : List Char) : Option String :=
  (List.find? (fun b => b.1 = pre) s).map (·.2)

/-- The namespace and name of an element. -/
def Scope.element (s : Scope) (written : List Char) : Except Reason (String × String) :=
  let (pre, name) := splitName written
  match s.find? pre with
  | some uri => .ok (uri, String.ofList name)
  | none => if pre.isEmpty then .ok ("", String.ofList name) else .error .unboundPrefix

/-- The first fault among the names of attributes that are no bindings: a name with a prefix has to
differ from the earlier ones in full. Names without prefix are in no namespace. -/
def Scope.attributeFault? (s : Scope) (seen : List (String × String)) :
    List (List Char) → Option Reason
  | [] => none
  | name :: names =>
    if (splitName name).1.isEmpty then s.attributeFault? seen names
    else match s.element name with
      | .error r => some r
      | .ok full =>
        if seen.contains full then some .duplicateAttribute
        else s.attributeFault? (full :: seen) names

/-- The attributes of a tag as far as they are read: all their names, the bindings, and the names
that are to be looked up. -/
structure Reading where
  seen : List (List Char)
  scope : Scope
  names : List (List Char)

/-- Takes an attribute with its value. -/
def Reading.add (r : Reading) (name value : List Char) : Except Reason Reading :=
  match boundBy? name with
  | none => .ok { r with seen := name :: r.seen, names := r.names ++ [name] }
  | some pre =>
    let uri := String.ofList value
    match bindingFault? pre uri with
    | some reason => .error reason
    | none => .ok { r with seen := name :: r.seen, scope := (pre, uri) :: r.scope }

variable [Alphabet]

def atPlace {β : Type} (left : Nat) : Except Reason β → Except Fault β :=
  Except.mapError fun r => ⟨r, left⟩

/-- Takes the attributes that a tag gives. -/
def Reading.given (d : Doctype) (element : List Char) (left : Nat) :
    Reading → List Attribute → Except Fault Reading
  | r, [] => .ok r
  | r, a :: rest =>
    if r.seen.contains a.name then .error ⟨.duplicateAttribute, a.left⟩
    else do
      let value ← d.value element a.name a.value a.leftAfter left
      let r ← atPlace left (r.add a.name value)
      r.given d element left rest

/-- Takes the attributes that a tag does not give, but that have a value all the same. -/
def Reading.defaults (r : Reading) : List Rule → Except Reason Reading
  | [] => .ok r
  | rule :: rest => match rule.value with
    | none => r.defaults rest
    | some value =>
      if r.seen.contains rule.name then r.defaults rest
      else (r.add rule.name value) >>= fun r => r.defaults rest

end Gleaner.Xml
