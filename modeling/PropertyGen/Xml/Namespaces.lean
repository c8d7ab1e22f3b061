import PropertyGen.Text.Pieces
import PropertyGen.Xml.Token

/-!
Namespaces: what the attributes of an opening tag bind, and whether every prefix is bound and
every attribute is given once.
-/

namespace PropertyGen.Xml

/-- Prefixes with their namespaces, innermost first. The empty prefix is the default. -/
abbrev Bindings := List (List Char × List Char)

def xmlPrefix : List Char := "xml".toList

def declaringPrefix : List Char := "xmlns".toList

def namespaceOnHost (path : List String) : List Char :=
  ("/".intercalate (["http:", "", "www.w3.org"] ++ path)).toList

def xmlNamespace : List Char := namespaceOnHost ["XML", "1998", "namespace"]

/-- The namespace of the prefix that declares prefixes; nothing may be bound to it. -/
def declaringNamespace : List Char := namespaceOnHost ["2000", "xmlns", ""]

def Bindings.initial : Bindings := [(xmlPrefix, xmlNamespace)]

def namespaceSeparator : Char := '}'

def qualifier? (name : List Char) : Option (List Char) :=
  if name.contains ':' then some (Text.beforeFirst ':' name) else none

def declared? (name : List Char) : Option (List Char) :=
  if name = declaringPrefix then some []
  else if qualifier? name = some declaringPrefix then some (Text.afterFirst ':' name)
  else none

def bindingFault? (qualifier name : List Char) : Option FaultKind :=
  if name = [] ∧ qualifier ≠ [] then some .undeclaredPrefix
  else if qualifier = declaringPrefix then some .reservedDeclaringPrefix
  else if name.contains namespaceSeparator then some .separatorInNamespace
  else if qualifier = xmlPrefix then
    if name = xmlNamespace then none else some .reservedXmlPrefix
  else if name = xmlNamespace ∨ name = declaringNamespace then some .reservedNamespace
  else none

/-- The text of an attribute value. Line ends and other spaces are spaces, two characters of one
line end are one. -/
def valueText (tag : List Char) : List Chunk → Except DocumentFault (List Char)
  | [] => .ok []
  | .plain '\r' :: .plain '\n' :: rest => (valueText tag rest).map (' ' :: ·)
  | .plain character :: rest =>
      (valueText tag rest).map ((if isSpace character then ' ' else character) :: ·)
  | .reference target start :: rest =>
      match target.character with
      | .ok character => (valueText tag rest).map (character :: ·)
      | .error .undefinedEntity => .error { kind := .undefinedEntity, start := tag }
      | .error kind => .error { kind, start }

def bindAll (tag : List Char) (seen : List (List Char)) (bindings : Bindings) :
    List Attribute → Except DocumentFault Bindings
  | [] => .ok bindings
  | given :: rest =>
      if seen.contains given.name then
        .error { kind := .duplicateAttribute, start := given.start }
      else
        match valueText tag given.value with
        | .error fault => .error fault
        | .ok value =>
            match declared? given.name with
            | none => bindAll tag (given.name :: seen) bindings rest
            | some qualifier =>
                match bindingFault? qualifier value with
                | some kind => .error { kind, start := tag }
                | none => bindAll tag (given.name :: seen) ((qualifier, value) :: bindings) rest

def lookup? (bindings : Bindings) (qualifier : List Char) : Option (List Char) :=
  (bindings.find? fun binding => binding.1 = qualifier).map (·.2)

def expand (bindings : Bindings) (name : List Char) :
    Except FaultKind (Option (List Char × List Char)) :=
  match qualifier? name with
  | none => .ok none
  | some qualifier =>
      match lookup? bindings qualifier with
      | none => .error .unboundPrefix
      | some found => .ok (some (found, Text.afterFirst ':' name))

/-- Checks the prefixed attributes of a tag: bound prefixes and no expanded name twice. -/
def checkExpanded (bindings : Bindings) (seen : List (List Char × List Char)) :
    List Attribute → Except FaultKind Unit
  | [] => .ok ()
  | given :: rest =>
      if (declared? given.name).isSome then checkExpanded bindings seen rest
      else
        match expand bindings given.name with
        | .error kind => .error kind
        | .ok none => checkExpanded bindings seen rest
        | .ok (some name) =>
            if seen.contains name then .error .duplicateAttribute
            else checkExpanded bindings (name :: seen) rest

def enter (tag : List Char) (around : Bindings) (name : List Char) (attributes : List Attribute) :
    Except DocumentFault Bindings :=
  match bindAll tag [] around attributes with
  | .error fault => .error fault
  | .ok bindings =>
      match checkExpanded bindings [] attributes, expand bindings name with
      | .error kind, _ => .error { kind, start := tag }
      | .ok (), .error kind => .error { kind, start := tag }
      | .ok (), .ok _ => .ok bindings

end PropertyGen.Xml
