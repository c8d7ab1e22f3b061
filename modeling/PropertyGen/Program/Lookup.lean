import PropertyGen.Names.TypeName
import PropertyGen.Program.Scope
import PropertyGen.Reports.Note

/-!
What a type name binds to in a scope. The types and namespaces known by name are all that
lookup needs to know of a program.
-/

namespace PropertyGen

structure KnownNames where
  types : List String
  spaces : List String
deriving Repr

namespace KnownNames

def inType? (known : KnownNames) (current : String) : List String → Option String
  | [] => some current
  | segment :: rest =>
      let nested := Names.nest current segment
      if known.types.contains nested then known.inType? nested rest else none

/-- The type reached from a namespace; a type wins over a namespace of the same name. -/
def inSpace? (known : KnownNames) (current : String) : List String → Option String
  | [] => none
  | segment :: rest =>
      let candidate := Names.qualify current segment
      if known.types.contains candidate then known.inType? candidate rest
      else if known.spaces.contains candidate then known.inSpace? candidate rest
      else none

def absolute? (known : KnownNames) (segments : List String) : Option String :=
  known.inSpace? "" segments

end KnownNames

/-- How one place of the search ends: it leaves the name open, or it settles it, perhaps with
no type. Imports settle a name with the first candidate. -/
inductive Outcome where
  | undecided
  | settled (type? : Option String)
  | imported (candidates : List String) (type? : Option String)
deriving DecidableEq, Repr

def Outcome.type? : Outcome → Option String
  | .undecided => none
  | .settled type? => type?
  | .imported _ type? => type?

def Outcome.notes (name : String) : Outcome → List Note
  | .imported (first :: more) _ =>
      if more.any (· ≠ first) then [.ambiguousName name (first :: more)] else []
  | _ => []

namespace KnownNames

variable (known : KnownNames)

/-- The first of the aliases with a name that leads to a type. -/
def viaAlias? (usings : List Using) (head : String) (rest : List String) : Option String :=
  usings.findSome? fun directive =>
    if directive.alias? = some head then known.absolute? (Names.segments directive.target ++ rest)
    else none

def importedTypes (usings : List Using) (head : String) : List String :=
  (usings.filter fun directive => directive.alias?.isNone).filterMap fun directive =>
    let candidate := Names.qualify directive.target head
    if known.types.contains candidate then some candidate else none

def atLevel (level : Level) (head : String) (rest : List String) : Outcome :=
  let qualified := Names.qualify level.space head
  if known.types.contains qualified then .settled (known.inType? qualified rest)
  else
    let viaSpace :=
      if known.spaces.contains qualified then known.inSpace? qualified rest else none
    match viaSpace <|> known.viaAlias? level.usings head rest with
    | some type => .settled (some type)
    | none =>
        match known.importedTypes level.usings head with
        | [] => .undecided
        | first :: more => .imported (first :: more) (known.inType? first rest)

def atLevels (head : String) (rest : List String) : List Level → Outcome
  | [] => .undecided
  | level :: outer =>
      match known.atLevel level head rest with
      | .undecided => atLevels head rest outer
      | outcome => outcome

/-- The enclosing types come before all levels. -/
def search (scope : Scope) : List String → Outcome
  | [] => .undecided
  | head :: rest =>
      match scope.enclosing.find? fun type => known.types.contains (Names.nest type head) with
      | some type => .settled (known.inType? (Names.nest type head) rest)
      | none => known.atLevels head rest scope.levels

end KnownNames

inductive Request where
  | absolute (segments : List String)
  | relative (segments : List String)
deriving DecidableEq, Repr

def Request.segments : Request → List String
  | .absolute segments => segments
  | .relative segments => segments

def Request.mapSegments (change : List String → List String) : Request → Request
  | .absolute segments => .absolute (change segments)
  | .relative segments => .relative (change segments)

def splitQualifier? : List Char → Option (List Char × List Char)
  | ':' :: ':' :: rest => some ([], rest)
  | character :: rest =>
      (splitQualifier? rest).map fun (label, name) => (character :: label, name)
  | [] => none

def Scope.aliasTarget? (scope : Scope) (label : String) : Option String :=
  ((scope.levels.flatMap (·.usings)).find? fun directive => directive.alias? = some label).map
    (·.target)

/-- Reads a name in a scope. An alias before a double colon is replaced by its target. -/
def Scope.request? (scope : Scope) (name : String) : Option Request :=
  let compact := Text.compact name
  let text := withoutGlobalMark compact
  match splitQualifier? text.toList with
  | some (label, rest) =>
      (scope.aliasTarget? (String.ofList label)).map fun target =>
        .absolute (Names.segments (target ++ "." ++ String.ofList rest))
  | none =>
      if hasGlobalMark compact then some (.absolute (Names.segments text))
      else some (.relative (Names.segments text))

/-- What a name is looked up for. An attribute may be written without its suffix. -/
inductive NameUse where
  | type
  | attribute
deriving DecidableEq, Repr

def attributeSuffix : String := "Attribute"

def suffixed (segments : List String) : List String :=
  match segments.getLast? with
  | none => []
  | some last => segments.dropLast ++ [last ++ attributeSuffix]

def NameUse.variants (use : NameUse) (request : Request) : List Request :=
  if request.segments.isEmpty then []
  else match use with
    | .type => [request]
    | .attribute => [request.mapSegments suffixed, request]

namespace KnownNames

variable (known : KnownNames)

def answer (scope : Scope) : Request → Outcome
  | .absolute segments => .settled (known.absolute? segments)
  | .relative segments => known.search scope segments

def requests (use : NameUse) (name : String) (scope : Scope) : List Request :=
  match scope.request? name with
  | none => []
  | some request => use.variants request

/-- The metadata name of the type that a name binds to in a scope. -/
def resolve? (use : NameUse) (name : String) (scope : Scope) : Option String :=
  (requests use name scope).findSome? fun request => (known.answer scope request).type?

def notesOf (scope : Scope) : List Request → List Note
  | [] => []
  | request :: rest =>
      let outcome := known.answer scope request
      let notes := outcome.notes ((request.segments.head?).getD "")
      if outcome.type?.isSome then notes else notes ++ notesOf scope rest

def resolveNotes (use : NameUse) (name : String) (scope : Scope) : List Note :=
  known.notesOf scope (requests use name scope)

end KnownNames

end PropertyGen
