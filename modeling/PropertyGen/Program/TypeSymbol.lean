import PropertyGen.Program.Scope

/-!
Declared types and type symbols. A declaration is one part of a type as a source writes it; a
symbol is the type itself. Symbols are identified by their metadata names, and refer to the
type around them and to their interfaces by metadata name.
-/

namespace PropertyGen

structure TypeSymbol where
  metadataName : String
  name : String
  space : String
  kind : String
  typeParameters : String
  containing? : Option String
  interfaces : List String
  locations : List Location
  isExternal : Bool
deriving DecidableEq, Repr

namespace TypeSymbol

def isTopLevel (symbol : TypeSymbol) : Bool := symbol.containing?.isNone

def display (symbol : TypeSymbol) : String := Names.display symbol.metadataName

def arity (symbol : TypeSymbol) : Except Fault Int := Names.arity symbol.metadataName

/-- A type that no source declares, known by its metadata name and kind. -/
def external (metadataName kind : String) : TypeSymbol :=
  { metadataName
    name := String.ofList (Text.beforeFirst '`' (Text.afterLast '.' metadataName.toList))
    space := String.ofList (Text.beforeLast '.' metadataName.toList)
    kind
    typeParameters := ""
    containing? := none
    interfaces := []
    locations := []
    isExternal := true }

end TypeSymbol

structure TypeDeclaration where
  metadataName : String
  name : String
  space : String
  kind : String
  typeParameters : String
  containing? : Option String
  bases : List String
  scope : Scope
  location : Location
deriving DecidableEq, Repr

namespace TypeDeclaration

def kindKeywords : List String := ["class", "struct", "record", "interface"]

/-- The keywords of a declaration, or else what its node kind says. -/
def kindOf (node : Node) : String :=
  let keywords := (node.children.map (·.kind)).filter kindKeywords.contains
  if keywords.isEmpty then
    let kind := node.kind.toList
    let stem := (Text.dropSuffix? "_declaration".toList kind).getD kind
    String.ofList (Text.replaceChar '_' [' '] stem)
  else " ".intercalate keywords

/-- The names in the base list. A base with constructor arguments counts by its name. -/
def basesOf (source : Source) (node : Node) : List String :=
  match node.childOf? ["base_list"] with
  | none => []
  | some list =>
      let bases := list.namedChildren.map fun child =>
        if child.kind = "primary_constructor_base_type" then
          (child.childOr? "type" ["identifier", "qualified_name", "generic_name"]).getD child
        else child
      (bases.filter fun base => base.kind ≠ "argument_list" && base.kind ≠ "comment").map
        source.compactText

def ofSite (source : Source) (globals : List Using) (site : Site) : TypeDeclaration :=
  let scope := source.scope globals site
  let segment := source.typeSegment site.node
  let containing? := scope.enclosing.head?.filter (· ≠ "")
  { metadataName :=
      match containing? with
      | some outer => Names.nest outer segment
      | none => Names.qualify scope.space segment
    name := source.declaredName site.node
    space := scope.space
    kind := kindOf site.node
    typeParameters :=
      let parameters? := site.node.childOr? "type_parameters" ["type_parameter_list"]
      (parameters?.map source.squeezedText).getD ""
    containing?
    bases := basesOf source site.node
    scope
    location := source.location site.node }

def all (source : Source) (globals : List Using) : List TypeDeclaration :=
  (source.sites.filter fun site => site.node.isTypeDeclaration).map (ofSite source globals)

end TypeDeclaration

end PropertyGen
