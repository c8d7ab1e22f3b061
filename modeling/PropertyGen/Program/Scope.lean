import PropertyGen.Program.Using

/-!
The scope of a site: the types around it and, level by level, the namespaces around it with
their using directives, innermost first.
-/

namespace PropertyGen

structure Level where
  space : String
  usings : List Using
deriving DecidableEq, Repr

structure Scope where
  enclosing : List String
  levels : List Level
deriving DecidableEq, Repr

def Scope.space (scope : Scope) : String :=
  match scope.levels with
  | [] => ""
  | level :: _ => level.space

/-- The directives of all levels that are not global, innermost first. -/
def Scope.localUsings (scope : Scope) : List Using :=
  (scope.levels.flatMap (·.usings)).filter fun directive => !directive.isGlobal

def Source.typeSegment (source : Source) (node : Node) : String :=
  let name := source.declaredName node
  match node.childOr? "type_parameters" ["type_parameter_list"] with
  | none => name
  | some parameters =>
      let arity :=
        (parameters.namedChildren.filter fun child => child.kind = "type_parameter").length
      if arity = 0 then name else name ++ "`" ++ toString arity

/-- What the ancestors of a node declare: type segments and namespace blocks from the inside
out, and the directives of the compilation unit. -/
structure Surroundings where
  types : List String
  spaces : List (String × List Using)
  unitUsings : List Using

namespace Surroundings

def none : Surroundings := { types := [], spaces := [], unitUsings := [] }

def addType (surroundings : Surroundings) (segment : String) : Surroundings :=
  { surroundings with types := surroundings.types ++ [segment] }

def addSpace (surroundings : Surroundings) (name : String) (usings : List Using) : Surroundings :=
  { surroundings with spaces := surroundings.spaces ++ [(name, usings)] }

def fileScopedBefore? (unit : Node) (offset : Nat) : Option Node :=
  unit.namedChildren.find? fun child =>
    child.kind = "file_scoped_namespace_declaration" && child.stop ≤ offset

/-- Takes one more ancestor into account. A file-scoped namespace may stand beside its members;
it counts where no other namespace does. -/
def addAncestor (source : Source) (offset : Nat) (surroundings : Surroundings) (ancestor : Node) :
    Surroundings :=
  if ancestor.isTypeDeclaration then surroundings.addType (source.typeSegment ancestor)
  else if ancestor.kind = "namespace_declaration" then
    surroundings.addSpace (source.declaredName ancestor)
      ((ancestor.body?.map source.usingsIn).getD [])
  else if ancestor.kind = "file_scoped_namespace_declaration" then
    surroundings.addSpace (source.declaredName ancestor) (source.usingsIn ancestor)
  else if ancestor.kind = "compilation_unit" then
    let surroundings := { surroundings with unitUsings := source.usingsIn ancestor }
    if surroundings.spaces.isEmpty then
      match fileScopedBefore? ancestor offset with
      | some declaration => surroundings.addSpace (source.declaredName declaration) []
      | Option.none => surroundings
    else surroundings
  else surroundings

def ofSite (source : Source) (site : Site) : Surroundings :=
  site.ancestors.foldl (addAncestor source site.node.start) none

def declaredSpaces (surroundings : Surroundings) : List (String × List Using) :=
  (surroundings.spaces.reverse.foldl
    (fun (outer, declared) (name, usings) =>
      let full := Names.qualify outer name
      (full, declared ++ [(full, usings)]))
    ("", [])).2

def space (surroundings : Surroundings) : String :=
  surroundings.spaces.reverse.foldl (fun outer block => Names.qualify outer block.1) ""

/-- The directives declared for a namespace; of two blocks of one full name the inner one. -/
def usingsOf (declared : List (String × List Using)) (space : String) : List Using :=
  ((declared.reverse.find? fun block => block.1 = space).map (·.2)).getD []

def levels (surroundings : Surroundings) (globals : List Using) : List Level :=
  let isLocal := fun (directive : Using) => !directive.isGlobal
  let inner := (Names.spacesAround surroundings.space).reverse.map fun space =>
    { space, usings := (usingsOf surroundings.declaredSpaces space).filter isLocal : Level }
  inner ++ [{ space := "", usings := surroundings.unitUsings.filter isLocal ++ globals }]

def nestedNames (space : String) : List String → List String
  | [] => []
  | outermost :: inner =>
      let first := Names.qualify space outermost
      first :: nestFrom first inner
where
  nestFrom (outer : String) : List String → List String
    | [] => []
    | segment :: rest => Names.nest outer segment :: nestFrom (Names.nest outer segment) rest

def scope (surroundings : Surroundings) (globals : List Using) : Scope :=
  { enclosing := (nestedNames surroundings.space surroundings.types.reverse).reverse
    levels := surroundings.levels globals }

end Surroundings

def Source.scope (source : Source) (globals : List Using) (site : Site) : Scope :=
  (Surroundings.ofSite source site).scope globals

end PropertyGen
