import PropertyGen.Names.Metadata
import PropertyGen.Syntax.Declaration

/-!
Using directives: imports of a namespace or type, and aliases. They are read alike from every
shape in which a grammar may give them.
-/

namespace PropertyGen

structure Using where
  target : String
  alias? : Option String
  isGlobal : Bool
  isStatic : Bool
  text : String
deriving DecidableEq, Repr

/-- What a directive is within one declaration space. -/
inductive ImportKey where
  | named (label : String)
  | static (target : String)
  | plain (target : String)
deriving DecidableEq, Repr

def ImportKey.text : ImportKey → String
  | .named label => "alias:" ++ label
  | .static target => "static:" ++ target
  | .plain target => "using:" ++ target

def Using.key (directive : Using) : ImportKey :=
  match directive.alias? with
  | some label => .named label
  | none => if directive.isStatic then .static directive.target else .plain directive.target

def globalMark : String := "global::"

def hasGlobalMark (name : String) : Bool :=
  (Text.dropPrefix? globalMark.toList name.toList).isSome

def withoutGlobalMark (name : String) : String :=
  ((Text.dropPrefix? globalMark.toList name.toList).map String.ofList).getD name

namespace Using

/-- The node that names the alias: inside an equals clause, in the name field, or the first of
several named children around an equals sign. -/
def aliasNode? (node : Node) : Option Node :=
  let named := node.namedChildren.filter fun child => child.kind ≠ "comment"
  match named.find? fun child => child.kind = "name_equals" with
  | some clause => clause.childOr? "name" ["identifier"]
  | none =>
      match node.child? "name" with
      | some name => some name
      | none => if node.hasChild "=" && named.length > 1 then named.head? else none

def targetNode? (node : Node) : Option Node :=
  let isAlias := fun (child : Node) =>
    (aliasNode? node).any fun name => name.start = child.start && name.stop = child.stop
  (node.namedChildren.filter fun child =>
    child.kind ≠ "comment" && child.kind ≠ "name_equals" && !isAlias child).getLast?

/-- A directive without a target is none. -/
def ofNode? (source : Source) (node : Node) : Option Using :=
  (targetNode? node).map fun target =>
    { target := withoutGlobalMark (source.compactText target)
      alias? := (aliasNode? node).map source.text
      isGlobal := node.hasChild "global"
      isStatic := node.hasChild "static"
      text := source.squeezedText node }

end Using

def Source.usingsIn (source : Source) (node : Node) : List Using :=
  (node.namedChildren.filter fun child => child.kind = "using_directive").filterMap
    (Using.ofNode? source)

/-- The global directives of the compilation units, in the order of the sources. -/
def globalUsings (sources : List Source) : List Using :=
  sources.flatMap fun source => (source.usingsIn source.root).filter (·.isGlobal)

end PropertyGen
