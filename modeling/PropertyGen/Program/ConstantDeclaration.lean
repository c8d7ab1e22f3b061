import PropertyGen.Constant.Expression
import PropertyGen.Program.Scope

/-!
Declarations of constants: a key made of the declaring type and the name, and the site of the
initialiser, which is folded in the scope where it stands.
-/

namespace PropertyGen

structure ConstantDeclaration where
  key : String
  source : Source
  site : Site
deriving Repr

namespace ConstantDeclaration

def expression (declaration : ConstantDeclaration) : Expression :=
  Expression.ofNode declaration.source declaration.site.node

def scope (globals : List Using) (declaration : ConstantDeclaration) : Scope :=
  declaration.source.scope globals declaration.site

/-- The initialiser of a declarator: the value of its equals clause, or what stands last after
an equals sign. An equals sign with nothing after it is a fault. -/
def initializer? (declarator : Site) : Except Fault (Option Site) :=
  match declarator.namedChildren.find? fun child => child.node.kind = "equals_value_clause" with
  | some clause => .ok clause.namedChildren.getLast?
  | none =>
      if declarator.node.hasChild "=" then
        match declarator.namedChildren.getLast? with
        | some value => .ok (some value)
        | none => .error .emptySequence
      else .ok none

def ofField (source : Source) (globals : List Using) (field : Site) :
    Except Fault (List ConstantDeclaration) :=
  match (source.scope globals field).enclosing with
  | [] => .ok []
  | type :: _ => do
      let constants ← field.declarators.mapM fun declarator => do
        let value? ← initializer? declarator
        pure (match declarator.node.childOr? "name" ["identifier"], value? with
          | some name, some site =>
              some { key := Names.member type (source.text name), source, site }
          | _, _ => none)
      pure (constants.filterMap id)

def isConstant (source : Source) (field : Site) : Bool :=
  field.node.kind = "field_declaration" && (source.modifiers field.node).contains "const"

def all (source : Source) (globals : List Using) : Except Fault (List ConstantDeclaration) := do
  let fields ← (source.sites.filter (isConstant source)).mapM (ofField source globals)
  pure fields.flatten

end ConstantDeclaration

end PropertyGen
