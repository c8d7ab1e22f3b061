import PropertyGen.Documentation.Comment
import PropertyGen.Program.Constants

/-!
The fields of a program: what a declarator in a field declaration declares, with the
attributes of the declaration and the values of their arguments.
-/

namespace PropertyGen

structure AttributeUse where
  type? : Option String
  positional : List Folding
  named : List (String × Folding)
  location? : Option Location
deriving DecidableEq, Repr

def AttributeUse.argument? (used : AttributeUse) (name : String) : Option Folding :=
  (used.named.find? fun argument => argument.1 = name).map (·.2)

structure FieldSymbol where
  name : String
  type : String
  containing : TypeSymbol
  attributes : List AttributeUse
  modifiers : List String
  documentation? : Option String
  location : Location
  usings : List Using
deriving DecidableEq, Repr

namespace FieldSymbol

def isStatic (field : FieldSymbol) : Bool := field.modifiers.contains "static"

def isConst (field : FieldSymbol) : Bool := field.modifiers.contains "const"

def isReadonly (field : FieldSymbol) : Bool := field.modifiers.contains "readonly"

def display (field : FieldSymbol) : String := field.containing.display ++ "." ++ field.name

end FieldSymbol

structure Argument where
  name? : Option String
  value : Node
deriving Repr

namespace Argument

/-- The name an argument gets from an equals clause or from standing before an equals sign; the
last of these counts. -/
def writtenName? (source : Source) (node : Node) : Option String :=
  node.children.foldl
    (fun name? child =>
      if child.kind = "name_equals" then (child.childOr? "name" ["identifier"]).map source.text
      else if child.kind = "=" && node.namedChildren.length > 1 then
        node.namedChildren.head?.map source.text
      else name?)
    none

def assignment? (node : Node) : Option (Node × Node) :=
  if node.kind = "assignment_expression" then
    match node.child? "left", node.child? "right" with
    | some left, some right => if left.kind = "identifier" then some (left, right) else none
    | _, _ => none
  else none

def ofNode? (source : Source) (node : Node) : Option Argument :=
  if node.kind = "attribute_argument" then
    node.namedChildren.getLast?.map fun value =>
      match writtenName? source node with
      | some name => { name? := some name, value }
      | none =>
          match assignment? value with
          | some (left, right) => { name? := some (source.text left), value := right }
          | none => { name? := none, value }
  else none

def allOf (source : Source) (node : Node) : List Argument :=
  match node.childOf? ["attribute_argument_list"] with
  | none => []
  | some list => list.namedChildren.filterMap (ofNode? source)

end Argument

namespace Program

variable (program : Program)

def argumentValue (source : Source) (scope : Scope) (argument : Argument) :
    Logged (Option String × Folding) := do
  let folding ← (Expression.ofNode source argument.value).fold fun name =>
    program.constantValue name scope
  pure (argument.name?, folding)

/-- One attribute in the scope of its field. An attribute without a name is none. -/
def attributeUse? (source : Source) (scope : Scope) (node : Node) : Logged (Option AttributeUse) :=
  match node.childOr? "name" ["identifier", "qualified_name", "alias_qualified_name"] with
  | none => pure none
  | some nameNode => do
      let name := source.compactText nameNode
      Logged.emit ((program.known.resolveNotes .attribute name scope).map .note)
      let arguments ←
        Logged.forEach (program.argumentValue source scope) (Argument.allOf source node)
      pure (some
        { type? := (program.resolveName? .attribute name scope).filter fun type =>
            (program.type? type).isSome
          positional := (arguments.filter (·.1.isNone)).map (·.2)
          named := arguments.filterMap fun argument => argument.1.map fun name => (name, argument.2)
          location? := some (source.location node) })

def attributesOf (source : Source) (scope : Scope) (field : Node) : Logged (List AttributeUse) := do
  let lists := field.namedChildren.filter fun child => child.kind = "attribute_list"
  let nodes := lists.flatMap fun list =>
    list.namedChildren.filter fun child => child.kind = "attribute"
  let attributes ← Logged.forEach (program.attributeUse? source scope) nodes
  pure (attributes.filterMap id)

/-- The field declaration that a declarator belongs to, with the variable declaration between. -/
def fieldOf? (declarator : Site) : Option (Site × Site) := do
  let declaration ← declarator.parent?
  let field ← declaration.parent?
  if field.node.kind = "field_declaration" then some (field, declaration) else none

def typeNode? (declaration : Node) : Option Node :=
  declaration.child? "type" <|> declaration.namedChildren.head?

/-- What a declarator declares; nothing outside of a known type or without a name or type. -/
def fieldSymbol? (source : Source) (declarator : Site) : Logged (Option FieldSymbol) :=
  match fieldOf? declarator with
  | none => pure none
  | some (field, declaration) =>
      let scope := program.scope source field
      let found := do
        let containing ← scope.enclosing.head?.bind program.type?
        let name ← declarator.node.childOr? "name" ["identifier"]
        let type ← typeNode? declaration.node
        pure (containing, name, type)
      match found with
      | none => pure none
      | some (containing, name, type) => do
          let attributes ← program.attributesOf source scope field.node
          pure (some
            { name := source.text name
              type := source.squeezedText type
              containing
              attributes
              modifiers := source.modifiers field.node
              documentation? := Documentation.collect? source field
              location := source.location name
              usings := scope.localUsings })

end Program

end PropertyGen
