import PropertyGen.Syntax.Source

/-!
What the declarations of a source have in common: a name, perhaps a body, modifiers.
-/

namespace PropertyGen

def typeDeclarationKinds : List String :=
  ["class_declaration", "struct_declaration", "record_declaration", "record_struct_declaration",
   "interface_declaration"]

def Node.isTypeDeclaration (node : Node) : Bool := typeDeclarationKinds.contains node.kind

def Source.declaredName (source : Source) (node : Node) : String :=
  match node.childOr? "name" ["identifier", "qualified_name"] with
  | some name => source.compactText name
  | none => ""

def Node.body? (node : Node) : Option Node := node.childOr? "body" ["declaration_list"]

def Source.modifiers (source : Source) (node : Node) : List String :=
  (node.children.filter fun child => child.kind = "modifier").map source.text

/-- The declarators of a field declaration, in its first variable declaration. -/
def Site.declarators (field : Site) : List Site :=
  match field.namedChildren.find? fun child => child.node.kind = "variable_declaration" with
  | none => []
  | some declaration =>
      declaration.namedChildren.filter fun child => child.node.kind = "variable_declarator"

end PropertyGen
