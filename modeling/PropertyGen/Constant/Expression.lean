import PropertyGen.Constant.Literal
import PropertyGen.Constant.Value
import PropertyGen.Names.TypeName
import PropertyGen.Reports.Logged
import PropertyGen.Syntax.Source

/-!
Constant expressions: what a syntax tree says as an expression of parentheses, signs, joined
texts, names and leaves, and folding such an expression with a meaning for its names.
-/

namespace PropertyGen

inductive Expression where
  /-- Anything that folds without the value of a name, or does not fold. -/
  | leaf (folding : Except Fault Folding)
  | name (text : String)
  | parenthesized (inner : Expression)
  | negated (operand : Expression)
  | joined (left right : Expression)

namespace Expression

def constant (folding : Folding) : Expression := .leaf (.ok folding)

def stringLiteralKinds : List String :=
  ["string_literal", "verbatim_string_literal", "raw_string_literal", "character_literal"]

def nameKinds : List String :=
  ["identifier", "member_access_expression", "qualified_name", "alias_qualified_name"]

/-- What `nameof` of a type name yields: its last identifier. -/
def nameOf (target : String) : Except Fault Folding :=
  match (Names.segments target).getLast? with
  | none => .error .emptySequence
  | some segment => .ok (some (.text (String.ofList (Text.beforeFirst '`' segment.toList))))

def nameOfTarget? (compact : String) : Option String := do
  let rest ← Text.dropPrefix? "nameof(".toList compact.toList
  let target ← Text.dropSuffix? [')'] rest
  if target.isEmpty then none else some (String.ofList target)

def ofSimple (source : Source) (node : Node) : Expression :=
  let compact := source.compactText node
  match nameOfTarget? compact with
  | some target => .leaf (nameOf target)
  | none => if nameKinds.contains node.kind then .name compact else constant none

/-- The kind of the operator of a binary expression: the field, or else the middle one of three
children. -/
def operator (node : Node) : String :=
  match node.child? "operator" with
  | some child => child.kind
  | none =>
      match node.children with
      | [_, middle, _] => middle.kind
      | _ => ""

def assemble (source : Source) (node : Node) (children : List Expression) : Expression :=
  let parts := node.children.zip children
  let named := parts.filter fun part => part.1.named
  let byField := fun field => (parts.find? fun part => part.1.field? = some field).map (·.2)
  let text := Text.trim (source.text node)
  if node.kind = "null_literal" then constant (some .null)
  else if node.kind = "boolean_literal" then constant (some (.boolean (text = "true")))
  else if stringLiteralKinds.contains node.kind then
    .leaf ((Literal.decode text).map fun value => some (.text value))
  else if node.kind = "integer_literal" then constant ((Literal.integer? text).map .integer)
  else if node.kind = "binary_expression" then
    match byField "left", byField "right" with
    | some left, some right => if operator node = "+" then .joined left right else constant none
    | _, _ => constant none
  else
    match node.kind, named.head?, named.getLast? with
    | "parenthesized_expression", some first, _ => .parenthesized first.2
    | "prefix_unary_expression", _, some last =>
        if text.toList.head? = some '-' then .negated last.2 else ofSimple source node
    | _, _, _ => ofSimple source node

mutual

def ofNode (source : Source) : Node → Expression
  | ⟨kind, named, field?, start, stop, children⟩ =>
      assemble source ⟨kind, named, field?, start, stop, children⟩ (ofNodes source children)

def ofNodes (source : Source) : List Node → List Expression
  | [] => []
  | child :: rest => ofNode source child :: ofNodes source rest

end

/-- Folds from left to right; both sides of a join are folded before they are joined. -/
def fold (lookup : String → Logged Folding) : Expression → Logged Folding
  | .leaf folding => Logged.ofExcept folding
  | .name text => lookup text
  | .parenthesized inner => fold lookup inner
  | .negated operand => do
      let folding ← fold lookup operand
      pure folding.negated
  | .joined left right => do
      let first ← fold lookup left
      let second ← fold lookup right
      pure (first.joined second)

end Expression

end PropertyGen
