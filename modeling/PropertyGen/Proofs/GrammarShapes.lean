import Mathlib.Data.List.Forall2
import PropertyGen.Program.FieldSymbol
import PropertyGen.Proofs.AlikeTrees
import PropertyGen.Proofs.Equations
import PropertyGen.Proofs.FileScopedTrees
import PropertyGen.Proofs.Folding

/-!
What is read from the shapes of an equals sign. Named arguments of attributes and constants, like
directives for aliases, do not depend on whether a grammar gives a row of nodes or a clause, or an
expression, and comments between the tokens have no part in them.
-/

namespace PropertyGen

namespace Equation

variable {equation : Equation}

theorem expression_in_field (source : Source) (node : Node) (field? : Option String) :
    Expression.ofNode source { node with field? } = Expression.ofNode source node := by
  have text : source.text { node with field? } = source.text node := rfl
  have operator : Expression.operator { node with field? } = Expression.operator node := rfl
  have simple : Expression.ofSimple source { node with field? } =
      Expression.ofSimple source node := by
    unfold Expression.ofSimple Source.compactText
    rw [text]
  rw [Expression.of_node_assembled, Expression.of_node_assembled]
  unfold Expression.assemble
  rw [text, operator, simple]

theorem last_named {node value : Node} {front : List Node}
    (children : node.children = front ++ [value]) (named : value.named = true) :
    node.namedChildren.getLast? = some value := by
  unfold Node.namedChildren
  rw [children, List.filter_append, List.filter_cons_of_pos named, List.filter_nil,
    List.getLast?_concat]

section Arguments

variable {source : Source} {node : Node}

/-- What a child of an argument makes of the name found before it. -/
def nameStep (source : Source) (node : Node) (name? : Option String) (child : Node) :
    Option String :=
  if child.kind = "name_equals" then (child.childOr? "name" ["identifier"]).map source.text
  else if child.kind = "=" && node.namedChildren.length > 1 then
    node.namedChildren.head?.map source.text
  else name?

theorem name_kept {children : List Node}
    (others : ∀ child ∈ children, child.kind ≠ "name_equals" ∧ child.kind ≠ "=")
    (name? : Option String) : children.foldl (nameStep source node) name? = name? := by
  induction children with
  | nil => rfl
  | cons child rest induction =>
      obtain ⟨own, further⟩ := List.forall_mem_cons.mp others
      rw [List.foldl_cons, nameStep, if_neg own.1, decide_eq_false own.2]
      exact induction further

namespace Formed

theorem comment_silent (formed : equation.Formed) :
    ∀ child ∈ equation.before ++ equation.behind,
      child.kind ≠ "name_equals" ∧ child.kind ≠ "=" := by
  intro child member
  rw [(formed.comments child member).kind]
  decide

theorem value_silent (formed : equation.Formed) :
    ∀ child ∈ equation.valuePart, child.kind ≠ "name_equals" ∧ child.kind ≠ "=" := by
  intro child member
  rcases List.mem_append.mp member with comment | value
  · exact formed.comment_silent child (List.mem_append_right _ comment)
  · rw [List.mem_singleton.mp value]
    constructor
    · exact fun clause => formed.valueKind (clause ▸ by decide)
    · exact fun sign => formed.valueKind (sign ▸ by decide)

theorem named_row (formed : equation.Formed) (children : node.children = equation.row) :
    node.namedChildren.head? = some equation.name ∧ node.namedChildren.length > 1 := by
  have split : node.namedChildren =
      equation.name :: (equation.between.filter (·.named) ++ [equation.value]) := by
    unfold Node.namedChildren
    rw [children, row, List.filter_cons_of_pos formed.nameNamed, List.filter_append,
      List.filter_cons_of_pos formed.valueNamed]
    rfl
  rw [split]
  refine ⟨rfl, ?_⟩
  rw [List.length_cons, List.length_append, List.length_singleton]
  omega

theorem written_in_row (formed : equation.Formed) (children : node.children = equation.row) :
    Argument.writtenName? source node = some (source.text equation.name) := by
  obtain ⟨first, several⟩ := formed.named_row children
  have identifier : equation.name.kind ≠ "name_equals" ∧ equation.name.kind ≠ "=" := by
    rw [formed.identifier]
    decide
  have comments := fun child member => formed.comment_silent child (List.mem_append_left _ member)
  have front : (equation.name :: equation.before).foldl (nameStep source node) none = none :=
    name_kept (List.forall_mem_cons.mpr ⟨identifier, comments⟩) none
  have split : node.children =
      (equation.name :: equation.before) ++ equation.equals :: equation.valuePart := by
    rw [children, row, ← value_part_eq, List.cons_append]
  show node.children.foldl (nameStep source node) none = _
  rw [split, List.foldl_append, front, List.foldl_cons, name_kept formed.value_silent, nameStep,
    formed.sign, first, decide_eq_true several]
  rfl

theorem written_in_clause (formed : equation.Formed)
    (children : node.children = equation.inArgument .nameClause) :
    Argument.writtenName? source node = some (source.text equation.name) := by
  have isClause : equation.nameClause.kind = "name_equals" := rfl
  show node.children.foldl (nameStep source node) none = _
  rw [children, inArgument, List.foldl_cons, name_kept formed.value_silent, nameStep,
    if_pos isClause, formed.clause_name]
  rfl

theorem value_in_field (formed : equation.Formed) {field : String}
    (own : equation.value.field? = some field) (apart : equation.name.field? ≠ some field) :
    (equation.row.find? fun child => child.field? = some field) = some equation.value := by
  have others : (equation.between.find? fun child => child.field? = some field) = none := by
    apply List.find?_eq_none.mpr
    intro child member found
    have fieldless := (formed.between_filler child member).fieldless
    cases fieldless.symm.trans (of_decide_eq_true found)
  rw [row, List.find?_cons, decide_eq_false apart, List.find?_append, others, Option.none_or,
    List.find?_cons, decide_eq_true own]

theorem assigned (formed : equation.Formed) :
    Argument.assignment? equation.assignment =
      some ((equation.fieldsAs (some "left") (some "right")).name,
        (equation.fieldsAs (some "left") (some "right")).value) := by
  have moved := formed.fields_as (some "left") (by decide : some "right" ≠ some "name")
  have isAssignment : equation.assignment.kind = "assignment_expression" := rfl
  have left : equation.assignment.child? "left" =
    some (equation.fieldsAs (some "left") (some "right")).name := rfl
  have right : equation.assignment.child? "right" =
      some (equation.fieldsAs (some "left") (some "right")).value := by
    apply moved.value_in_field rfl
    show some "left" ≠ some "right"
    decide
  unfold Argument.assignment?
  rw [if_pos isAssignment, left, right]
  exact if_pos formed.identifier

end Formed

/-- A named argument of an attribute is read alike from every shape of its tree. -/
theorem argument_read (source : Source) (formed : equation.Formed) (shape : ArgumentShape)
    (isArgument : node.kind = "attribute_argument")
    (children : node.children = equation.inArgument shape) :
    ∃ argument, Argument.ofNode? source node = some argument ∧
      argument.name? = some (source.text equation.name) ∧
      Expression.ofNode source argument.value = Expression.ofNode source equation.value := by
  unfold Argument.ofNode?
  rw [if_pos isArgument]
  cases shape with
  | row =>
      have ends : node.children = (equation.name :: equation.between) ++ [equation.value] :=
        children
      rw [last_named ends formed.valueNamed, formed.written_in_row children]
      exact ⟨_, rfl, rfl, rfl⟩
  | nameClause =>
      have ends : node.children = (equation.nameClause :: equation.behind) ++ [equation.value] :=
        children
      rw [last_named ends formed.valueNamed, formed.written_in_clause children]
      exact ⟨_, rfl, rfl, rfl⟩
  | assignment =>
      have unwritten : Argument.writtenName? source node = none := by
        show node.children.foldl (nameStep source node) none = _
        rw [children]
        rfl
      have ends : node.children = [] ++ [equation.assignment] := children
      have last : node.namedChildren.getLast? = some equation.assignment := last_named ends rfl
      rw [last, unwritten, Option.map_some, formed.assigned]
      exact ⟨_, rfl, rfl, expression_in_field source equation.value _⟩

end Arguments

section Declarators

variable {source : Source} {globals : List Using}

theorem map_node_named (site : Site) :
    site.namedChildren.map (·.node) = site.node.namedChildren := by
  unfold Site.namedChildren Node.namedChildren
  rw [← Site.map_node_children, List.filter_map]
  rfl

theorem last_child {site : Site} {value : Node} {front : List Node}
    (children : site.node.children = front ++ [value]) (named : value.named = true) :
    ∃ child ∈ site.children, site.namedChildren.getLast? = some child ∧ child.node = value := by
  have last := last_named children named
  rw [← map_node_named, List.getLast?_map] at last
  obtain ⟨child, found, same⟩ := Option.map_eq_some_iff.mp last
  exact ⟨child, List.mem_of_mem_filter (List.mem_of_getLast? found), found, same⟩

theorem kind_child {site : Site} {kind : String} {found? : Option Node}
    (found : (site.node.namedChildren.find? fun child => child.kind = kind) = found?) :
    (site.namedChildren.find? fun child => child.node.kind = kind).map (·.node) = found? := by
  rw [← found, ← map_node_named, List.find?_map]
  rfl

/-- Whatever the shape of its declarator is, an initialiser is found, below the declarator or below
a clause of it. -/
theorem initializer_read (formed : equation.Formed) {declarator : Site} (shape : DeclaratorShape)
    (children : declarator.node.children = equation.inDeclarator shape) :
    ∃ site, ConstantDeclaration.initializer? declarator = .ok (some site) ∧
      site.node = equation.value ∧
      ∃ clauses, site.ancestors = clauses ++ declarator.node :: declarator.ancestors ∧
        ∀ clause ∈ clauses, clause.kind = "equals_value_clause" := by
  have kinds := formed.row_kinds (by decide : "equals_value_clause" ∈ tellingKinds) (by decide)
    (by decide)
  unfold ConstantDeclaration.initializer?
  cases shape with
  | row =>
      have noClause : (declarator.node.namedChildren.find? fun child =>
          child.kind = "equals_value_clause") = none := by
        apply List.find?_eq_none.mpr
        intro child member isClause
        have inside : child ∈ declarator.node.children := List.mem_of_mem_filter member
        rw [children] at inside
        exact kinds child inside (of_decide_eq_true isClause)
      have sign : declarator.node.hasChild "=" = true := by
        apply List.any_eq_true.mpr
        refine ⟨equation.equals, ?_, decide_eq_true formed.sign⟩
        rw [children]
        exact mem_row.mpr (.inr (.inl (List.mem_append_right _ List.mem_cons_self)))
      have ends : declarator.node.children =
        (equation.name :: equation.between) ++ [equation.value] := children
      obtain ⟨site, inside, last, same⟩ := last_child ends formed.valueNamed
      rw [Option.map_eq_none_iff.mp (kind_child noClause), last]
      exact ⟨site, if_pos sign, same, [], Site.ancestors_of_child inside, fun _ => nofun⟩
  | valueClause =>
      have ends : declarator.node.children =
        (equation.name :: equation.before) ++ [equation.valueClause] := children
      have clause : (declarator.node.namedChildren.find? fun child =>
          child.kind = "equals_value_clause") = some equation.valueClause := by
        have others : ((equation.name :: equation.before).filter (·.named)).find? (fun child =>
            child.kind = "equals_value_clause") = none := by
          apply List.find?_eq_none.mpr
          intro child member isClause
          refine kinds child ?_ (of_decide_eq_true isClause)
          rcases List.mem_cons.mp (List.mem_of_mem_filter member) with name | before
          · exact mem_row.mpr (.inl name)
          · exact mem_row.mpr (.inr (.inl (List.mem_append_left _ before)))
        unfold Node.namedChildren
        rw [ends, List.filter_append, List.find?_append, others]
        rfl
      obtain ⟨clauseSite, found, isClause⟩ := Option.map_eq_some_iff.mp (kind_child clause)
      have inDeclarator := List.mem_of_mem_filter (List.mem_of_find?_eq_some found)
      have clauseEnds : clauseSite.node.children =
          (equation.equals :: equation.behind) ++ [equation.value] := by
        rw [isClause]
        rfl
      obtain ⟨site, inside, last, same⟩ := last_child clauseEnds formed.valueNamed
      rw [found]
      refine ⟨site, congrArg Except.ok last, same, [clauseSite.node], ?_, ?_⟩
      · rw [Site.ancestors_of_child inside, Site.ancestors_of_child inDeclarator]
        rfl
      · rw [isClause]
        exact List.forall_mem_singleton.mpr rfl

def passiveKinds : List String :=
  ["equals_value_clause", "variable_declarator", "variable_declaration", "field_declaration"]

theorem add_passive {offset : Nat} {surroundings : Surroundings} {ancestor : Node}
    (passive : ancestor.kind ∈ passiveKinds) :
    Surroundings.addAncestor source offset surroundings ancestor = surroundings := by
  have silent : ∀ kind ∈ passiveKinds, typeDeclarationKinds.contains kind = false ∧
      kind ≠ "namespace_declaration" ∧ kind ≠ "file_scoped_namespace_declaration" ∧
      kind ≠ "compilation_unit" := by decide
  obtain ⟨notType, notSpace, notFileScoped, notUnit⟩ := silent _ passive
  unfold Surroundings.addAncestor Node.isTypeDeclaration
  rw [notType, if_neg Bool.false_ne_true, if_neg notSpace, if_neg notFileScoped, if_neg notUnit]

theorem fold_passive {offset : Nat} {surroundings : Surroundings} {ancestors : List Node}
    (passive : ∀ ancestor ∈ ancestors, ancestor.kind ∈ passiveKinds) :
    ancestors.foldl (Surroundings.addAncestor source offset) surroundings = surroundings := by
  induction ancestors with
  | nil => rfl
  | cons ancestor rest induction =>
      obtain ⟨own, further⟩ := List.forall_mem_cons.mp passive
      rw [List.foldl_cons, add_passive own, induction further]

theorem scope_through {site other : Site} {inner : List Node}
    (passive : ∀ ancestor ∈ inner, ancestor.kind ∈ passiveKinds)
    (ancestors : site.ancestors = inner ++ other.ancestors)
    (start : site.node.start = other.node.start) :
    source.scope globals site = source.scope globals other := by
  unfold Source.scope Surroundings.ofSite
  rw [ancestors, List.foldl_append, fold_passive passive, start]

theorem declarator_inside {field declarator : Site} (member : declarator ∈ field.declarators) :
    declarator.node.kind = "variable_declarator" ∧ ∃ declaration : Node,
      declaration.kind = "variable_declaration" ∧
        declarator.ancestors = declaration :: field.node :: field.ancestors := by
  unfold Site.declarators at member
  cases found : field.namedChildren.find? fun child => child.node.kind = "variable_declaration" with
  | none =>
      rw [found] at member
      cases member
  | some declaration =>
      rw [found] at member
      obtain ⟨listed, isDeclarator⟩ := List.mem_filter.mp member
      have inField := List.mem_of_mem_filter (List.mem_of_find?_eq_some found)
      refine ⟨of_decide_eq_true isDeclarator, declaration.node, ?_, ?_⟩
      · have isDeclaration := List.find?_some found
        exact of_decide_eq_true isDeclaration
      · rw [Site.ancestors_of_child (List.mem_of_mem_filter listed),
          Site.ancestors_of_child inField]

def constantOf (source : Source) (type : String) (declarator : Site) :
    Except Fault (Option ConstantDeclaration) := do
  let value? ← ConstantDeclaration.initializer? declarator
  pure (match declarator.node.childOr? "name" ["identifier"], value? with
    | some name, some site => some { key := Names.member type (source.text name), source, site }
    | _, _ => none)

/-- What the folding of a constant depends on. -/
def reading (globals : List Using) (constant : ConstantDeclaration) : String × Expression × Scope :=
  (constant.key, constant.expression, constant.scope globals)

def constantReading (source : Source) (globals : List Using) (type : String) (field : Site)
    (equation : Equation) : String × Expression × Scope :=
  (Names.member type (source.text equation.name), Expression.ofNode source equation.value,
    source.scope globals { field with node := equation.value })

/-- A declarator whose parts are those of an equation in one shape or the other. -/
def Declares (declarator : Site) (equation : Equation) : Prop :=
  equation.Formed ∧ ∃ shape, declarator.node.children = equation.inDeclarator shape

theorem constant_read {field declarator : Site} (globals : List Using) (type : String)
    (isField : field.node.kind = "field_declaration") (member : declarator ∈ field.declarators)
    (declares : Declares declarator equation) :
    ∃ constant, constantOf source type declarator = .ok (some constant) ∧
      reading globals constant = constantReading source globals type field equation := by
  obtain ⟨formed, shape, children⟩ := declares
  obtain ⟨site, found, value, clauses, ancestors, areClauses⟩ :=
    initializer_read formed shape children
  have name : declarator.node.childOr? "name" ["identifier"] = some equation.name := by
    cases shape with
    | row => exact named_first children formed.identifier formed.nameNamed formed.others_nameless
    | valueClause =>
        refine named_first children formed.identifier formed.nameNamed fun child listed => ?_
        rcases List.mem_append.mp listed with before | clause
        · exact (formed.between_filler child (List.mem_append_left _ before)).nameless
        · rw [List.mem_singleton.mp clause]
          exact (Option.some_ne_none _).symm
  have scope : source.scope globals site =
      source.scope globals { field with node := equation.value } := by
    obtain ⟨isDeclarator, declaration, isDeclaration, around⟩ := declarator_inside member
    have passive : ∀ ancestor ∈ clauses ++ [declarator.node, declaration, field.node],
        ancestor.kind ∈ passiveKinds := by
      intro ancestor listed
      rcases List.mem_append.mp listed with clause | outer
      · rw [areClauses ancestor clause]
        decide
      · simp only [List.mem_cons, List.not_mem_nil, or_false] at outer
        rcases outer with rfl | rfl | rfl
        · rw [isDeclarator]
          decide
        · rw [isDeclaration]
          decide
        · rw [isField]
          decide
    apply scope_through passive
    · rw [ancestors, around, List.append_assoc]
      rfl
    · rw [value]
  refine ⟨{ key := Names.member type (source.text equation.name), source, site }, ?_, ?_⟩
  · unfold constantOf
    rw [found, name]
    rfl
  · unfold reading constantReading ConstantDeclaration.expression ConstantDeclaration.scope
    rw [value, scope]

theorem constants_each {field : Site} (globals : List Using) (type : String)
    (isField : field.node.kind = "field_declaration") {declarators : List Site}
    {equations : List Equation}
    (inside : ∀ declarator ∈ declarators, declarator ∈ field.declarators)
    (each : List.Forall₂ Declares declarators equations) :
    ∃ constants : List ConstantDeclaration,
      declarators.mapM (constantOf source type) = .ok (constants.map some) ∧
      constants.map (reading globals) =
        equations.map (constantReading source globals type field) := by
  induction each with
  | nil => exact ⟨[], rfl, rfl⟩
  | cons declares _ induction =>
      obtain ⟨own, others⟩ := List.forall_mem_cons.mp inside
      obtain ⟨constant, first, same⟩ := constant_read globals type isField own declares
      obtain ⟨constants, later, alike⟩ := induction others
      refine ⟨constant :: constants, ?_, ?_⟩
      · rw [List.mapM_cons, first, later]
        rfl
      · rw [List.map_cons, List.map_cons, same, alike]

theorem constants_read {field : Site} {type : String} {outer : List String}
    {equations : List Equation} (isField : field.node.kind = "field_declaration")
    (enclosing : (source.scope globals field).enclosing = type :: outer)
    (each : List.Forall₂ Declares field.declarators equations) :
    (ConstantDeclaration.ofField source globals field).map (·.map (reading globals)) =
      .ok (equations.map (constantReading source globals type field)) := by
  obtain ⟨constants, returned, alike⟩ := constants_each globals type isField
    (fun _ => id) each
  unfold ConstantDeclaration.ofField
  rw [enclosing]
  show Except.map _ (field.declarators.mapM (constantOf source type) >>= fun constants =>
    pure (constants.filterMap id)) = _
  rw [returned, ← alike]
  show Except.ok _ = Except.ok _
  rw [List.filterMap_map, Function.id_comp, List.filterMap_some]

/-- Two fields of the same equations, in trees that differ in the shapes of closed nodes only, give
the same constants. -/
theorem constants_alike {one other : Site} {equations : List Equation} (globals : List Using)
    (isField : one.node.kind = "field_declaration") (head : one.node.SameHead other.node)
    (ancestors : List.Forall₂ (Node.Alike source) one.ancestors other.ancestors)
    (first : List.Forall₂ Declares one.declarators equations)
    (second : List.Forall₂ Declares other.declarators equations) :
    (ConstantDeclaration.ofField source globals one).map (·.map (reading globals)) =
      (ConstantDeclaration.ofField source globals other).map (·.map (reading globals)) := by
  have scopes : source.scope globals one = source.scope globals other :=
    Source.scope_alike globals ancestors head.start
  cases enclosing : (source.scope globals one).enclosing with
  | nil =>
      unfold ConstantDeclaration.ofField
      rw [← scopes, enclosing]
  | cons type outer =>
      have readings : constantReading source globals type one =
          constantReading source globals type other := by
        funext equation
        have values : source.scope globals { one with node := equation.value } =
            source.scope globals { other with node := equation.value } :=
          Source.scope_alike globals ancestors rfl
        unfold constantReading
        rw [values]
      rw [constants_read isField enclosing first, readings,
        constants_read (head.kind ▸ isField) (scopes ▸ enclosing) second]

end Declarators

instance (equation : Equation) : Decidable equation.Formed :=
  decidable_of_iff (_ ∧ _ ∧ _ ∧ _ ∧ _ ∧ _ ∧ _ ∧ _ ∧ _ ∧ _)
    ⟨fun ⟨one, two, three, four, five, six, seven, eight, nine, ten⟩ =>
      ⟨one, two, three, four, five, six, seven, eight, nine, ten⟩,
    fun all => ⟨all.identifier, all.nameNamed, all.sign, all.signUnnamed, all.signFieldless,
      all.valueNamed, all.valueKind, all.valueField, all.comments, all.order⟩⟩

/-- What is read from a name and a value around an equals sign is the same in every shape: the
directive for an alias, with keywords and comments around it; the name of an argument and its value
under every lookup; and the constants of a field, each with its key, its expression and the scope
in which it is folded, also where the trees around two fields have other shapes themselves. -/
theorem shapes_read_alike (source : Source) :
    (∀ (equation : Equation) (shape : DirectiveShape) (front back : List Node) (node : Node),
      equation.Formed → (∀ child ∈ front ++ back, child.IsFiller) →
      node.children = front ++ (equation.inDirective shape ++ back) →
        Using.ofNode? source node =
          some (equation.directive source (front ++ back) (source.squeezedText node))) ∧
    (∀ (equation : Equation) (shape : ArgumentShape) (node : Node)
      (lookup : String → Logged Folding),
      equation.Formed → node.kind = "attribute_argument" →
      node.children = equation.inArgument shape →
        (Argument.ofNode? source node).map
            (fun argument =>
              (argument.name?, (Expression.ofNode source argument.value).fold lookup)) =
          some (some (source.text equation.name),
            (Expression.ofNode source equation.value).fold lookup)) ∧
    (∀ (equations : List Equation) (field : Site) (globals : List Using) (type : String)
      (outer : List String),
      field.node.kind = "field_declaration" →
      (source.scope globals field).enclosing = type :: outer →
      List.Forall₂ Declares field.declarators equations →
        (ConstantDeclaration.ofField source globals field).map (·.map (reading globals)) =
          .ok (equations.map (constantReading source globals type field))) ∧
    ∀ (equations : List Equation) (one other : Site) (globals : List Using),
      one.node.kind = "field_declaration" → one.node.SameHead other.node →
      List.Forall₂ (Node.Alike source) one.ancestors other.ancestors →
      List.Forall₂ Declares one.declarators equations →
      List.Forall₂ Declares other.declarators equations →
        (ConstantDeclaration.ofField source globals one).map (·.map (reading globals)) =
          (ConstantDeclaration.ofField source globals other).map (·.map (reading globals)) := by
  refine ⟨?directives, ?arguments, ?constants, ?trees⟩
  case directives =>
    intro equation shape front back node formed fillers children
    exact directive_read source formed shape fillers children
  case arguments =>
    intro equation shape node lookup formed isArgument children
    obtain ⟨argument, read, name, value⟩ := argument_read source formed shape isArgument children
    rw [read, Option.map_some, name, value]
  case constants =>
    intro equations field globals type outer isField enclosing each
    exact constants_read isField enclosing each
  case trees =>
    intro equations one other globals isField head ancestors first second
    exact constants_alike globals isField head ancestors first second

end Equation

section Samples

open Marker (branch token leaf fieldLeaf fieldBranch)
open Equation (DirectiveShape ArgumentShape DeclaratorShape reading)

def aliasParts : Equation :=
  { name := leaf "identifier" 13 14
    before := [leaf "comment" 15 22]
    equals := token "=" 23 24
    behind := []
    value := branch "qualified_name" 25 28 [
      fieldLeaf "identifier" "qualifier" 25 26,
      token "." 26 27,
      fieldLeaf "identifier" "name" 27 28] }

def argumentParts : Equation :=
  { name := leaf "identifier" 43 44
    before := []
    equals := token "=" 45 46
    behind := [leaf "comment" 47 54]
    value := leaf "integer_literal" 55 56 }

def constantParts : Equation :=
  { name := fieldLeaf "identifier" "name" 69 70
    before := [leaf "comment" 71 78]
    equals := token "=" 79 80
    behind := []
    value := leaf "integer_literal" 81 82 }

/-- The shapes that a grammar gives to the trees with an equals sign. -/
structure Grammar where
  directive : DirectiveShape
  argument : ArgumentShape
  declarator : DeclaratorShape

namespace Grammar

variable (grammar : Grammar)

def directiveNode : Node :=
  branch "using_directive" 0 29 ([token "global" 0 6, token "using" 7 12] ++
    (aliasParts.inDirective grammar.directive ++ [token ";" 28 29]))

def argumentNode : Node :=
  branch "attribute_argument" 43 56 (argumentParts.inArgument grammar.argument)

def fieldNode : Node :=
  branch "field_declaration" 40 83 [
    branch "attribute_list" 40 58 [
      token "[" 40 41,
      branch "attribute" 41 57 [
        fieldLeaf "identifier" "name" 41 42,
        branch "attribute_argument_list" 42 57 [
          token "(" 42 43,
          grammar.argumentNode,
          token ")" 56 57]],
      token "]" 57 58],
    branch "modifier" 59 64 [token "const" 59 64],
    branch "variable_declaration" 65 82 [
      fieldLeaf "predefined_type" "type" 65 68,
      branch "variable_declarator" 69 82 (constantParts.inDeclarator grammar.declarator)],
    token ";" 82 83]

def bodyNode : Node :=
  fieldBranch "declaration_list" "body" 38 85 [
    token "\x7b" 38 39,
    grammar.fieldNode,
    token "\x7d" 84 85]

def classNode : Node :=
  branch "class_declaration" 30 85 [
    token "class" 30 35,
    fieldLeaf "identifier" "name" 36 37,
    grammar.bodyNode]

def source : Source :=
  { path := "F0.cs"
    bytes := Text.Utf8.encode ("global using A /* B */ = N.X; "
      ++ "class T \x7b [M(P = /* Q */ 1)] const int c /* R */ = 2; \x7d")
    root := branch "compilation_unit" 0 85 [grammar.directiveNode, grammar.classNode] }

def fieldSite : Site :=
  { node := grammar.fieldNode
    path := [
      { parent := grammar.bodyNode, earlier := [token "\x7b" 38 39] },
      { parent := grammar.classNode
        earlier := [fieldLeaf "identifier" "name" 36 37, token "class" 30 35] },
      { parent := grammar.source.root, earlier := [grammar.directiveNode] }] }

theorem field_site_mem : grammar.fieldSite ∈ grammar.source.sites := by
  have unit : Site.root grammar.source.root ∈ grammar.source.sites := Source.mem_sites.mpr .here
  have outer := Source.child_mem_sites unit (.tail _ (.head _))
  have body := Source.child_mem_sites outer (.tail _ (.tail _ (.head _)))
  exact Source.child_mem_sites body (.tail _ (.head _))

variable (source : Source) (other : Grammar)

theorem directive_alike : grammar.directiveNode.Alike source other.directiveNode := by
  have fillers : ∀ child ∈ [token "global" 0 6, token "using" 7 12] ++ [token ";" 28 29],
      child.IsFiller := by decide
  have formed : aliasParts.Formed := by decide
  have read (grammar : Grammar) : Using.ofNode? source grammar.directiveNode = _ :=
    Equation.directive_read source formed grammar.directive fillers rfl
  exact .closed ⟨rfl, rfl, rfl, rfl, rfl⟩ (.tail _ (.tail _ (.head _))) rfl
    fun _ => (read grammar).trans (read other).symm

theorem body_alike : grammar.bodyNode.Alike source other.bodyNode := by
  have notDirective : "field_declaration" ≠ "using_directive" := by decide
  have fields : grammar.fieldNode.Alike source other.fieldNode :=
    .closed ⟨rfl, rfl, rfl, rfl, rfl⟩ (.head _) rfl fun kind => absurd kind notDirective
  refine .inside ⟨rfl, rfl, rfl, rfl, rfl⟩ ?_
    (.cons (.same _) (.cons fields (.cons (.same _) .nil)))
  show "declaration_list" ≠ "using_directive"
  decide

theorem class_alike : grammar.classNode.Alike source other.classNode := by
  have bodies := grammar.body_alike source other
  refine .inside ⟨rfl, rfl, rfl, rfl, rfl⟩ ?_
    (.cons (.same _) (.cons (.same _) (.cons bodies .nil)))
  show "class_declaration" ≠ "using_directive"
  decide

theorem root_alike : grammar.source.root.Alike source other.source.root := by
  have directives := grammar.directive_alike source other
  have classes := grammar.class_alike source other
  refine .inside ⟨rfl, rfl, rfl, rfl, rfl⟩ ?_ (.cons directives (.cons classes .nil))
  show "compilation_unit" ≠ "using_directive"
  decide

end Grammar

def grammars : List Grammar :=
  [⟨.nameClause, .nameClause, .valueClause⟩, ⟨.nameField, .row, .row⟩, ⟨.bare, .assignment, .row⟩]

theorem shapes_read_alike_commented :
    (∀ grammar ∈ grammars, Using.ofNode? grammar.source grammar.directiveNode =
      some
        { target := "N.X"
          alias? := some "A"
          isGlobal := true
          isStatic := false
          text := "global using A /* B */ = N.X;" }) ∧
    (∀ grammar ∈ grammars, ∀ lookup,
      (Argument.ofNode? grammar.source grammar.argumentNode).map
          (fun argument =>
            (argument.name?, (Expression.ofNode grammar.source argument.value).fold lookup)) =
        some (some "P", (Expression.ofNode grammar.source argumentParts.value).fold lookup)) ∧
    (∀ grammar ∈ grammars, grammar.fieldSite ∈ grammar.source.sites ∧
      (ConstantDeclaration.ofField grammar.source [] grammar.fieldSite).map
          (·.map (reading [])) =
        .ok [("T.c", Expression.ofNode grammar.source constantParts.value,
          { enclosing := ["T"], levels := [⟨"", []⟩] })]) ∧
    ∀ grammar ∈ grammars, ∀ other ∈ grammars,
      (ConstantDeclaration.ofField grammar.source [] grammar.fieldSite).map
          (·.map (reading [])) =
        (ConstantDeclaration.ofField grammar.source [] other.fieldSite).map
          (·.map (reading [])) := by
  have directives : ∀ grammar ∈ grammars, aliasParts.directive grammar.source
      [token "global" 0 6, token "using" 7 12, token ";" 28 29]
      (grammar.source.squeezedText grammar.directiveNode) =
        ⟨"N.X", some "A", true, false, "global using A /* B */ = N.X;"⟩ := by decide +kernel
  have names : ∀ grammar ∈ grammars, grammar.source.text argumentParts.name = "P" ∧
      Names.member "T" (grammar.source.text constantParts.name) = "T.c" := by decide +kernel
  have scopes : ∀ grammar ∈ grammars,
      (grammar.source.scope [] grammar.fieldSite).enclosing = ["T"] ∧
        grammar.source.scope [] { grammar.fieldSite with node := constantParts.value } =
          { enclosing := ["T"], levels := [⟨"", []⟩] } := by decide +kernel
  refine ⟨fun grammar listed => ?directive, fun grammar listed lookup => ?argument,
    fun grammar listed => ⟨grammar.field_site_mem, ?constants⟩, fun grammar _ other _ => ?trees⟩
  case directive =>
    have alike := (Equation.shapes_read_alike grammar.source).1 aliasParts grammar.directive
      [token "global" 0 6, token "using" 7 12] [token ";" 28 29] grammar.directiveNode
      (by decide) (by decide) rfl
    exact alike.trans (congrArg some (directives grammar listed))
  case argument =>
    have alike := (Equation.shapes_read_alike grammar.source).2.1 argumentParts grammar.argument
      grammar.argumentNode lookup (by decide) rfl rfl
    rw [alike, (names grammar listed).1]
  case constants =>
    obtain ⟨enclosing, scope⟩ := scopes grammar listed
    have alike := (Equation.shapes_read_alike grammar.source).2.2.1 [constantParts]
      grammar.fieldSite [] "T" [] rfl enclosing (.cons ⟨by decide, grammar.declarator, rfl⟩ .nil)
    rw [alike]
    unfold Equation.constantReading
    rw [List.map_singleton, (names grammar listed).2, scope]
  case trees =>
    have ancestors : List.Forall₂ (Node.Alike grammar.source) grammar.fieldSite.ancestors
        other.fieldSite.ancestors :=
      .cons (grammar.body_alike _ other)
        (.cons (grammar.class_alike _ other) (.cons (grammar.root_alike _ other) .nil))
    exact (Equation.shapes_read_alike grammar.source).2.2.2 [constantParts] grammar.fieldSite
      other.fieldSite [] rfl ⟨rfl, rfl, rfl, rfl, rfl⟩ ancestors
      (.cons ⟨by decide, grammar.declarator, rfl⟩ .nil)
      (.cons ⟨by decide, other.declarator, rfl⟩ .nil)

end Samples

end PropertyGen
