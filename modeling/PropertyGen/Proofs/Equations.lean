import Mathlib.Data.List.Basic
import PropertyGen.Generation.Marker
import PropertyGen.Program.Using

/-!
The shapes in which grammars give an equals sign. The name before it and the value behind it may
stand beside it in one row, or a clause may hold it together with one of them. A directive for an
alias is read alike from all of these shapes, with comments between its tokens or without.
-/

namespace PropertyGen

open Marker (branch)

/-- A name and a value with an equals sign and comments between them. -/
structure Equation where
  name : Node
  before : List Node
  equals : Node
  behind : List Node
  value : Node

def tellingKinds : List String :=
  ["comment", "=", "name_equals", "equals_value_clause", "global", "static"]

structure Node.IsComment (node : Node) : Prop where
  kind : node.kind = "comment"
  fieldless : node.field? = none

structure Node.IsFiller (node : Node) : Prop where
  skipped : node.named = false ∨ node.kind = "comment"
  fieldless : node.field? = none

instance (node : Node) : Decidable node.IsComment :=
  decidable_of_iff (_ ∧ _) ⟨fun all => ⟨all.1, all.2⟩, fun all => ⟨all.kind, all.fieldless⟩⟩

instance (node : Node) : Decidable node.IsFiller :=
  decidable_of_iff (_ ∧ _) ⟨fun all => ⟨all.1, all.2⟩, fun all => ⟨all.skipped, all.fieldless⟩⟩

theorem Node.IsComment.filler {node : Node} (comment : node.IsComment) : node.IsFiller :=
  ⟨.inr comment.kind, comment.fieldless⟩

theorem Node.IsFiller.nameless {node : Node} (filler : node.IsFiller) :
    node.field? ≠ some "name" := by
  rw [filler.fieldless]
  exact (Option.some_ne_none _).symm

namespace Equation

/-- An identifier before the equals sign, and behind it a node that is not taken for another
part. -/
structure Formed (equation : Equation) : Prop where
  identifier : equation.name.kind = "identifier"
  nameNamed : equation.name.named = true
  sign : equation.equals.kind = "="
  signUnnamed : equation.equals.named = false
  signFieldless : equation.equals.field? = none
  valueNamed : equation.value.named = true
  valueKind : equation.value.kind ∉ tellingKinds
  valueField : equation.value.field? ≠ some "name"
  comments : ∀ node ∈ equation.before ++ equation.behind, node.IsComment
  order : equation.name.start < equation.value.start

def fieldsAs (nameField? valueField? : Option String) (equation : Equation) : Equation :=
  { equation with
    name := { equation.name with field? := nameField? }
    value := { equation.value with field? := valueField? } }

def between (equation : Equation) : List Node :=
  equation.before ++ equation.equals :: equation.behind

def valuePart (equation : Equation) : List Node := equation.behind ++ [equation.value]

def row (equation : Equation) : List Node :=
  equation.name :: (equation.between ++ [equation.value])

def nameClause (equation : Equation) : Node :=
  branch "name_equals" equation.name.start equation.equals.stop
    (equation.name :: (equation.before ++ [equation.equals]))

def valueClause (equation : Equation) : Node :=
  branch "equals_value_clause" equation.equals.start equation.value.stop
    (equation.equals :: equation.valuePart)

def assignment (equation : Equation) : Node :=
  branch "assignment_expression" equation.name.start equation.value.stop
    (equation.fieldsAs (some "left") (some "right")).row

inductive DirectiveShape where
  | nameField
  | nameClause
  | bare

inductive ArgumentShape where
  | row
  | nameClause
  | assignment

inductive DeclaratorShape where
  | row
  | valueClause

def inDirective (equation : Equation) : DirectiveShape → List Node
  | .nameField => (equation.fieldsAs (some "name") equation.value.field?).row
  | .nameClause => equation.nameClause :: equation.valuePart
  | .bare => (equation.fieldsAs none equation.value.field?).row

def inArgument (equation : Equation) : ArgumentShape → List Node
  | .row => equation.row
  | .nameClause => equation.nameClause :: equation.valuePart
  | .assignment => [equation.assignment]

def inDeclarator (equation : Equation) : DeclaratorShape → List Node
  | .row => equation.row
  | .valueClause => equation.name :: (equation.before ++ [equation.valueClause])

variable {equation : Equation}

theorem mem_row {node : Node} : node ∈ equation.row ↔
    node = equation.name ∨ node ∈ equation.between ∨ node = equation.value := by
  unfold row
  rw [List.mem_cons, List.mem_append, List.mem_singleton]

theorem value_part_eq : equation.before ++ equation.equals :: equation.valuePart =
    equation.between ++ [equation.value] := by
  unfold valuePart between
  rw [List.append_assoc, List.cons_append]

namespace Formed

theorem fields_as (formed : equation.Formed) (nameField? : Option String)
    {valueField? : Option String} (notName : valueField? ≠ some "name") :
    (equation.fieldsAs nameField? valueField?).Formed :=
  { formed with valueField := notName }

theorem between_cases (formed : equation.Formed) {node : Node} (member : node ∈ equation.between) :
    node.IsComment ∨ node = equation.equals := by
  rcases List.mem_append.mp member with before | after
  · exact .inl (formed.comments node (List.mem_append_left _ before))
  · rcases List.mem_cons.mp after with sign | behind
    · exact .inr sign
    · exact .inl (formed.comments node (List.mem_append_right _ behind))

theorem between_filler (formed : equation.Formed) : ∀ node ∈ equation.between, node.IsFiller := by
  intro node member
  rcases formed.between_cases member with comment | rfl
  · exact comment.filler
  · exact ⟨.inl formed.signUnnamed, formed.signFieldless⟩

theorem row_kinds (formed : equation.Formed) {kind : String} (telling : kind ∈ tellingKinds)
    (notComment : kind ≠ "comment") (notSign : kind ≠ "=") :
    ∀ node ∈ equation.row, node.kind ≠ kind := by
  have notIdentifier : "identifier" ∉ tellingKinds := by decide
  rintro node member rfl
  rcases mem_row.mp member with rfl | between | rfl
  · exact notIdentifier (formed.identifier ▸ telling)
  · rcases formed.between_cases between with comment | rfl
    · exact notComment comment.kind
    · exact notSign formed.sign
  · exact formed.valueKind telling

theorem others_nameless (formed : equation.Formed) :
    ∀ node ∈ equation.between ++ [equation.value], node.field? ≠ some "name" := by
  intro node member
  rcases List.mem_append.mp member with between | value
  · exact (formed.between_filler node between).nameless
  · rw [List.mem_singleton.mp value]
    exact formed.valueField

end Formed

theorem named_first {node name : Node} {rest : List Node} (children : node.children = name :: rest)
    (identifier : name.kind = "identifier") (named : name.named = true)
    (others : ∀ child ∈ rest, child.field? ≠ some "name") :
    node.childOr? "name" ["identifier"] = some name := by
  unfold Node.childOr? Node.child?
  rw [children, List.find?_cons]
  by_cases field : name.field? = some "name"
  · rw [decide_eq_true field]
    rfl
  · have none : (rest.find? fun child => child.field? = some "name") = none :=
      List.find?_eq_none.mpr fun child member found =>
        others child member (of_decide_eq_true found)
    rw [decide_eq_false field, none]
    unfold Node.childOf? Node.namedChildren
    rw [children, List.filter_cons_of_pos named, List.find?_cons, identifier]
    rfl

theorem Formed.clause_name (formed : equation.Formed) :
    equation.nameClause.childOr? "name" ["identifier"] = some equation.name := by
  refine named_first rfl formed.identifier formed.nameNamed fun child member => ?_
  apply (formed.between_filler child _).nameless
  rcases List.mem_append.mp member with before | sign
  · exact List.mem_append_left _ before
  · exact List.mem_append_right _ (List.mem_singleton.mp sign ▸ List.mem_cons_self)

section Directives

def solid (children : List Node) : List Node :=
  (children.filter (·.named)).filter fun child => child.kind ≠ "comment"

theorem solid_append (first second : List Node) :
    solid (first ++ second) = solid first ++ solid second := by
  unfold solid
  rw [List.filter_append, List.filter_append]

theorem solid_fillers {children : List Node} (fillers : ∀ child ∈ children, child.IsFiller) :
    solid children = [] := by
  apply List.filter_eq_nil_iff.mpr
  intro child member solid
  obtain ⟨listed, named⟩ := List.mem_filter.mp member
  rcases (fillers child listed).skipped with unnamed | comment
  · rw [unnamed] at named
    cases named
  · exact of_decide_eq_true solid comment

theorem solid_kept {child : Node} (named : child.named = true) (notComment : child.kind ≠ "comment")
    (rest : List Node) : solid (child :: rest) = child :: solid rest := by
  unfold solid
  rw [List.filter_cons, if_pos named, List.filter_cons, if_pos (decide_eq_true notComment)]

variable {node : Node} {front back : List Node}

namespace Formed

/-- Before the value only fillers may stand, and behind it. -/
theorem solid_value (formed : equation.Formed) {fillers : List Node}
    (inside : ∀ node ∈ fillers, node.IsFiller) (outside : ∀ node ∈ back, node.IsFiller) :
    solid (fillers ++ [equation.value] ++ back) = [equation.value] := by
  have notComment : equation.value.kind ≠ "comment" :=
    fun comment => formed.valueKind (comment ▸ by decide)
  rw [List.append_assoc, solid_append, solid_fillers inside, List.singleton_append,
    solid_kept formed.valueNamed notComment, solid_fillers outside]
  rfl

theorem solid_row (formed : equation.Formed) (fillers : ∀ node ∈ front ++ back, node.IsFiller) :
    solid (front ++ (equation.row ++ back)) = [equation.name, equation.value] := by
  obtain ⟨inFront, inBack⟩ := List.forall_mem_append.mp fillers
  have notComment : equation.name.kind ≠ "comment" := by
    rw [formed.identifier]
    decide
  unfold row
  rw [solid_append, solid_fillers inFront, List.cons_append,
    solid_kept formed.nameNamed notComment, formed.solid_value formed.between_filler inBack]
  rfl

theorem solid_clause (formed : equation.Formed)
    (fillers : ∀ node ∈ front ++ back, node.IsFiller) :
    solid (front ++ (equation.inDirective .nameClause ++ back)) =
      [equation.nameClause, equation.value] := by
  obtain ⟨inFront, inBack⟩ := List.forall_mem_append.mp fillers
  have notComment : equation.nameClause.kind ≠ "comment" := by
    show "name_equals" ≠ "comment"
    decide
  have comments : ∀ node ∈ equation.behind, node.IsFiller := fun node member =>
    (formed.comments node (List.mem_append_right _ member)).filler
  unfold inDirective valuePart
  rw [solid_append, solid_fillers inFront, List.cons_append, solid_kept rfl notComment,
    formed.solid_value comments inBack]
  rfl

end Formed

theorem target_of_pair {first value name : Node} (solids : solid node.children = [first, value])
    (aliased : Using.aliasNode? node = some name)
    (out : first.kind = "name_equals" ∨ name.start = first.start ∧ name.stop = first.stop)
    (notClause : value.kind ≠ "name_equals") (apart : name.start ≠ value.start) :
    Using.targetNode? node = some value := by
  have split : (fun child : Node => decide (child.kind ≠ "comment") &&
      decide (child.kind ≠ "name_equals") &&
        !(some name).any fun name => name.start = child.start && name.stop = child.stop) =
      fun child => (decide (child.kind ≠ "name_equals") &&
        !(decide (name.start = child.start) && decide (name.stop = child.stop))) &&
          decide (child.kind ≠ "comment") := by
    funext child
    rw [Option.any_some, Bool.and_assoc, Bool.and_comm]
  unfold Using.targetNode?
  dsimp only
  rw [aliased, split, ← List.filter_filter]
  show (List.filter _ (solid node.children)).getLast? = some value
  rw [solids, List.filter_cons, if_neg, List.filter_cons, if_pos]
  · rfl
  · simp [notClause, apart]
  · rcases out with clause | same
    · simp [clause]
    · simp [same]

theorem parts_of_row (formed : equation.Formed) (fillers : ∀ child ∈ front ++ back, child.IsFiller)
    (children : node.children = front ++ (equation.row ++ back))
    (field : equation.name.field? = some "name" ∨ equation.name.field? = none) :
    Using.aliasNode? node = some equation.name ∧ Using.targetNode? node = some equation.value := by
  obtain ⟨inFront, inBack⟩ := List.forall_mem_append.mp fillers
  have solids : solid node.children = [equation.name, equation.value] := by
    rw [children, formed.solid_row fillers]
  have kinds := formed.row_kinds (by decide : "name_equals" ∈ tellingKinds) (by decide) (by decide)
  have nameKind := kinds equation.name (mem_row.mpr (.inl rfl))
  have valueKind := kinds equation.value (mem_row.mpr (.inr (.inr rfl)))
  have noClause : ([equation.name, equation.value].find? fun child =>
      child.kind = "name_equals") = none := by
    rw [List.find?_cons, decide_eq_false nameKind, List.find?_cons, decide_eq_false valueKind]
    rfl
  have nameless {nodes : List Node} (others : ∀ child ∈ nodes, child.field? ≠ some "name") :
      (nodes.find? fun child => child.field? = some "name") = none :=
    List.find?_eq_none.mpr fun child member found =>
      others child member (of_decide_eq_true found)
  have namelessFront := nameless fun child member => (inFront child member).nameless
  have namelessRest := nameless (List.forall_mem_append.mpr
    ⟨formed.others_nameless, fun child member => (inBack child member).nameless⟩)
  have named : node.child? "name" =
      if equation.name.field? = some "name" then some equation.name else none := by
    unfold Node.child?
    rw [children, List.find?_append, namelessFront, Option.none_or, row, List.cons_append,
      List.find?_cons, namelessRest]
    by_cases inField : equation.name.field? = some "name"
    · rw [decide_eq_true inField, if_pos inField]
    · rw [decide_eq_false inField, if_neg inField]
  have sign : node.hasChild "=" = true := by
    apply List.any_eq_true.mpr
    refine ⟨equation.equals, ?_, decide_eq_true formed.sign⟩
    have inside : equation.equals ∈ equation.between :=
      List.mem_append_right _ List.mem_cons_self
    rw [children, List.mem_append, List.mem_append, mem_row]
    exact .inr (.inl (.inr (.inl inside)))
  have aliased : Using.aliasNode? node = some equation.name := by
    unfold Using.aliasNode?
    dsimp only
    rw [show (node.namedChildren.filter fun child => child.kind ≠ "comment") = _ from solids,
      noClause, named, sign]
    rcases field with inField | fieldless
    · rw [if_pos inField]
    · rw [if_neg (fieldless ▸ (Option.some_ne_none _).symm)]
      rfl
  exact ⟨aliased, target_of_pair solids aliased (.inr ⟨rfl, rfl⟩) valueKind
    (Nat.ne_of_lt formed.order)⟩

theorem parts_of_clause (formed : equation.Formed)
    (fillers : ∀ child ∈ front ++ back, child.IsFiller)
    (children : node.children = front ++ (equation.inDirective .nameClause ++ back)) :
    Using.aliasNode? node = some equation.name ∧ Using.targetNode? node = some equation.value := by
  have solids : solid node.children = [equation.nameClause, equation.value] := by
    rw [children, formed.solid_clause fillers]
  have aliased : Using.aliasNode? node = some equation.name := by
    unfold Using.aliasNode?
    dsimp only
    rw [show (node.namedChildren.filter fun child => child.kind ≠ "comment") = _ from solids]
    exact formed.clause_name
  have valueKind : equation.value.kind ≠ "name_equals" :=
    fun clause => formed.valueKind (clause ▸ by decide)
  exact ⟨aliased, target_of_pair solids aliased (.inl rfl) valueKind (Nat.ne_of_lt formed.order)⟩

def directive (source : Source) (around : List Node) (text : String) (equation : Equation) :
    Using :=
  { target := withoutGlobalMark (source.compactText equation.value)
    alias? := some (source.text equation.name)
    isGlobal := around.any (·.kind = "global")
    isStatic := around.any (·.kind = "static")
    text }

theorem keyword_around {keyword : String} {middle : List Node}
    (children : node.children = front ++ (middle ++ back))
    (apart : ∀ child ∈ middle, child.kind ≠ keyword) :
    node.hasChild keyword = (front ++ back).any (·.kind = keyword) := by
  have none : middle.any (·.kind = keyword) = false :=
    List.any_eq_false.mpr fun child member found => apart child member (of_decide_eq_true found)
  unfold Node.hasChild
  rw [children, List.any_append, List.any_append, none, Bool.false_or, List.any_append]

theorem Formed.directive_kinds (formed : equation.Formed) {keyword : String}
    (isKeyword : keyword ∈ ["global", "static"]) (shape : DirectiveShape) :
    ∀ node ∈ equation.inDirective shape, node.kind ≠ keyword := by
  have telling : keyword ∈ tellingKinds := by
    revert keyword
    decide
  have notComment : keyword ≠ "comment" ∧ keyword ≠ "=" ∧ keyword ≠ "name_equals" := by
    revert keyword
    decide
  obtain ⟨notComment, notSign, notClause⟩ := notComment
  have moved (field? : Option String) :=
    (formed.fields_as field? formed.valueField).row_kinds telling notComment notSign
  cases shape with
  | nameField => exact moved _
  | bare => exact moved _
  | nameClause =>
      intro node member
      rcases List.mem_cons.mp member with rfl | value
      · exact Ne.symm notClause
      · apply formed.row_kinds telling notComment notSign
        rw [row, ← value_part_eq]
        exact List.mem_cons_of_mem _ (List.mem_append_right _ (List.mem_cons_of_mem _ value))

/-- A directive for an alias is read alike from every shape of its tree. -/
theorem directive_read (source : Source) (formed : equation.Formed) (shape : DirectiveShape)
    (fillers : ∀ child ∈ front ++ back, child.IsFiller)
    (children : node.children = front ++ (equation.inDirective shape ++ back)) :
    Using.ofNode? source node =
      some (equation.directive source (front ++ back) (source.squeezedText node)) := by
  obtain ⟨name, value, ⟨aliased, target⟩, sameName, sameValue⟩ : ∃ name value,
      (Using.aliasNode? node = some name ∧ Using.targetNode? node = some value) ∧
        source.text name = source.text equation.name ∧
        source.compactText value = source.compactText equation.value := by
    cases shape with
    | nameField =>
        have moved := formed.fields_as (some "name") formed.valueField
        exact ⟨_, _, parts_of_row moved fillers children (.inl rfl), rfl, rfl⟩
    | nameClause => exact ⟨_, _, parts_of_clause formed fillers children, rfl, rfl⟩
    | bare =>
        have moved := formed.fields_as none formed.valueField
        exact ⟨_, _, parts_of_row moved fillers children (.inr rfl), rfl, rfl⟩
  unfold Using.ofNode? directive
  rw [target, aliased, keyword_around children (formed.directive_kinds (by simp) shape),
    keyword_around children (formed.directive_kinds (by simp) shape), Option.map_some,
    Option.map_some, sameName, sameValue]

end Directives

end Equation

end PropertyGen
