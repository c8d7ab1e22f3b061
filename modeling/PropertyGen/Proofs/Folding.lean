import PropertyGen.Program.Constants
import PropertyGen.Proofs.Literals

/-!
Expressions that cannot be folded. Folding faults exactly if some leaf without a value is
reached, through parts of expressions and through the constants that names in them mean.
-/

namespace PropertyGen

namespace Expression

/-- The leaves and names of an expression, from left to right. -/
def parts : Expression → List Expression
  | .leaf folding => [.leaf folding]
  | .name text => [.name text]
  | .parenthesized inner => inner.parts
  | .negated operand => operand.parts
  | .joined left right => left.parts ++ right.parts

/-- Folding faults if a leaf does or if the value of a name cannot be had. -/
theorem fold_faults (lookup : String → Logged Folding) (expression : Expression) :
    (∃ fault, (expression.fold lookup).outcome = .error fault) ↔
      (∃ fault, .leaf (.error fault) ∈ expression.parts) ∨
        ∃ text, .name text ∈ expression.parts ∧ ∃ fault, (lookup text).outcome = .error fault := by
  induction expression with
  | leaf folding => simp [fold, parts, eq_comm]
  | name text => simp [fold, parts]
  | parenthesized inner induction => exact induction
  | negated operand induction =>
      rw [fold, Logged.bind_faults, induction, parts]
      simp
  | joined left right leftInduction rightInduction =>
      have total : (∃ fault, ((left.joined right).fold lookup).outcome = .error fault) ↔
          (∃ fault, (left.fold lookup).outcome = .error fault) ∨
            ∃ fault, (right.fold lookup).outcome = .error fault := by
        rw [fold, Logged.bind_faults]
        simp only [Logged.bind_faults, Logged.outcome_pure]
        cases leftFold : (left.fold lookup).outcome with
        | error fault => simp
        | ok first => simp
      rw [total, leftInduction, rightInduction, parts]
      simp only [List.mem_append]
      constructor
      · intro given
        rcases given with (⟨fault, leaf⟩ | ⟨text, name, faults⟩) | (⟨fault, leaf⟩ | ⟨text, name, faults⟩)
        · exact .inl ⟨fault, .inl leaf⟩
        · exact .inr ⟨text, .inl name, faults⟩
        · exact .inl ⟨fault, .inr leaf⟩
        · exact .inr ⟨text, .inr name, faults⟩
      · intro given
        rcases given with ⟨fault, leaf | leaf⟩ | ⟨text, name | name, faults⟩
        · exact .inl (.inl ⟨fault, leaf⟩)
        · exact .inr (.inl ⟨fault, leaf⟩)
        · exact .inl (.inr ⟨text, name, faults⟩)
        · exact .inr (.inr ⟨text, name, faults⟩)

/-- Nodes whose value is read off a literal or off other nodes. -/
def isStructured (source : Source) (node : Node) : Bool :=
  ["null_literal", "boolean_literal", "integer_literal", "binary_expression"].contains node.kind ||
    stringLiteralKinds.contains node.kind ||
    (node.kind = "parenthesized_expression" && !node.namedChildren.isEmpty) ||
    (node.kind = "prefix_unary_expression" && !node.namedChildren.isEmpty &&
      (Text.trim (source.text node)).toList.head? = some '-')

theorem name_of_faults (target : String) :
    (∃ fault, nameOf target = .error fault) ↔ Names.segments target = [] := by
  unfold nameOf
  cases last : (Names.segments target).getLast? with
  | none => simp [List.getLast?_eq_none_iff.mp last]
  | some segment =>
      constructor
      · intro given
        rcases given with ⟨fault, same⟩
        cases same
      · intro none
        rw [none] at last
        cases last

theorem of_simple_faults (source : Source) (node : Node) :
    (∃ fault, ofSimple source node = .leaf (.error fault)) ↔
      ∃ target, nameOfTarget? (source.compactText node) = some target ∧
        Names.segments target = [] := by
  unfold ofSimple
  dsimp only
  cases nameOfTarget? (source.compactText node) with
  | none =>
      by_cases named : nameKinds.contains node.kind = true
      · simp only [named, if_true]
        simp
      · simp only [named]
        simp [constant]
  | some target => simp [name_of_faults]

theorem named_parts (node : Node) (source : Source) :
    ((node.children.zip (ofNodes source node.children)).filter fun part => part.1.named).map (·.1) =
      node.namedChildren := by
  unfold Node.namedChildren
  induction node.children with
  | nil => rfl
  | cons child rest induction =>
      rw [ofNodes, List.zip_cons_cons, List.filter_cons, List.filter_cons]
      by_cases named : child.named <;> simp [named, induction]

theorem of_node_assembled (source : Source) (node : Node) :
    ofNode source node = assemble source node (ofNodes source node.children) := by
  cases node
  rw [ofNode]

theorem of_node_unstructured {source : Source} {node : Node}
    (unstructured : isStructured source node = false) :
    ofNode source node = ofSimple source node := by
  have empty := congrArg List.isEmpty (named_parts node source)
  rw [List.isEmpty_map] at empty
  unfold isStructured at unstructured
  rw [Bool.or_eq_false_iff, Bool.or_eq_false_iff, Bool.or_eq_false_iff] at unstructured
  obtain ⟨⟨⟨plain, noString⟩, notParenthesized⟩, notNegated⟩ := unstructured
  have apart : node.kind ≠ "null_literal" ∧ node.kind ≠ "boolean_literal" ∧
      node.kind ≠ "integer_literal" ∧ node.kind ≠ "binary_expression" := by simpa using plain
  obtain ⟨notNull, notBoolean, notInteger, notBinary⟩ := apart
  rw [of_node_assembled]
  unfold assemble
  dsimp only
  rw [if_neg notNull, if_neg notBoolean, if_neg (ne_true_of_eq_false noString), if_neg notInteger,
    if_neg notBinary]
  rw [← empty] at notParenthesized notNegated
  generalize (node.children.zip (ofNodes source node.children)).filter (fun part => part.1.named) =
    named at notParenthesized notNegated ⊢
  split
  · next first kind head =>
      have some := List.isEmpty_eq_false_iff.mpr (List.ne_nil_of_mem (List.mem_of_head? head))
      rw [kind, some] at notParenthesized
      exact absurd notParenthesized (by decide)
  · next last kind lastPart =>
      have some :=
        List.isEmpty_eq_false_iff.mpr (List.ne_nil_of_mem (List.mem_of_getLast? lastPart))
      rw [if_neg]
      intro sign
      rw [kind, some, sign] at notNegated
      exact absurd notNegated (by decide)
  · rfl

theorem child_said (source : Source) (node : Node) (field : String) :
    ((node.children.zip (ofNodes source node.children)).find? fun part =>
      part.1.field? = some field).map (·.2) = (node.child? field).map (ofNode source) := by
  unfold Node.child?
  induction node.children with
  | nil => rfl
  | cons child rest induction =>
      rw [ofNodes, List.zip_cons_cons, List.find?_cons, List.find?_cons]
      cases decide (child.field? = some field) with
      | true => rfl
      | false => exact induction

theorem of_node_binary {source : Source} {node : Node}
    (isBinary : node.kind = "binary_expression") :
    ofNode source node =
      match (node.child? "left").map (ofNode source), (node.child? "right").map (ofNode source) with
      | some left, some right => if operator node = "+" then .joined left right else constant none
      | _, _ => constant none := by
  have notString : stringLiteralKinds.contains node.kind = false := by
    rw [isBinary]
    decide
  rw [← child_said, ← child_said, of_node_assembled]
  unfold assemble
  dsimp only
  rw [if_neg (by rw [isBinary]; decide), if_neg (by rw [isBinary]; decide),
    if_neg (ne_true_of_eq_false notString), if_neg (by rw [isBinary]; decide)]
  exact if_pos isBinary

theorem of_node_compared {source : Source} {node : Node}
    (isBinary : node.kind = "binary_expression") (other : operator node ≠ "+") :
    ofNode source node = constant none := by
  rw [of_node_binary isBinary]
  split
  · exact if_neg other
  · rfl

def Joins (source : Source) (lookup : String → Logged Folding) (node : Node) (text : Points) :
    Prop :=
  operator node = "+" ∧ ∃ left right first second,
    node.child? "left" = some left ∧ node.child? "right" = some right ∧
      ((ofNode source left).fold lookup).outcome = .ok (some (.text first)) ∧
      ((ofNode source right).fold lookup).outcome = .ok (some (.text second)) ∧
      text = first ++ second

theorem binary_folds {source : Source} {node : Node} (isBinary : node.kind = "binary_expression")
    {lookup : String → Logged Folding} {folding : Folding}
    (returned : ((ofNode source node).fold lookup).outcome = .ok folding) :
    folding = none ∨ ∃ text, folding = some (.text text) ∧ Joins source lookup node text := by
  rw [of_node_binary isBinary] at returned
  cases leftChild : node.child? "left" with
  | none =>
      rw [leftChild] at returned
      exact .inl (Except.ok.inj returned).symm
  | some left =>
      cases rightChild : node.child? "right" with
      | none =>
          rw [leftChild, rightChild] at returned
          exact .inl (Except.ok.inj returned).symm
      | some right =>
          rw [leftChild, rightChild, Option.map_some, Option.map_some] at returned
          dsimp only at returned
          by_cases joins : operator node = "+"
          · rw [if_pos joins, fold] at returned
            obtain ⟨first, leftValue, later⟩ := Logged.bind_returns.mp returned
            obtain ⟨second, rightValue, last⟩ := Logged.bind_returns.mp later
            have same : first.joined second = folding := Except.ok.inj last
            unfold Folding.joined at same
            split at same
            · exact .inr ⟨_, same.symm, joins, left, right, _, _, leftChild, rightChild, leftValue,
                rightValue, rfl⟩
            · exact .inl same.symm
          · rw [if_neg joins] at returned
            exact .inl (Except.ok.inj returned).symm

theorem leaf_faults (source : Source) (node : Node) :
    (∃ fault, ofNode source node = .leaf (.error fault)) ↔
      (stringLiteralKinds.contains node.kind = true ∧
        ∃ fault, Literal.decode (Text.trim (source.text node)) = .error fault) ∨
      (isStructured source node = false ∧
        ∃ target, nameOfTarget? (source.compactText node) = some target ∧
          Names.segments target = []) := by
  have namedParts := named_parts node source
  rw [of_node_assembled, ← of_simple_faults]
  unfold assemble isStructured
  dsimp only
  generalize (node.children.zip (ofNodes source node.children)).filter (fun part => part.1.named) =
    named at namedParts ⊢
  have empty : node.namedChildren.isEmpty = named.isEmpty := by rw [← namedParts, List.isEmpty_map]
  rw [empty]
  by_cases isNull : node.kind = "null_literal"
  · simp [isNull, constant, stringLiteralKinds]
  by_cases isBoolean : node.kind = "boolean_literal"
  · simp [isBoolean, constant, stringLiteralKinds]
  by_cases isString : stringLiteralKinds.contains node.kind = true
  · simp only [isNull, isBoolean, isString, if_true, if_false]
    simp [map_faults]
  by_cases isInteger : node.kind = "integer_literal"
  · simp [isInteger, constant, stringLiteralKinds]
  rw [if_neg isNull, if_neg isBoolean, if_neg isString, if_neg isInteger]
  by_cases isBinary : node.kind = "binary_expression"
  · rw [if_pos isBinary]
    split
    · split <;> simp [constant, isBinary, stringLiteralKinds]
    · simp [constant, isBinary, stringLiteralKinds]
  have plain : ["null_literal", "boolean_literal", "integer_literal",
      "binary_expression"].contains node.kind = false := by
    simp [isNull, isBoolean, isInteger, isBinary]
  rw [if_neg isBinary, plain]
  have noString : stringLiteralKinds.contains node.kind = false := by simpa using isString
  rw [noString]
  split
  · next first kind head =>
      have nonempty : named.isEmpty = false := by
        cases named with
        | nil => cases head
        | cons part rest => rfl
      simp [kind, nonempty]
  · next last kind lastEq =>
      have nonempty : named.isEmpty = false := by
        cases named with
        | nil => cases lastEq
        | cons part rest => rfl
      by_cases sign : (Text.trim (source.text node)).toList.head? = some '-'
      · simp [kind, nonempty, sign]
      · simp [kind, nonempty, sign]
  · next notParenthesized notUnary =>
      cases named with
      | nil => simp
      | cons part rest =>
          have noParenthesis : node.kind ≠ "parenthesized_expression" :=
            fun kind => notParenthesized part kind rfl
          have noUnary : node.kind ≠ "prefix_unary_expression" :=
            fun kind => notUnary _ kind List.getLast?_cons
          simp [noParenthesis, noUnary]

end Expression

namespace Program

variable (program : Program)

/-- The expressions that folding gets to from an expression in a scope, with the constants on the
way to them. -/
inductive Along : List ConstantDeclaration → Expression → Scope → Expression → Prop
  | here (expression : Expression) (scope : Scope) : Along [] expression scope expression
  | through (expression : Expression) (scope : Scope) (text : String)
      (constant : ConstantDeclaration) (path : List ConstantDeclaration) (target : Expression)
      (mentioned : .name text ∈ expression.parts)
      (meant : program.constant? text scope = some constant)
      (later : Along path constant.expression (constant.scope program.globals) target) :
      Along (constant :: path) expression scope target

variable {program}

theorem constant_first {text : String} {scope : Scope} {constant : ConstantDeclaration}
    (meant : program.constant? text scope = some constant) :
    program.constants.find? (fun other => other.key = constant.key) = some constant := by
  unfold constant? at meant
  generalize program.constantOwners text scope = owners at meant
  obtain ⟨owner, -, found⟩ := List.exists_of_findSome?_eq_some meant
  have key : constant.key = Names.member owner owners.2 := by
    simpa only [decide_eq_true_eq] using List.find?_some found
  rw [key]
  exact found

theorem along_first {path : List ConstantDeclaration} {expression target : Expression} {scope : Scope}
    (along : program.Along path expression scope target) {constant : ConstantDeclaration}
    (member : constant ∈ path) :
    program.constants.find? (fun other => other.key = constant.key) = some constant := by
  induction along with
  | here => cases member
  | through expression scope text first path target mentioned meant later induction =>
      rcases List.mem_cons.mp member with rfl | inside
      · exact constant_first meant
      · exact induction inside

theorem along_rest {before after : List ConstantDeclaration} {constant : ConstantDeclaration}
    {expression target : Expression} {scope : Scope}
    (along : program.Along (before ++ constant :: after) expression scope target) :
    program.Along after constant.expression (constant.scope program.globals) target := by
  induction before generalizing expression scope with
  | nil =>
      cases along with
      | through _ _ _ _ _ _ _ _ later => exact later
  | cons first rest induction =>
      cases along with
      | through _ _ _ _ _ _ _ _ later => exact induction later

/-- What is reached at all is reached without meeting a constant twice: where the constant just
met comes again later, all up to its last place is left out. -/
theorem along_without_repetition {path : List ConstantDeclaration}
    {expression target : Expression} {scope : Scope}
    (along : program.Along path expression scope target) :
    ∃ direct, program.Along direct expression scope target ∧ (direct.map (·.key)).Nodup := by
  induction along with
  | here expression scope => exact ⟨[], .here expression scope, List.nodup_nil⟩
  | through expression scope text constant path target mentioned meant later induction =>
      obtain ⟨direct, alongDirect, once⟩ := induction
      by_cases again : constant.key ∈ direct.map (·.key)
      · obtain ⟨last, inside, sameKey⟩ := List.mem_map.mp again
        have first := along_first alongDirect inside
        rw [sameKey, constant_first meant] at first
        have same : constant = last := Option.some.inj first
        subst same
        obtain ⟨before, after, split⟩ := List.append_of_mem inside
        rw [split] at alongDirect once
        refine ⟨constant :: after,
          .through expression scope text constant after target mentioned meant
            (along_rest alongDirect), ?_⟩
        rw [List.map_append] at once
        exact (List.nodup_append.mp once).2.1
      · exact ⟨constant :: direct,
          .through expression scope text constant direct target mentioned meant alongDirect,
          List.nodup_cons.mpr ⟨again, once⟩⟩

theorem find_constant_returns (program : Program) (text : String) (scope : Scope) :
    ∃ found, (program.findConstant text scope).outcome = .ok found ∧
      found.map Subtype.val = program.constant? text scope := by
  refine ⟨_, rfl, ?_⟩
  split
  · next meant => exact meant.symm
  · next constant meant => exact meant.symm

def valueUsing (program : Program) (used : List String) (scope : Scope) (text : String) :
    Logged Folding :=
  ConstantDeclaration.foldName program.findConstant program.globals used text scope

theorem value_using_outcome (program : Program) (used : List String) (scope : Scope)
    (text : String) :
    (program.valueUsing used scope text).outcome =
      match program.constant? text scope with
      | none => .ok none
      | some constant =>
          if constant.key ∈ used then .ok none
          else (constant.expression.fold (program.valueUsing (constant.key :: used)
            (constant.scope program.globals))).outcome := by
  obtain ⟨found, returned, same⟩ := program.find_constant_returns text scope
  unfold valueUsing
  rw [ConstantDeclaration.foldName, Logged.outcome_bind, returned, ← same]
  cases found with
  | none => rfl
  | some constant =>
      by_cases inUse : constant.val.key ∈ used
      · simp only [Except.bind, inUse, dite_true, Option.map_some, if_true]
        rfl
      · simp only [Except.bind, inUse, dite_false, Option.map_some, if_false]

/-- If folding faults, a leaf without a value is reached: each step down takes a constant out of
the unused ones. -/
theorem reached_of_fault {used : List String} {expression : Expression} {scope : Scope}
    (faults : ∃ fault, (expression.fold (program.valueUsing used scope)).outcome = .error fault) :
    ∃ path target fault, program.Along path expression scope target ∧
      .leaf (.error fault) ∈ target.parts := by
  induction steps : (ConstantDeclaration.unused program.constants used).length
    using Nat.strongRecOn generalizing used expression scope with
  | ind steps induction =>
      rcases (Expression.fold_faults _ expression).mp faults with
        ⟨fault, leaf⟩ | ⟨text, mentioned, nameFaults⟩
      · exact ⟨[], expression, fault, .here expression scope, leaf⟩
      · rw [value_using_outcome] at nameFaults
        cases meant : program.constant? text scope with
        | none =>
            rw [meant] at nameFaults
            obtain ⟨fault, same⟩ := nameFaults
            cases same
        | some constant =>
            rw [meant] at nameFaults
            by_cases inUse : constant.key ∈ used
            · simp only [inUse, if_true] at nameFaults
              obtain ⟨fault, same⟩ := nameFaults
              cases same
            · simp only [inUse, if_false] at nameFaults
              have fewer := ConstantDeclaration.length_unused_lt
                (program.mem_of_constant? meant) inUse
              obtain ⟨path, target, fault, along, leaf⟩ :=
                induction _ (steps ▸ fewer) nameFaults rfl
              exact ⟨constant :: path, target, fault,
                .through expression scope text constant path target mentioned meant along, leaf⟩

/-- A leaf without a value is folded if it is reached on a way whose constants are not in use. -/
theorem fault_of_reached {path : List ConstantDeclaration} {expression target : Expression}
    {scope : Scope} (along : program.Along path expression scope target) {fault : Fault}
    (leaf : .leaf (.error fault) ∈ target.parts) (used : List String)
    (once : (path.map (·.key)).Nodup) (unused : ∀ constant ∈ path, constant.key ∉ used) :
    ∃ fault, (expression.fold (program.valueUsing used scope)).outcome = .error fault := by
  induction along generalizing used with
  | here expression scope => exact (Expression.fold_faults _ expression).mpr (.inl ⟨fault, leaf⟩)
  | through expression scope text constant path target mentioned meant later induction =>
      obtain ⟨apart, restOnce⟩ := List.nodup_cons.mp once
      obtain ⟨fresh, restUnused⟩ := List.forall_mem_cons.mp unused
      refine (Expression.fold_faults _ expression).mpr (.inr ⟨text, mentioned, ?_⟩)
      rw [value_using_outcome, meant]
      simp only [fresh, if_false]
      apply induction leaf (constant.key :: used) restOnce
      intro other inside again
      rcases List.mem_cons.mp again with same | before
      · exact apart (List.mem_map.mpr ⟨other, inside, same⟩)
      · exact restUnused other inside before

def ReachesFault (program : Program) (expression : Expression) (scope : Scope) : Prop :=
  ∃ path target fault, program.Along path expression scope target ∧
    .leaf (.error fault) ∈ target.parts

theorem fold_returns_iff (program : Program) (expression : Expression) (scope : Scope) :
    (∃ folding, (expression.fold fun text => program.constantValue text scope).outcome =
        .ok folding) ↔
      ¬ program.ReachesFault expression scope := by
  have faults : (∃ fault, (expression.fold fun text => program.constantValue text scope).outcome =
      .error fault) ↔ program.ReachesFault expression scope := by
    constructor
    · intro faults
      have unused : ∃ fault, (expression.fold (program.valueUsing [] scope)).outcome =
          .error fault := faults
      exact reached_of_fault unused
    · intro given
      rcases given with ⟨path, target, fault, along, leaf⟩
      obtain ⟨direct, alongDirect, once⟩ := along_without_repetition along
      exact fault_of_reached alongDirect leaf [] once fun _ _ => List.not_mem_nil
  rw [← faults]
  cases (expression.fold fun text => program.constantValue text scope).outcome with
  | error fault => simp
  | ok folding => simp

end Program

end PropertyGen
