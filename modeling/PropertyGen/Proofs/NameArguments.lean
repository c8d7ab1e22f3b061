import PropertyGen.Proofs.Agreement
import PropertyGen.Proofs.Meanings
import PropertyGen.Proofs.Returns

/-!
The expressions that markers give for names. The first attribute of a field that binds to the marker
has the name argument, and the value of the first expression with that name settles the field.
-/

namespace PropertyGen

namespace Program

variable (program : Program)

def typeOfAttribute? (source : Source) (scope : Scope) (node : Node) : Option String :=
  (node.childOr? "name" ["identifier", "qualified_name", "alias_qualified_name"]).bind fun name =>
    program.attributeType? (source.compactText name) scope

def markerNode? (marker : String) (source : Source) (field : Site) : Option Node :=
  (namedAttributes field.node).find? fun node =>
    program.typeOfAttribute? source (program.scope source field) node = some marker

/-- The expression that the first attribute which binds to the marker has for the name. -/
def nameNode? (marker : String) (source : Source) (declarator : Site) : Option Node :=
  (fieldOf? declarator).bind fun found =>
    (program.markerNode? marker source found.1).bind fun first =>
      ((Argument.allOf source first).find? fun argument =>
        argument.name? = some Marker.nameArgument).map (·.value)

/-- A declarator of a marked field that can back a property, with the expression for its name. -/
structure NamedBy (marker : String) (source : Source) (declarator : Site) (marking : Marking)
    (node : Node) : Prop where
  declared : (program.fieldSymbol? source declarator).outcome = .ok (some marking.field)
  marked : Marking.ofField? marker marking.field = some marking
  supported : marking.field.unsupported? = none
  named : program.nameNode? marker source declarator = some node

variable {program} {marker : String} {source : Source}

theorem has_name_of_type {scope : Scope} {node : Node} {type : String}
    (binds : program.typeOfAttribute? source scope node = some type) :
    (node.childOr? "name" ["identifier", "qualified_name", "alias_qualified_name"]).isSome := by
  obtain ⟨name, found, -⟩ := Option.bind_eq_some_iff.mp binds
  rw [found, Option.isSome_some]

theorem attribute_use_some {scope : Scope} {node : Node} {used : AttributeUse}
    (returned : (program.attributeUse? source scope node).outcome = .ok (some used)) :
    used.type? = program.typeOfAttribute? source scope node ∧
      ∃ values, List.Forall₂
          (fun argument value => (program.argumentValue source scope argument).outcome = .ok value)
          (Argument.allOf source node) values ∧
        used.named = values.filterMap fun value => value.1.map fun name => (name, value.2) := by
  unfold attributeUse? at returned
  unfold typeOfAttribute?
  cases named : node.childOr? "name" ["identifier", "qualified_name", "alias_qualified_name"] with
  | none =>
      rw [named] at returned
      cases Except.ok.inj returned
  | some name =>
      rw [named] at returned
      obtain ⟨-, -, later⟩ := Logged.bind_returns.mp returned
      obtain ⟨values, folded, made⟩ := Logged.bind_returns.mp later
      rw [← Option.some.inj (Except.ok.inj made), Option.bind_some]
      constructor
      · rw [attributeType?]
      · exact ⟨values, Logged.for_each_returns.mp folded, rfl⟩

theorem attribute_use_none {scope : Scope} {node : Node}
    (returned : (program.attributeUse? source scope node).outcome = .ok none) :
    program.typeOfAttribute? source scope node = none := by
  unfold attributeUse? at returned
  unfold typeOfAttribute?
  cases named : node.childOr? "name" ["identifier", "qualified_name", "alias_qualified_name"] with
  | none => rfl
  | some name =>
      rw [named] at returned
      obtain ⟨-, -, later⟩ := Logged.bind_returns.mp returned
      obtain ⟨values, folded, made⟩ := Logged.bind_returns.mp later
      cases Except.ok.inj made

theorem argument_folded {scope : Scope} {arguments : List Argument}
    {values : List (Option String × Folding)}
    (each : List.Forall₂
      (fun argument value => (program.argumentValue source scope argument).outcome = .ok value)
      arguments values) {name : String} {argument : Argument}
    (found : (arguments.find? fun argument => argument.name? = some name) = some argument) :
    ∃ folding, ((Expression.ofNode source argument.value).fold fun name =>
        program.constantValue name scope).outcome = .ok folding ∧
      (((values.filterMap fun value => value.1.map fun name => (name, value.2)).find? fun value =>
        value.1 = name).map (·.2)) = some folding := by
  have agrees (argument : Argument) (value : Option String × Folding)
      (returned : (program.argumentValue source scope argument).outcome = .ok value) :
      (value.1.map fun name => (name, value.2)).any (fun value => value.1 = name) =
        decide (argument.name? = some name) := by
    obtain ⟨folding, -, same⟩ := Logged.bind_returns.mp returned
    rw [← show (argument.name?, folding) = value from Except.ok.inj same]
    cases argument.name? with
    | none => rfl
    | some other => simp
  obtain ⟨value, named, returned, selected, isFirst⟩ := forall_two_find each agrees found
  obtain ⟨folding, folded, same⟩ := Logged.bind_returns.mp returned
  refine ⟨folding, folded, ?_⟩
  obtain ⟨written, -, rfl⟩ := Option.map_eq_some_iff.mp selected
  rw [isFirst, Option.map_some, ← show (argument.name?, folding) = value from Except.ok.inj same]

theorem marker_node_used {site : Site} {marking : Marking}
    (attributes : (program.attributesOf source (program.scope source site) site.node).outcome =
      .ok marking.field.attributes) (marked : Marking.ofField? marker marking.field = some marking)
    {first : Node} (isFirst : program.markerNode? marker source site = some first) :
    (program.attributeUse? source (program.scope source site) first).outcome =
      .ok (some marking.first) := by
  obtain ⟨results, all, same⟩ := Logged.bind_returns.mp attributes
  unfold markerNode? namedAttributes at isFirst
  rw [List.find?_filter] at isFirst
  simp only [decide_eq_true_eq, and_iff_right_of_imp has_name_of_type] at isFirst
  have agrees (node : Node) (result : Option AttributeUse)
      (returned : (program.attributeUse? source (program.scope source site) node).outcome =
        .ok result) :
      (id result).any (fun used => used.type? = some marker) =
        decide (program.typeOfAttribute? source (program.scope source site) node = some marker) := by
    cases result with
    | none =>
        rw [attribute_use_none returned]
        rfl
    | some used => rw [id, Option.any_some, (attribute_use_some returned).1]
  obtain ⟨result, used, returned, rfl, first⟩ :=
    forall_two_find (Logged.for_each_returns.mp all) agrees isFirst
  have markers := (Marking.of_field_some.mp marked).2
  unfold FieldSymbol.markers at markers
  rw [← Except.ok.inj same] at markers
  rw [← List.head?_filter, markers] at first
  rw [Option.some.inj first]
  exact returned

section Named

variable {declarator : Site} {marking : Marking} {node : Node}
  (named : program.NamedBy marker source declarator marking node)
include named

theorem NamedBy.folded :
    ∃ scope folding, ((Expression.ofNode source node).fold fun name =>
        program.constantValue name scope).outcome = .ok folding ∧
      marking.argument? = some folding := by
  obtain ⟨site, declaration, ofField, -, -, attributes⟩ := field_symbol_scope named.declared
  have isNamed := named.named
  unfold nameNode? at isNamed
  rw [ofField, Option.bind_some] at isNamed
  obtain ⟨first, isFirst, later⟩ := Option.bind_eq_some_iff.mp isNamed
  obtain ⟨argument, isArgument, rfl⟩ := Option.map_eq_some_iff.mp later
  have used := marker_node_used attributes named.marked isFirst
  obtain ⟨-, values, each, written⟩ := attribute_use_some used
  obtain ⟨folding, folded, own⟩ := argument_folded each isArgument
  refine ⟨_, folding, folded, ?_⟩
  unfold Marking.argument? AttributeUse.argument?
  rw [written]
  exact own

/-- What becomes of a field is settled by the value of the expression for its name. -/
theorem NamedBy.settled {folding : Folding} (argument : marking.argument? = some folding) :
    marking.verdict =
      if Verdict.isName folding then .accepted marking.resolved else .nonConstantName := by
  unfold Marking.verdict Verdict.ofField
  rw [named.supported]
  show (if marking.argument?.all Verdict.isName then Verdict.accepted marking.resolved
    else .nonConstantName) = _
  rw [argument, Option.all_some]

theorem NamedBy.accepted {name : String}
    (folds : ∀ lookup : String → Logged Folding,
      ((Expression.ofNode source node).fold lookup).outcome = .ok (some (.text name))) :
    (program.resolveDeclarator? marker source declarator).outcome = .ok (some marking.resolved) ∧
      marking.resolved.override? = some name := by
  obtain ⟨scope, folding, folded, argument⟩ := named.folded
  have isText : folding = some (.text name) := Except.ok.inj (folded.symm.trans (folds _))
  rw [isText] at argument
  have verdict := named.settled argument
  constructor
  · rw [(program.resolve_declarator_returns marker named.declared).1, Option.bind_some,
      named.marked, Option.bind_some, verdict]
    rfl
  · unfold ResolvedField.override?
    rw [show marking.resolved.nameArgument? = marking.argument? from rfl, argument]
    rfl

theorem NamedBy.skipped
    (folds : ∀ lookup : String → Logged Folding,
      ((Expression.ofNode source node).fold lookup).outcome = .ok none) :
    (program.resolveDeclarator? marker source declarator).outcome = .ok none ∧
      Templates.nonConstantName.report marking.first.location? [marking.field.display] ∈
        (program.resolveDeclarator? marker source declarator).diagnostics := by
  obtain ⟨scope, folding, folded, argument⟩ := named.folded
  have isNone : folding = none := Except.ok.inj (folded.symm.trans (folds _))
  rw [isNone] at argument
  have verdict := named.settled argument
  obtain ⟨returned, reports⟩ := program.resolve_declarator_returns marker named.declared
  rw [returned, reports, Option.bind_some, named.marked, Option.bind_some, verdict]
  refine ⟨rfl, List.mem_flatMap.mpr ⟨marking, List.mem_singleton_self marking, ?_⟩⟩
  unfold Marking.reports
  rw [verdict]
  exact List.mem_append_right _ (List.mem_singleton_self _)

end Named

end Program

end PropertyGen
