import PropertyGen.Proofs.Folding
import PropertyGen.Proofs.Marks
import PropertyGen.Proofs.Outline
import PropertyGen.Proofs.Regrouping

/-!
Programs that read some sources alike. If the names written in the sources mean the same types and
constants in two programs, then the same fields are resolved in both, with the same reports.
-/

namespace PropertyGen

namespace Expression

/-- Folding depends on the names in an expression only. -/
theorem fold_congr {first second : String → Logged Folding} (expression : Expression)
    (same : ∀ text, .name text ∈ expression.parts → (second text).outcome = (first text).outcome) :
    (expression.fold second).outcome = (expression.fold first).outcome := by
  induction expression with
  | leaf folding => rfl
  | name text => exact same text List.mem_cons_self
  | parenthesized inner induction => exact induction same
  | negated operand induction =>
      rw [fold, fold, Logged.outcome_bind, Logged.outcome_bind, induction same]
  | joined left right leftInduction rightInduction =>
      have leftSame := leftInduction fun text member => same text (List.mem_append_left _ member)
      have rightSame := rightInduction fun text member => same text (List.mem_append_right _ member)
      simp only [fold, Logged.outcome_bind, leftSame, rightSame, Logged.outcome_pure]

/-- A text that a node of a source covers, without its blanks. -/
def IsWritten (source : Source) (text : String) : Prop := ∃ node, text = source.compactText node

theorem name_of_simple {source : Source} {node : Node} {text : String}
    (mentioned : .name text ∈ (ofSimple source node).parts) : IsWritten source text := by
  unfold ofSimple at mentioned
  dsimp only at mentioned
  split at mentioned
  · cases List.mem_singleton.mp mentioned
  · split at mentioned
    · exact ⟨node, Expression.name.inj (List.mem_singleton.mp mentioned)⟩
    · cases List.mem_singleton.mp mentioned

theorem name_of_assemble {source : Source} {node : Node} {children : List Expression}
    {text : String} (mentioned : .name text ∈ (assemble source node children).parts) :
    IsWritten source text ∨ ∃ child ∈ children, .name text ∈ child.parts := by
  have noName (folding : Folding) : .name text ∉ (constant folding).parts := by
    intro member
    cases List.mem_singleton.mp member
  have inside {part : Node × Expression} (listed : part ∈ node.children.zip children) :
      part.2 ∈ children := (List.of_mem_zip listed).2
  have byField {field : String} {expression : Expression}
      (found : ((node.children.zip children).find? fun part => part.1.field? = some field).map
        (·.2) = some expression) : expression ∈ children := by
    obtain ⟨part, chosen, rfl⟩ := Option.map_eq_some_iff.mp found
    exact inside (List.mem_of_find?_eq_some chosen)
  unfold assemble at mentioned
  dsimp only at mentioned
  split at mentioned
  · exact absurd mentioned (noName _)
  split at mentioned
  · exact absurd mentioned (noName _)
  split at mentioned
  · cases List.mem_singleton.mp mentioned
  split at mentioned
  · exact absurd mentioned (noName _)
  split at mentioned
  · split at mentioned
    · next left right leftFound rightFound =>
        split at mentioned
        · rcases List.mem_append.mp mentioned with inLeft | inRight
          · exact .inr ⟨left, byField leftFound, inLeft⟩
          · exact .inr ⟨right, byField rightFound, inRight⟩
        · exact absurd mentioned (noName _)
    · exact absurd mentioned (noName _)
  split at mentioned
  · next first _ head =>
      have listed := (List.mem_filter.mp (List.mem_of_head? head)).1
      exact .inr ⟨first.2, inside listed, mentioned⟩
  · next last _ lastFound =>
      split at mentioned
      · have listed := (List.mem_filter.mp (List.mem_of_getLast? lastFound)).1
        exact .inr ⟨last.2, inside listed, mentioned⟩
      · exact .inl (name_of_simple mentioned)
  · exact .inl (name_of_simple mentioned)

mutual

theorem name_of_node (source : Source) (text : String) : ∀ node : Node,
    .name text ∈ (ofNode source node).parts → IsWritten source text
  | ⟨kind, named, field?, start, stop, children⟩ => by
      intro mentioned
      rw [ofNode] at mentioned
      rcases name_of_assemble mentioned with own | ⟨child, listed, inChild⟩
      · exact own
      · exact name_of_nodes source text children child listed inChild

theorem name_of_nodes (source : Source) (text : String) : ∀ nodes : List Node,
    ∀ expression ∈ ofNodes source nodes, .name text ∈ expression.parts → IsWritten source text
  | [] => by
      intro expression member
      cases member
  | node :: rest => by
      intro expression member mentioned
      rw [ofNodes] at member
      rcases List.mem_cons.mp member with same | later
      · rw [same] at mentioned
        exact name_of_node source text node mentioned
      · exact name_of_nodes source text rest expression later mentioned

end

end Expression

/-- A declared field with another symbol for the type around it. -/
def FieldSymbol.retyped (change : TypeSymbol → TypeSymbol) (field : FieldSymbol) : FieldSymbol :=
  { field with containing := change field.containing }

namespace Program

def attributeType? (program : Program) (name : String) (scope : Scope) : Option String :=
  (program.resolveName? .attribute name scope).filter fun type => (program.type? type).isSome

/-- Names that stand in some sources mean the same in two programs, except that the second one may
give a type another symbol. -/
structure Agree (change : TypeSymbol → TypeSymbol) (first second : Program)
    (sources : List Source) : Prop where
  names : ∀ symbol, (change symbol).metadataName = symbol.metadataName
  globals : second.globals = first.globals
  attributes : ∀ source ∈ sources, ∀ (node : Node) (site : Site),
    second.attributeType? (source.compactText node) (first.scope source site) =
      first.attributeType? (source.compactText node) (first.scope source site)
  constants : ∀ source ∈ sources, ∀ (node : Node) (site : Site),
    second.constant? (source.compactText node) (first.scope source site) =
      first.constant? (source.compactText node) (first.scope source site)
  declared : ∀ constant ∈ first.constants, constant.source ∈ sources
  containing : ∀ source ∈ sources, ∀ site : Site,
    (first.scope source site).enclosing.head?.bind second.type? =
      ((first.scope source site).enclosing.head?.bind first.type?).map change

namespace Agree

variable {change : TypeSymbol → TypeSymbol} {first second : Program} {sources : List Source}

/-- Names fold alike: on the constants that are not in use yet, of which each step takes one
away. -/
theorem value_using (agree : Agree change first second sources) {source : Source}
    (listed : source ∈ sources) (used : List String) (node : Node) (site : Site) :
    (second.valueUsing used (first.scope source site) (source.compactText node)).outcome =
      (first.valueUsing used (first.scope source site) (source.compactText node)).outcome := by
  induction steps : (ConstantDeclaration.unused first.constants used).length
    using Nat.strongRecOn generalizing used source node site with
  | ind steps induction =>
      rw [value_using_outcome, value_using_outcome, agree.constants source listed node site]
      cases meant : first.constant? (source.compactText node) (first.scope source site) with
      | none => rfl
      | some constant =>
          dsimp only
          by_cases inUse : constant.key ∈ used
          · rw [if_pos inUse, if_pos inUse]
          · rw [if_neg inUse, if_neg inUse]
            have declared := first.mem_of_constant? meant
            have fewer := ConstantDeclaration.length_unused_lt declared inUse
            apply Expression.fold_congr
            intro text mentioned
            obtain ⟨written, rfl⟩ := Expression.name_of_node _ _ _ mentioned
            rw [agree.globals]
            exact induction _ (steps ▸ fewer) (agree.declared constant declared)
              (constant.key :: used) written constant.site rfl

theorem argument_value (agree : Agree change first second sources) {source : Source}
    (listed : source ∈ sources) (site : Site) (argument : Argument) :
    (second.argumentValue source (first.scope source site) argument).outcome =
      (first.argumentValue source (first.scope source site) argument).outcome := by
  have folded : ((Expression.ofNode source argument.value).fold fun name =>
        second.constantValue name (first.scope source site)).outcome =
      ((Expression.ofNode source argument.value).fold fun name =>
        first.constantValue name (first.scope source site)).outcome := by
    apply Expression.fold_congr
    intro text mentioned
    obtain ⟨written, rfl⟩ := Expression.name_of_node _ _ _ mentioned
    exact agree.value_using listed [] written site
  unfold argumentValue
  rw [Logged.outcome_bind, Logged.outcome_bind, folded]

theorem attribute_use (agree : Agree change first second sources) {source : Source}
    (listed : source ∈ sources) (site : Site) (node : Node) :
    (second.attributeUse? source (first.scope source site) node).outcome =
      (first.attributeUse? source (first.scope source site) node).outcome := by
  unfold attributeUse?
  cases node.childOr? "name" ["identifier", "qualified_name", "alias_qualified_name"] with
  | none => rfl
  | some nameNode =>
      have arguments := Logged.for_each_congr
        (fun argument (_ : argument ∈ Argument.allOf source node) =>
          agree.argument_value listed site argument)
      have type := agree.attributes source listed nameNode site
      unfold attributeType? at type
      simp only [Logged.outcome_bind, Logged.outcome_emit, Logged.outcome_pure, arguments, type]

theorem attributes_of (agree : Agree change first second sources) {source : Source}
    (listed : source ∈ sources) (site : Site) (field : Node) :
    (second.attributesOf source (first.scope source site) field).outcome =
      (first.attributesOf source (first.scope source site) field).outcome := by
  unfold attributesOf
  dsimp only
  rw [Logged.outcome_bind, Logged.outcome_bind,
    Logged.for_each_congr fun node _ => agree.attribute_use listed site node]

theorem field_symbol (agree : Agree change first second sources) {source : Source}
    (listed : source ∈ sources) (declarator : Site) :
    (second.fieldSymbol? source declarator).outcome =
      (first.fieldSymbol? source declarator).outcome.map
        (Option.map (FieldSymbol.retyped change)) := by
  unfold fieldSymbol?
  cases fieldOf? declarator with
  | none => rfl
  | some found =>
      obtain ⟨field, declaration⟩ := found
      have sameScope : second.scope source field = first.scope source field := by
        unfold scope
        rw [agree.globals]
      dsimp only
      rw [sameScope, agree.containing source listed field]
      cases (first.scope source field).enclosing.head?.bind first.type? with
      | none => rfl
      | some containing =>
          cases declarator.node.childOr? "name" ["identifier"] with
          | none => rfl
          | some name =>
              cases typeNode? declaration.node with
              | none => rfl
              | some type =>
                  show (_ >>= _ : Logged _).outcome = (_ >>= _ : Logged _).outcome.map _
                  rw [Logged.outcome_bind, Logged.outcome_bind,
                    agree.attributes_of listed field field.node]
                  cases (first.attributesOf source (first.scope source field) field.node).outcome with
                  | error fault => rfl
                  | ok attributes => rfl

end Agree

end Program

theorem declarator_source {sources : List Source} {declarator : Source × Site}
    (member : declarator ∈ Program.declaratorsOf (sources.flatMap Source.candidates)) :
    declarator.1 ∈ sources := by
  obtain ⟨candidate, listed, own⟩ := List.mem_flatMap.mp member
  obtain ⟨source, inside, ofSource⟩ := List.mem_flatMap.mp listed
  rw [candidates_eq] at ofSource
  obtain ⟨site, -, same⟩ := List.mem_map.mp ofSource
  obtain ⟨below, -, paired⟩ := List.mem_map.mp own
  rw [← paired, ← same]
  exact inside

section Retyped

variable {change : TypeSymbol → TypeSymbol}

/-- A changed symbol of the same name changes neither the verdict on a field nor the reports. -/
theorem FieldSymbol.resolve_retyped
    (names : ∀ symbol, (change symbol).metadataName = symbol.metadataName) (field : FieldSymbol)
    (marker : String) :
    (field.retyped change).resolve? marker =
      { events := (field.resolve? marker).events
        outcome := (field.resolve? marker).outcome.map
          (Option.map (ResolvedField.retyped change)) } := by
  have display : (field.retyped change).display = field.display := by
    unfold FieldSymbol.display TypeSymbol.display FieldSymbol.retyped
    dsimp only
    rw [names]
  have unsupported : (field.retyped change).unsupported? = field.unsupported? := rfl
  unfold resolve?
  rw [show (field.retyped change).markers marker = field.markers marker from rfl]
  cases field.markers marker with
  | nil => rfl
  | cons first more =>
      have duplicates : duplicateEvents (field.retyped change) (first :: more) =
          duplicateEvents field (first :: more) := by
        cases more with
        | nil => rfl
        | cons second rest => rw [duplicateEvents, duplicateEvents, display]
      unfold Verdict.ofField
      rw [unsupported]
      dsimp only
      rw [duplicates]
      cases field.unsupported? with
      | some reason =>
          unfold Verdict.events
          rw [display]
          rfl
      | none =>
          dsimp only
          cases (first.argument? Marker.nameArgument).all Verdict.isName with
          | false =>
              simp only [Verdict.events, display]
              rfl
          | true => rfl

namespace Program

def resolvedOf? (program : Program) (marker : String) (declarator : Source × Site) :
    Option ResolvedField :=
  (program.resolveDeclarator? marker declarator.1 declarator.2).outcome.toOption.join

theorem resolved_of_some {program : Program} {marker : String} {declarator : Source × Site}
    {field : ResolvedField} :
    program.resolvedOf? marker declarator = some field ↔
      (program.resolveDeclarator? marker declarator.1 declarator.2).outcome = .ok (some field) := by
  unfold resolvedOf?
  cases (program.resolveDeclarator? marker declarator.1 declarator.2).outcome with
  | error fault =>
      constructor
      · intro same
        cases same
      · intro same
        cases same
  | ok field? =>
      constructor
      · intro same
        exact congrArg Except.ok same
      · intro same
        exact Except.ok.inj same

def fieldsFrom (program : Program) (marker : String) (source : Source) : List ResolvedField :=
  (declaratorsOf source.candidates).filterMap (program.resolvedOf? marker)

theorem fields_from_candidate {program : Program} {marker : String} {source : Source}
    {field : ResolvedField} (member : field ∈ program.fieldsFrom marker source) :
    ∃ candidate ∈ source.candidates, ∃ declarator ∈ candidate.declarators,
      (program.resolveDeclarator? marker source declarator).outcome = .ok (some field) := by
  obtain ⟨declarator, listed, resolved⟩ := List.mem_filterMap.mp member
  obtain ⟨candidate, candidateListed, own⟩ := List.mem_flatMap.mp listed
  obtain ⟨below, belowListed, rfl⟩ := List.mem_map.mp own
  have ofSource : candidate.source = source := by
    rw [candidates_eq] at candidateListed
    obtain ⟨site, -, same⟩ := List.mem_map.mp candidateListed
    rw [← same]
  rw [ofSource] at resolved
  exact ⟨candidate, candidateListed, below, belowListed, resolved_of_some.mp resolved⟩

theorem declarators_of_sources (sources : List Source) :
    declaratorsOf (sources.flatMap Source.candidates) =
      sources.flatMap fun source => declaratorsOf source.candidates := by
  unfold declaratorsOf
  rw [List.flatMap_assoc]

theorem fields_by_source (program : Program) (marker : String) (sources : List Source) :
    (declaratorsOf (sources.flatMap Source.candidates)).filterMap (program.resolvedOf? marker) =
      sources.flatMap (program.fieldsFrom marker) := by
  rw [declarators_of_sources, List.filterMap_flatMap]
  rfl

def reportsOn (program : Program) (marker : String) (declarator : Source × Site) :
    List Diagnostic :=
  (program.resolveDeclarator? marker declarator.1 declarator.2).diagnostics

def Resolves (program : Program) (marker : String) (declarator : Source × Site) : Prop :=
  ∃ field?, (program.resolveDeclarator? marker declarator.1 declarator.2).outcome = .ok field?

theorem resolve_fields_iff {program : Program} {marker : String} {candidates : List Candidate}
    {fields : List ResolvedField} :
    (program.resolveFields marker candidates).outcome = .ok fields ↔
      (∀ declarator ∈ declaratorsOf candidates, program.Resolves marker declarator) ∧
        fields = (declaratorsOf candidates).filterMap (program.resolvedOf? marker) := by
  have found {declarators : List (Source × Site)} {results : List (Option ResolvedField)}
      (each : List.Forall₂ (fun declarator result =>
        (program.resolveDeclarator? marker declarator.1 declarator.2).outcome = .ok result)
        declarators results) :
      results.filterMap id = declarators.filterMap (program.resolvedOf? marker) := by
    induction each with
    | nil => rfl
    | @cons declarator result declarators results returned rest induction =>
        have own : program.resolvedOf? marker declarator = result := by
          unfold resolvedOf?
          rw [returned]
          rfl
        rw [List.filterMap_cons, List.filterMap_cons, induction, own]
        rfl
  constructor
  · intro returned
    obtain ⟨results, all, last⟩ := Logged.bind_returns.mp returned
    have same : results.filterMap id = fields := Except.ok.inj last
    refine ⟨Logged.for_each_succeeds.mp ⟨results, all⟩, ?_⟩
    rw [← same]
    exact found (Logged.for_each_returns.mp all)
  · intro given
    rcases given with ⟨each, same⟩
    obtain ⟨results, all⟩ := Logged.for_each_succeeds.mpr each
    refine Logged.bind_returns.mpr ⟨results, all, ?_⟩
    rw [same, ← found (Logged.for_each_returns.mp all)]
    rfl

theorem resolve_fields_reports {program : Program} {marker : String} {candidates : List Candidate}
    {fields : List ResolvedField}
    (returned : (program.resolveFields marker candidates).outcome = .ok fields) :
    (program.resolveFields marker candidates).diagnostics =
      (declaratorsOf candidates).flatMap (program.reportsOn marker) := by
  unfold resolveFields at returned ⊢
  obtain ⟨results, found, -⟩ := Logged.bind_returns.mp returned
  rw [Logged.diagnostics, Logged.events_bind_ok found, Logged.for_each_events found,
    diagnostics_append, diagnostics_flatMap]
  exact List.append_nil _

namespace Agree

variable {first second : Program} {sources : List Source}

theorem resolve_declarator (agree : Agree change first second sources) (marker : String)
    {source : Source} (listed : source ∈ sources) (declarator : Site) :
    (second.resolveDeclarator? marker source declarator).outcome =
        (first.resolveDeclarator? marker source declarator).outcome.map
          (Option.map (ResolvedField.retyped change)) ∧
      (second.resolveDeclarator? marker source declarator).diagnostics =
        (first.resolveDeclarator? marker source declarator).diagnostics := by
  have symbols := agree.field_symbol listed declarator
  have silent (program : Program) :
      diagnosticsOf (program.fieldSymbol? source declarator).events = [] :=
    program.field_symbol_silent source declarator
  unfold resolveDeclarator? Logged.diagnostics
  rw [Logged.outcome_bind, Logged.outcome_bind, symbols]
  cases found : (first.fieldSymbol? source declarator).outcome with
  | error fault =>
      rw [found] at symbols
      rw [Logged.events_bind_error symbols, Logged.events_bind_error found, silent, silent]
      exact ⟨rfl, rfl⟩
  | ok symbol =>
      rw [found] at symbols
      rw [Logged.events_bind_ok symbols, Logged.events_bind_ok found, diagnostics_append,
        diagnostics_append, silent, silent]
      cases symbol with
      | none => exact ⟨rfl, rfl⟩
      | some field =>
          have resolved := field.resolve_retyped agree.names marker
          constructor
          · exact congrArg Logged.outcome resolved
          · exact congrArg (fun logged => [] ++ diagnosticsOf logged.events) resolved

theorem resolves_iff (agree : Agree change first second sources) (marker : String)
    {declarator : Source × Site} (listed : declarator.1 ∈ sources) :
    second.Resolves marker declarator ↔ first.Resolves marker declarator := by
  have outcomes := (agree.resolve_declarator marker listed declarator.2).1
  unfold Resolves
  rw [outcomes]
  simp only [map_returns]
  exact ⟨fun ⟨_, field?, found, _⟩ => ⟨field?, found⟩, fun ⟨field?, found⟩ => ⟨_, field?, found, rfl⟩⟩

theorem resolved_of (agree : Agree change first second sources) (marker : String)
    {declarator : Source × Site} (listed : declarator.1 ∈ sources) :
    second.resolvedOf? marker declarator =
      (first.resolvedOf? marker declarator).map (ResolvedField.retyped change) := by
  have outcomes := (agree.resolve_declarator marker listed declarator.2).1
  unfold resolvedOf?
  rw [outcomes]
  cases (first.resolveDeclarator? marker declarator.1 declarator.2).outcome with
  | error fault => rfl
  | ok field? => cases field? <;> rfl

theorem reports_on (agree : Agree change first second sources) (marker : String)
    {declarator : Source × Site} (listed : declarator.1 ∈ sources) :
    second.reportsOn marker declarator = first.reportsOn marker declarator :=
  (agree.resolve_declarator marker listed declarator.2).2

theorem fields_from (agree : Agree change first second sources) (marker : String) {source : Source}
    (listed : source ∈ sources) :
    second.fieldsFrom marker source =
      (first.fieldsFrom marker source).map (ResolvedField.retyped change) := by
  unfold fieldsFrom
  rw [List.map_filterMap]
  apply List.filterMap_congr
  intro declarator member
  apply agree.resolved_of marker
  have among : declarator ∈ declaratorsOf (sources.flatMap Source.candidates) := by
    rw [declarators_of_sources]
    exact List.mem_flatMap.mpr ⟨source, listed, member⟩
  exact declarator_source among

theorem resolve_fields (agree : Agree change first second sources) {marker : String}
    {fields : List ResolvedField}
    (resolved : (first.resolveFields marker (sources.flatMap Source.candidates)).outcome =
      .ok fields) :
    (second.resolveFields marker (sources.flatMap Source.candidates)).outcome =
      .ok (fields.map (ResolvedField.retyped change)) := by
  obtain ⟨each, same⟩ := resolve_fields_iff.mp resolved
  apply resolve_fields_iff.mpr
  constructor
  · intro declarator member
    exact (agree.resolves_iff marker (declarator_source member)).mpr (each declarator member)
  · rw [same, List.map_filterMap]
    apply List.filterMap_congr
    intro declarator member
    exact (agree.resolved_of marker (declarator_source member)).symm

end Agree

end Program

end Retyped

end PropertyGen
