import PropertyGen.Proofs.Folding
import PropertyGen.Proofs.Marks
import PropertyGen.Proofs.Outline

/-!
When generation returns. It does unless a constant lacks an initialiser in a particular way, a
folded attribute argument reaches a leaf without a value, or a qualified key has no arity.
-/

namespace PropertyGen

namespace Program

variable (program : Program)

def namedAttributes (field : Node) : List Node :=
  ((field.namedChildren.filter fun child => child.kind = "attribute_list").flatMap fun list =>
    list.namedChildren.filter fun child => child.kind = "attribute").filter fun node =>
      (node.childOr? "name" ["identifier", "qualified_name", "alias_qualified_name"]).isSome

def hasSymbol (source : Source) (field declaration declarator : Site) : Bool :=
  ((program.scope source field).enclosing.head?.bind program.type?).isSome &&
    (declarator.node.childOr? "name" ["identifier"]).isSome && (typeNode? declaration.node).isSome

/-- The arguments that are folded for a declarator, with the scope of its field: all those of the
attributes of the field, if the declarator has a symbol. -/
def foldedArguments (source : Source) (declarator : Site) : List (Argument × Scope) :=
  match fieldOf? declarator with
  | none => []
  | some (field, declaration) =>
      if program.hasSymbol source field declaration declarator then
        ((namedAttributes field.node).flatMap (Argument.allOf source)).map fun argument =>
          (argument, program.scope source field)
      else []

theorem argument_value_returns (source : Source) (scope : Scope) (argument : Argument) :
    (∃ value, (program.argumentValue source scope argument).outcome = .ok value) ↔
      ¬ program.ReachesFault (Expression.ofNode source argument.value) scope := by
  rw [← fold_returns_iff]
  exact Logged.bind_succeeds fun _ => ⟨_, rfl⟩

theorem attribute_use_returns (source : Source) (scope : Scope) (node : Node) :
    (∃ used, (program.attributeUse? source scope node).outcome = .ok used) ↔
      ((node.childOr? "name" ["identifier", "qualified_name", "alias_qualified_name"]).isSome →
        ∀ argument ∈ Argument.allOf source node,
          ¬ program.ReachesFault (Expression.ofNode source argument.value) scope) := by
  unfold attributeUse?
  cases node.childOr? "name" ["identifier", "qualified_name", "alias_qualified_name"] with
  | none => exact ⟨fun _ absent => (by cases absent), fun _ => ⟨_, rfl⟩⟩
  | some nameNode =>
      simp only [Option.isSome_some, forall_const, ← argument_value_returns,
        ← Logged.for_each_succeeds, Logged.outcome_emit_bind]
      exact Logged.bind_succeeds fun _ => ⟨_, rfl⟩

theorem attributes_return (source : Source) (scope : Scope) (field : Node) :
    (∃ attributes, (program.attributesOf source scope field).outcome = .ok attributes) ↔
      ∀ argument ∈ (namedAttributes field).flatMap (Argument.allOf source),
        ¬ program.ReachesFault (Expression.ofNode source argument.value) scope := by
  have each : (∃ attributes, (program.attributesOf source scope field).outcome = .ok attributes) ↔
      ∀ node ∈ (field.namedChildren.filter fun child => child.kind = "attribute_list").flatMap
        (fun list => list.namedChildren.filter fun child => child.kind = "attribute"),
        ∃ used, (program.attributeUse? source scope node).outcome = .ok used := by
    rw [← Logged.for_each_succeeds]
    exact Logged.bind_succeeds fun _ => ⟨_, rfl⟩
  rw [each]
  simp only [attribute_use_returns, namedAttributes]
  constructor
  · intro returns argument member
    obtain ⟨node, inside, own⟩ := List.mem_flatMap.mp member
    obtain ⟨listed, named⟩ := List.mem_filter.mp inside
    exact returns node listed named argument own
  · intro sound node listed named argument own
    exact sound argument (List.mem_flatMap.mpr ⟨node, List.mem_filter.mpr ⟨listed, named⟩, own⟩)

theorem field_symbol_returns (source : Source) (declarator : Site) :
    (∃ symbol, (program.fieldSymbol? source declarator).outcome = .ok symbol) ↔
      ∀ folded ∈ program.foldedArguments source declarator,
        ¬ program.ReachesFault (Expression.ofNode source folded.1.value) folded.2 := by
  unfold fieldSymbol? foldedArguments hasSymbol
  cases fieldOf? declarator with
  | none => simp
  | some found =>
      obtain ⟨field, declaration⟩ := found
      dsimp only
      cases containing : (program.scope source field).enclosing.head?.bind program.type? with
      | none => simp
      | some type =>
          cases name : declarator.node.childOr? "name" ["identifier"] with
          | none => simp
          | some nameNode =>
              cases typeNode : typeNode? declaration.node with
              | none => simp
              | some node =>
                  simp only [Option.isSome_some, Bool.and_self, if_true, List.forall_mem_map,
                    ← attributes_return]
                  exact Logged.bind_succeeds fun _ => ⟨_, rfl⟩

theorem fields_return (marker : String) (candidates : List Candidate) :
    (∃ fields, (program.resolveFields marker candidates).outcome = .ok fields) ↔
      ∀ declarator ∈ declaratorsOf candidates,
        ∀ folded ∈ program.foldedArguments declarator.1 declarator.2,
          ¬ program.ReachesFault (Expression.ofNode declarator.1 folded.1.value) folded.2 := by
  have each : (∃ fields, (program.resolveFields marker candidates).outcome = .ok fields) ↔
      ∀ declarator ∈ declaratorsOf candidates, ∃ field,
        (program.resolveDeclarator? marker declarator.1 declarator.2).outcome = .ok field := by
    rw [← Logged.for_each_succeeds]
    exact Logged.bind_succeeds fun _ => ⟨_, rfl⟩
  rw [each]
  apply forall₂_congr
  intro declarator _
  rw [← field_symbol_returns]
  constructor
  · intro given
    rcases given with ⟨field, returned⟩
    obtain ⟨symbol, found, -⟩ := Logged.bind_returns.mp returned
    exact ⟨symbol, found⟩
  · intro given
    rcases given with ⟨symbol, found⟩
    exact ⟨_, (program.resolve_declarator_returns marker found).1⟩

end Program

/-- The program of some sources, completed and with the marker bound. -/
def BoundIn (sources : List Source) (options : Options) (bound : Bound) : Prop :=
  ∃ program, Program.build sources References.standard = .ok program ∧
    (program.bind options).outcome = .ok bound

/-- What a run over some sources must not meet. -/
structure Foldable (sources : List Source) (options : Options) : Prop where
  initialized : ∀ source ∈ sources, Initialized source
  arguments : ∀ bound, BoundIn sources options bound →
    ∀ declarator ∈ Program.declaratorsOf (sources.flatMap Source.candidates),
      ∀ folded ∈ bound.program.foldedArguments declarator.1 declarator.2,
        ¬ bound.program.ReachesFault (Expression.ofNode declarator.1 folded.1.value) folded.2
  keys : options.qualifiedKeys = true → ∀ bound fields, BoundIn sources options bound →
    (bound.program.resolveFields bound.marker.metadataName
      (sources.flatMap Source.candidates)).outcome = .ok fields →
    ∀ group ∈ typeGroups fields, ∃ arity, group.containing.arity = .ok arity

theorem bound_in_unique {sources : List Source} {options : Options} {bound other : Bound}
    (own : BoundIn sources options bound) (others : BoundIn sources options other) :
    bound = other := by
  obtain ⟨program, built, bind⟩ := own
  obtain ⟨another, anotherBuilt, anotherBind⟩ := others
  rw [Except.ok.inj (built.symm.trans anotherBuilt)] at bind
  exact Except.ok.inj (bind.symm.trans anotherBind)

/-- A run that meets nothing of the kind returns. -/
theorem run_returns_of_foldable (renderer : Renderer) {sources : List Source} {options : Options}
    (foldable : Foldable sources options) :
    ∃ result, (generateWith renderer sources options).outcome = .ok result := by
  obtain ⟨initialized, arguments, keys⟩ := foldable
  obtain ⟨program, built⟩ := (Program.build_returns _ References.standard).mpr initialized
  obtain ⟨bound, bind⟩ := Program.bind_returns options built
  have own : BoundIn sources options bound := ⟨program, built, bind⟩
  obtain ⟨fields, resolved⟩ :=
    (bound.program.fields_return bound.marker.metadataName _).mpr (arguments bound own)
  have readable : ∀ group ∈ typeGroups fields,
      Publication.Readable options.qualifiedKeys group := fun group member =>
    (Publication.readable_iff _ group).mpr fun qualified =>
      keys qualified bound fields own resolved group member
  exact ⟨{ fragments := _, diagnostics := _ }, generate_returns.mpr
    ⟨program, bound, fields, built, bind, resolved, readable, rfl, rfl⟩⟩

/-- Generation returns exactly on the sources whose constants are initialized, whose folded
arguments reach no leaf without a value, and whose qualified keys have an arity. -/
theorem generation_returns_iff_foldable (sources : List Source) (options : Options) :
    (∃ result, (generate sources options).outcome = .ok result) ↔ Foldable sources options := by
  constructor
  · intro given
    rcases given with ⟨result, returned⟩
    obtain ⟨program, bound, fields, built, bind, resolved, readable, -, -⟩ :=
      generate_returns.mp returned
    have own : BoundIn sources options bound := ⟨program, built, bind⟩
    refine ⟨(Program.build_returns _ _).mp ⟨program, built⟩, ?_, ?_⟩
    · intro other others
      rw [← bound_in_unique own others]
      exact (bound.program.fields_return _ _).mp ⟨fields, resolved⟩
    · intro qualified other otherFields others otherResolved group member
      rw [← bound_in_unique own others] at otherResolved
      rw [← Except.ok.inj (resolved.symm.trans otherResolved)] at member
      exact (Publication.readable_iff _ group).mp (readable group member) qualified
  · exact run_returns_of_foldable render

open Marker (branch leaf token fieldLeaf fieldBranch) in
/-- A marked field that asks for a name with an escape beyond the last code point. -/
def beyondUnicode : Source :=
  { path := "X.cs"
    bytes := Text.Utf8.encode ("class X \x7b [AutoNotify.NotifiableProperty(PropertyName = "
      ++ "\"\\U00110000\")] int _a; \x7d")
    root :=
      branch "compilation_unit" 0 80 [
        branch "class_declaration" 0 80 [
          token "class" 0 5,
          fieldLeaf "identifier" "name" 6 7,
          fieldBranch "declaration_list" "body" 8 80 [
            token "\x7b" 8 9,
            branch "field_declaration" 10 78 [
              branch "attribute_list" 10 70 [
                token "[" 10 11,
                branch "attribute" 11 69 [
                  fieldBranch "qualified_name" "name" 11 40 [
                    fieldLeaf "identifier" "qualifier" 11 21,
                    token "." 21 22,
                    fieldLeaf "identifier" "name" 22 40],
                  branch "attribute_argument_list" 40 69 [
                    token "(" 40 41,
                    branch "attribute_argument" 41 68 [
                      fieldLeaf "identifier" "name" 41 53,
                      token "=" 54 55,
                      branch "string_literal" 56 68 [
                        token "\"" 56 57,
                        leaf "escape_sequence" 57 67,
                        token "\"" 67 68]],
                    token ")" 68 69]],
                token "]" 69 70],
              branch "variable_declaration" 71 77 [
                fieldLeaf "predefined_type" "type" 71 74,
                branch "variable_declarator" 75 77 [
                  fieldLeaf "identifier" "name" 75 77]],
              token ";" 77 78],
            token "\x7d" 79 80]]] }

/-- The escape ends the whole run, although only one name could not be folded. -/
theorem generation_faults_beyond_unicode :
    (generate [beyondUnicode] Options.standard).outcome = .error .codePointOutOfRange ∧
      ¬ ∀ (sources : List Source) (options : Options),
        ∃ result, (generate sources options).outcome = .ok result := by
  have faulted : (generate [beyondUnicode] Options.standard).outcome =
      .error .codePointOutOfRange := by decide +kernel
  refine ⟨faulted, fun always => ?_⟩
  obtain ⟨result, returned⟩ := always [beyondUnicode] Options.standard
  rw [faulted] at returned
  cases returned

end PropertyGen
