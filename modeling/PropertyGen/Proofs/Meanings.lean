import PropertyGen.Proofs.Declarations
import PropertyGen.Proofs.Fragments
import PropertyGen.Proofs.Marks
import PropertyGen.Proofs.Outline

/-!
What becomes of the meaning of names when a property is generated for a field. The scope that the
field has in its source is compared with the scope that the fragment of its type gives it.
-/

namespace PropertyGen

namespace Program

variable {program : Program} {marker : String}

theorem field_symbol_scope {source : Source} {declarator : Site} {symbol : FieldSymbol}
    (found : (program.fieldSymbol? source declarator).outcome = .ok (some symbol)) :
    ∃ site declaration, fieldOf? declarator = some (site, declaration) ∧
      (program.scope source site).enclosing.head?.bind program.type? = some symbol.containing ∧
      symbol.usings = (program.scope source site).localUsings ∧
      (program.attributesOf source (program.scope source site) site.node).outcome =
        .ok symbol.attributes := by
  unfold fieldSymbol? at found
  cases field : fieldOf? declarator with
  | none =>
      rw [field] at found
      cases Except.ok.inj found
  | some parts =>
      obtain ⟨site, declaration⟩ := parts
      refine ⟨site, declaration, rfl, ?_⟩
      rw [field] at found
      dsimp only at found
      cases containing : (program.scope source site).enclosing.head?.bind program.type? with
      | none =>
          rw [containing] at found
          cases Except.ok.inj found
      | some type =>
          cases name : declarator.node.childOr? "name" ["identifier"] with
          | none =>
              rw [containing, name] at found
              cases Except.ok.inj found
          | some nameNode =>
              cases typeNode : typeNode? declaration.node with
              | none =>
                  rw [containing, name, typeNode] at found
                  cases Except.ok.inj found
              | some node =>
                  rw [containing, name, typeNode] at found
                  obtain ⟨attributes, returned, last⟩ := Logged.bind_returns.mp found
                  rw [← Option.some.inj (Except.ok.inj last)]
                  exact ⟨rfl, rfl, returned⟩

theorem resolved_field_scope {source : Source} {declarator : Site} {field : ResolvedField}
    (resolved : (program.resolveDeclarator? marker source declarator).outcome =
      .ok (some field)) :
    ∃ site declaration, fieldOf? declarator = some (site, declaration) ∧
      (program.scope source site).enclosing.head?.bind program.type? = some field.containing ∧
      field.usings = (program.scope source site).localUsings ∧
      ∃ attributes, (program.attributesOf source (program.scope source site) site.node).outcome =
        .ok attributes ∧ ∃ used ∈ attributes, used.type? = some marker := by
  obtain ⟨symbol?, found, -⟩ := Logged.bind_returns.mp resolved
  have own := (program.resolve_declarator_returns marker found).1
  have settled := Except.ok.inj (own.symm.trans resolved)
  obtain ⟨marking, marked, accepted⟩ := Option.bind_eq_some_iff.mp settled
  obtain ⟨symbol, same, ofField⟩ := Option.bind_eq_some_iff.mp marked
  rw [same] at found
  have fieldOfMarking := (Marking.of_field_some.mp ofField).1
  have resolvedMarking : marking.resolved = field := by
    have settles := marking.verdict_settles
    cases verdict : marking.verdict with
    | unsupported reason =>
        rw [verdict] at accepted
        cases accepted
    | nonConstantName =>
        rw [verdict] at accepted
        cases accepted
    | accepted other =>
        rw [verdict] at accepted settles
        cases settles
        exact Option.some.inj accepted
  have isMarker := (Marking.of_field_some.mp ofField).2
  rw [← resolvedMarking]
  obtain ⟨site, declaration, ofSite, containing, usings, attributes⟩ := field_symbol_scope found
  rw [← fieldOfMarking] at containing usings
  have listed : marking.first ∈ symbol.markers marker := by
    rw [isMarker]
    exact List.mem_cons_self
  obtain ⟨used, bound⟩ := List.mem_filter.mp listed
  exact ⟨site, declaration, ofSite, containing, usings, symbol.attributes, attributes,
    marking.first, used, of_decide_eq_true bound⟩

theorem mem_resolved_fields {candidates : List Candidate} {fields : List ResolvedField}
    (returned : (program.resolveFields marker candidates).outcome = .ok fields)
    {field : ResolvedField} :
    field ∈ fields ↔ ∃ declarator ∈ declaratorsOf candidates,
      (program.resolveDeclarator? marker declarator.1 declarator.2).outcome = .ok (some field) := by
  obtain ⟨results, all, last⟩ := Logged.bind_returns.mp returned
  have same : results.filterMap id = fields := Except.ok.inj last
  have listed : some field ∈ results ↔ ∃ declarator ∈ declaratorsOf candidates,
      (program.resolveDeclarator? marker declarator.1 declarator.2).outcome = .ok (some field) :=
    Logged.mem_for_each all
  rw [← same, List.mem_filterMap, ← listed]
  constructor
  · intro found
    obtain ⟨result, inside, own⟩ := found
    rw [← show result = some field from own]
    exact inside
  · intro inside
    exact ⟨some field, inside, rfl⟩

theorem resolved_types_agree {source another : Source} {declarator further : Site}
    {field other : ResolvedField}
    (resolved : (program.resolveDeclarator? marker source declarator).outcome = .ok (some field))
    (alsoResolved : (program.resolveDeclarator? marker another further).outcome =
      .ok (some other))
    (same : field.typeName = other.typeName) : field.containing = other.containing := by
  obtain ⟨_, _, _, found, _⟩ := resolved_field_scope resolved
  obtain ⟨_, _, _, alsoFound, _⟩ := resolved_field_scope alsoResolved
  obtain ⟨name, -, symbol⟩ := Option.bind_eq_some_iff.mp found
  obtain ⟨another, -, alsoSymbol⟩ := Option.bind_eq_some_iff.mp alsoFound
  have names : name = another := by
    rw [← type_name symbol, ← type_name alsoSymbol]
    exact same
  rw [names, alsoSymbol] at symbol
  exact (Option.some.inj symbol).symm

end Program

theorem field_of_declarator {candidate : Candidate}
    (isField : candidate.site.node.kind = "field_declaration") {declarator : Site}
    (member : declarator ∈ candidate.declarators) :
    ∃ declaration, Program.fieldOf? declarator = some (candidate.site, declaration) := by
  unfold Candidate.declarators Site.declarators at member
  cases found : candidate.site.namedChildren.find? fun child =>
      child.node.kind = "variable_declaration" with
  | none =>
      rw [found] at member
      cases member
  | some declaration =>
      rw [found] at member
      have above := (List.mem_filter.mp (List.mem_of_find?_eq_some found)).1
      have below := (List.mem_filter.mp (List.mem_filter.mp member).1).1
      refine ⟨declaration, ?_⟩
      unfold Program.fieldOf?
      rw [Site.parent_of_child below]
      show (declaration.parent?.bind fun field => if field.node.kind = "field_declaration" then
        some (field, declaration) else none) = _
      rw [Site.parent_of_child above, Option.bind_some, if_pos isField]

theorem group_symbol {fields : List ResolvedField} {group : TypeGroup}
    (member : group ∈ typeGroups fields) :
    ∃ first ∈ fields, first.containing = group.containing := by
  obtain ⟨draft, listed, same⟩ := List.mem_map.mp member
  obtain ⟨present, -⟩ := List.mem_filter.mp listed
  obtain ⟨first, rest, split, folded⟩ := (Grouping.drafted fields).holds draft present
  have inside : first ∈ Grouping.fieldsOf fields draft.name := by
    rw [split]
    exact List.mem_cons_self
  refine ⟨first, (List.mem_filter.mp inside).1, ?_⟩
  have symbol := Grouping.fold_containing (first :: rest) (Draft.ofType first.containing)
  rw [← folded] at symbol
  rw [← same]
  exact symbol.symm

/-- A candidate of a program declares a resolved field, and the group of its type is rendered. -/
structure InFragment (program : Program) (marker : String) (candidates : List Candidate)
    (candidate : Candidate) (field : ResolvedField) (group : TypeGroup) : Prop where
  visited : candidate ∈ program.sources.flatMap Source.candidates
  listed : candidate ∈ candidates
  declared : ∃ declarator ∈ candidate.declarators,
    (program.resolveDeclarator? marker candidate.source declarator).outcome = .ok (some field)
  grouped : ∃ fields, (program.resolveFields marker candidates).outcome = .ok fields ∧
    group ∈ typeGroups fields
  ownType : field.typeName = group.containing.metadataName
  rendered : ∃ notification text, render notification group = .text text

def Scope.LiesIn (scope : Scope) (type : TypeSymbol) : Prop :=
  scope.enclosing = [type.metadataName] ∧ scope.space = type.space

instance (scope : Scope) (type : TypeSymbol) : Decidable (scope.LiesIn type) :=
  inferInstanceAs (Decidable (_ ∧ _))

namespace InFragment

variable {program : Program} {marker : String} {candidates : List Candidate}
  {candidate : Candidate} {field : ResolvedField} {group : TypeGroup}

theorem candidate_site (backed : InFragment program marker candidates candidate field group) :
    candidate.source ∈ program.sources ∧ candidate.site ∈ candidate.source.sites ∧
      candidate.site.node.kind = "field_declaration" := by
  obtain ⟨source, listed, own⟩ := List.mem_flatMap.mp backed.visited
  rw [candidates_eq] at own
  obtain ⟨site, kept, same⟩ := List.mem_map.mp own
  obtain ⟨inside, isCandidate⟩ := List.mem_filter.mp kept
  unfold Node.isCandidate at isCandidate
  rw [Bool.and_eq_true, decide_eq_true_eq] at isCandidate
  rw [← same]
  exact ⟨listed, inside, isCandidate.1⟩

theorem top_level (backed : InFragment program marker candidates candidate field group) :
    group.containing.isTopLevel = true := by
  obtain ⟨notification, text, rendered⟩ := backed.rendered
  by_contra nested
  unfold render at rendered
  rw [if_neg nested] at rendered
  cases rendered

/-- The group of a field has the symbol of the type around the field, and covers its directives. -/
theorem field_scope (backed : InFragment program marker candidates candidate field group) :
    (program.scope candidate.source candidate.site).enclosing.head?.bind program.type? =
        some group.containing ∧
      Covers group.usings (program.scope candidate.source candidate.site).localUsings := by
  obtain ⟨-, -, isField⟩ := backed.candidate_site
  obtain ⟨declarator, member, resolved⟩ := backed.declared
  obtain ⟨fields, returned, grouped⟩ := backed.grouped
  obtain ⟨declaration, own⟩ := field_of_declarator isField member
  obtain ⟨site, other, found, containing, usings, -⟩ := Program.resolved_field_scope resolved
  have sameSite : site = candidate.site :=
    (congrArg Prod.fst (Option.some.inj (own.symm.trans found))).symm
  rw [sameSite] at containing usings
  have inside : field ∈ fields := by
    apply (Program.mem_resolved_fields returned).mpr
    refine ⟨(candidate.source, declarator), ?_, resolved⟩
    apply List.mem_flatMap.mpr
    exact ⟨candidate, backed.listed, List.mem_map_of_mem member⟩
  obtain ⟨first, firstInside, symbol⟩ := group_symbol grouped
  obtain ⟨firstDeclarator, -, firstResolved⟩ :=
    (Program.mem_resolved_fields returned).mp firstInside
  have sameName : field.typeName = first.typeName := by
    rw [backed.ownType, ← symbol]
    rfl
  have sameType := Program.resolved_types_agree resolved firstResolved sameName
  constructor
  · rw [containing, sameType, symbol]
  · rw [← usings]
    exact Grouping.group_covers grouped inside backed.ownType

end InFragment

/-- Each resolved field of a type whose group is rendered is in a fragment. -/
theorem resolved_in_fragment {program : Program} {marker : String} {candidates : List Candidate}
    (visited : ∀ candidate ∈ candidates, candidate ∈ program.sources.flatMap Source.candidates)
    {fields : List ResolvedField}
    (returned : (program.resolveFields marker candidates).outcome = .ok fields)
    {field : ResolvedField} (inside : field ∈ fields) {group : TypeGroup}
    (grouped : group ∈ typeGroups fields) (own : field.typeName = group.containing.metadataName)
    (rendered : ∃ notification text, render notification group = .text text) :
    ∃ candidate, InFragment program marker candidates candidate field group := by
  obtain ⟨declarator, declared, resolved⟩ := (Program.mem_resolved_fields returned).mp inside
  obtain ⟨candidate, listed, paired⟩ := List.mem_flatMap.mp declared
  obtain ⟨site, member, same⟩ := List.mem_map.mp paired
  rw [← same] at resolved
  exact ⟨candidate, visited candidate listed, listed, ⟨site, member, resolved⟩,
    ⟨fields, returned, grouped⟩, own, rendered⟩

/-- A type name means in a fragment what the merged directives answer to it there, and otherwise
what it means at the field. So it keeps its meaning exactly if these answers, where there are
any, are the meaning at the field. All this holds of fields right inside of their type and its
namespace, as all fields of well-formed sources are. -/
theorem fragment_keeps_meaning {sources : List Source} {references : References}
    {program : Program} (built : Program.build sources references = .ok program) {marker : String}
    {candidates : List Candidate} {candidate : Candidate} {field : ResolvedField}
    {group : TypeGroup} (backed : InFragment program marker candidates candidate field group) :
    ((∀ source ∈ sources, source.WellFormed) →
      (program.scope candidate.source candidate.site).LiesIn group.containing) ∧
    ((program.scope candidate.source candidate.site).LiesIn group.containing → ∀ name,
      program.known.resolve? .type name (group.scope program.globals) =
          (program.known.mergedAnswer? group program.globals (.ofText name)).getD
            (program.known.resolve? .type name
              (program.scope candidate.source candidate.site)) ∧
        (program.known.resolve? .type name (group.scope program.globals) =
            program.known.resolve? .type name
              (program.scope candidate.source candidate.site) ↔
          ∀ answer,
            program.known.mergedAnswer? group program.globals (.ofText name) = some answer →
              answer = program.known.resolve? .type name
                (program.scope candidate.source candidate.site))) := by
  obtain ⟨sourcesEq, -, globals, -, -⟩ := Program.build_eq built
  obtain ⟨listed, inside, isField⟩ := backed.candidate_site
  obtain ⟨containing, covers⟩ := backed.field_scope
  rw [sourcesEq] at listed
  constructor
  · intro formed
    have covering := (formed _ listed).covering _ inside (.inr (.inr isField))
    obtain ⟨enclosing, space⟩ :=
      top_level_scope built formed listed inside covering containing backed.top_level
    refine ⟨enclosing, ?_⟩
    rw [← space]
    exact Surroundings.space_eq _ _
  · intro liesIn name
    obtain ⟨enclosing, space⟩ := liesIn
    have isGlobal : ∀ directive ∈ program.globals, directive.isGlobal = true := by
      rw [globals]
      intro directive member
      obtain ⟨source, -, own⟩ := List.mem_flatMap.mp member
      exact (List.mem_filter.mp own).2
    have usings := Surroundings.local_usings_eq
      (Surroundings.ofSite candidate.source candidate.site) program.globals isGlobal
    have atField := Surroundings.space_eq
      (Surroundings.ofSite candidate.source candidate.site) program.globals
    have meaning := KnownNames.meaning_in_fragment program.known enclosing
      (atField.symm.trans space) (usings ▸ covers) (.ofText name)
    rw [← KnownNames.resolve_eq_meaning, ← KnownNames.resolve_eq_meaning] at meaning
    have equation : program.known.resolve? .type name (group.scope program.globals) =
        (program.known.mergedAnswer? group program.globals (.ofText name)).getD
          (program.known.resolve? .type name (program.scope candidate.source candidate.site)) :=
      meaning
    refine ⟨equation, ?_⟩
    rw [equation]
    cases program.known.mergedAnswer? group program.globals (.ofText name) with
    | none => simp
    | some answer => simp

section Samples

open Marker (branch leaf token fieldLeaf fieldBranch)

def emptyClass (start : Nat) : Node :=
  branch "class_declaration" start (start + 13) [
    token "class" start (start + 5),
    fieldLeaf "identifier" "name" (start + 6) (start + 9),
    fieldBranch "declaration_list" "body" (start + 10) (start + 13) [
      token "\x7b" (start + 10) (start + 11),
      token "\x7d" (start + 12) (start + 13)]]

def attributedField (start : Nat) : Node :=
  branch "field_declaration" start (start + 14) [
    branch "attribute_list" start (start + 6) [
      token "[" start (start + 1),
      branch "attribute" (start + 1) (start + 5) [
        fieldLeaf "identifier" "name" (start + 1) (start + 5)],
      token "]" (start + 5) (start + 6)],
    branch "variable_declaration" (start + 7) (start + 13) [
      fieldLeaf "identifier" "type" (start + 7) (start + 10),
      branch "variable_declarator" (start + 11) (start + 13) [
        fieldLeaf "identifier" "name" (start + 11) (start + 13)]],
    token ";" (start + 13) (start + 14)]

/-- Two types of one name, of which an import offers one and an outer namespace the other. -/
def shadowed : Source :=
  { path := "F0.cs"
    bytes := Text.Utf8.encode ("using X; namespace X \x7b class Foo \x7b \x7d \x7d "
      ++ "namespace N \x7b class Foo \x7b \x7d \x7d "
      ++ "namespace N.M \x7b partial class T \x7b [Mark] Foo _f; \x7d \x7d")
    root :=
      branch "compilation_unit" 0 121 [
        branch "using_directive" 0 8 [
          token "using" 0 5,
          leaf "identifier" 6 7,
          token ";" 7 8],
        branch "namespace_declaration" 9 38 [
          token "namespace" 9 18,
          fieldLeaf "identifier" "name" 19 20,
          fieldBranch "declaration_list" "body" 21 38 [
            token "\x7b" 21 22,
            emptyClass 23,
            token "\x7d" 37 38]],
        branch "namespace_declaration" 39 68 [
          token "namespace" 39 48,
          fieldLeaf "identifier" "name" 49 50,
          fieldBranch "declaration_list" "body" 51 68 [
            token "\x7b" 51 52,
            emptyClass 53,
            token "\x7d" 67 68]],
        branch "namespace_declaration" 69 121 [
          token "namespace" 69 78,
          fieldBranch "qualified_name" "name" 79 82 [
            fieldLeaf "identifier" "qualifier" 79 80,
            token "." 80 81,
            fieldLeaf "identifier" "name" 81 82],
          fieldBranch "declaration_list" "body" 83 121 [
            token "\x7b" 83 84,
            branch "class_declaration" 85 119 [
              branch "modifier" 85 92 [
                token "partial" 85 92],
              token "class" 93 98,
              fieldLeaf "identifier" "name" 99 100,
              fieldBranch "declaration_list" "body" 101 119 [
                token "\x7b" 101 102,
                attributedField 103,
                token "\x7d" 118 119]],
            token "\x7d" 120 121]]] }

/-- A namespace inside of a class, as no grammar has it. -/
def misplaced : Source :=
  { path := "F0.cs"
    bytes := Text.Utf8.encode ("class A \x7b namespace N \x7b class B \x7b [Mark] Foo _f; \x7d "
      ++ "class Foo \x7b \x7d \x7d \x7d")
    root :=
      branch "compilation_unit" 0 68 [
        branch "class_declaration" 0 68 [
          token "class" 0 5,
          fieldLeaf "identifier" "name" 6 7,
          fieldBranch "declaration_list" "body" 8 68 [
            token "\x7b" 8 9,
            branch "namespace_declaration" 10 66 [
              token "namespace" 10 19,
              fieldLeaf "identifier" "name" 20 21,
              fieldBranch "declaration_list" "body" 22 66 [
                token "\x7b" 22 23,
                branch "class_declaration" 24 50 [
                  token "class" 24 29,
                  fieldLeaf "identifier" "name" 30 31,
                  fieldBranch "declaration_list" "body" 32 50 [
                    token "\x7b" 32 33,
                    attributedField 34,
                    token "\x7d" 49 50]],
                emptyClass 51,
                token "\x7d" 65 66]],
            token "\x7d" 67 68]]] }

def markReference : References := [("Mark", "class")]

/-- The type of some field means one thing at the field and another in the fragment. -/
def Reinterprets (source : Source) (here there : Option String) : Prop :=
  ∃ program, Program.build [source] markReference = .ok program ∧
    ∃ candidate field group, InFragment program "Mark" source.candidates candidate field group ∧
      program.known.resolve? .type field.declaredType
        (program.scope candidate.source candidate.site) = here ∧
      program.known.resolve? .type field.declaredType (group.scope program.globals) = there

def isReinterpreted (source : Source) (here there : Option String) : Bool :=
  (Program.build [source] markReference).toOption.any fun program =>
    (program.resolveFields "Mark" source.candidates).outcome.toOption.any fun fields =>
      source.candidates.any fun candidate =>
        fields.any fun field =>
          (typeGroups fields).any fun group =>
            decide
              ((∃ declarator ∈ candidate.declarators,
                (program.resolveDeclarator? "Mark" candidate.source declarator).outcome =
                  .ok (some field)) ∧
              field.typeName = group.containing.metadataName ∧
              group.containing.isTopLevel = true ∧
              program.known.resolve? .type field.declaredType
                (program.scope candidate.source candidate.site) = here ∧
              program.known.resolve? .type field.declaredType (group.scope program.globals) =
                there)

theorem reinterprets_of_search {source : Source} {here there : Option String}
    (found : isReinterpreted source here there = true) : Reinterprets source here there := by
  obtain ⟨program, built, found⟩ := except_any_returns found
  obtain ⟨fields, returned, found⟩ := except_any_returns found
  obtain ⟨candidate, listed, found⟩ := List.any_eq_true.mp found
  obtain ⟨field, -, found⟩ := List.any_eq_true.mp found
  obtain ⟨group, grouped, found⟩ := List.any_eq_true.mp found
  obtain ⟨declared, own, topLevel, here, there⟩ := of_decide_eq_true found
  have visited : candidate ∈ program.sources.flatMap Source.candidates := by
    rw [(Program.build_eq built).1]
    exact List.mem_flatMap.mpr ⟨source, List.mem_singleton_self source, listed⟩
  have rendered : render group.containing group =
      .text (Layout.text (Render.layout group group.containing)) := if_pos topLevel
  exact ⟨program, built, candidate, field, group,
    ⟨visited, listed, declared, ⟨fields, returned, grouped⟩, own, ⟨_, _, rendered⟩⟩, here, there⟩

theorem shadowed_reinterprets : Reinterprets shadowed (some "N.Foo") (some "X.Foo") :=
  reinterprets_of_search (by decide +kernel)

theorem shadowed_formed : shadowed.WellFormed := by decide +kernel

/-- In the fragment of a field in a nested namespace the import of its compilation unit comes
before the members of the outer namespace. -/
theorem fragment_keeps_meaning_shadowed :
    ∃ program, Program.build [shadowed] markReference = .ok program ∧
      ∃ candidate field group,
        InFragment program "Mark" shadowed.candidates candidate field group ∧
        (program.scope candidate.source candidate.site).LiesIn group.containing ∧
        program.known.mergedAnswer? group program.globals (.ofText field.declaredType) =
          some (some "X.Foo") := by
  obtain ⟨program, built, candidate, field, group, backed, here, there⟩ := shadowed_reinterprets
  obtain ⟨formed, meanings⟩ := fragment_keeps_meaning built backed
  have liesIn := formed fun source listed => by
    rw [List.mem_singleton.mp listed]
    exact shadowed_formed
  refine ⟨program, built, candidate, field, group, backed, liesIn, ?_⟩
  have meaning := (meanings liesIn field.declaredType).1
  rw [here, there] at meaning
  cases answer : program.known.mergedAnswer? group program.globals (.ofText field.declaredType) with
  | none =>
      rw [answer] at meaning
      exact absurd meaning (by decide)
  | some type? =>
      rw [answer] at meaning
      rw [meaning]
      rfl

/-- Names do not always keep their meaning: an import may hide a type of an outer namespace, and
in a damaged tree a field may stand in more types than its fragment. -/
theorem fragment_changes_meaning :
    (shadowed.WellFormed ∧ Reinterprets shadowed (some "N.Foo") (some "X.Foo")) ∧
      Reinterprets misplaced (some "N.A+Foo") none ∧
      ¬ ∀ (sources : List Source) (references : References) (program : Program) (marker : String)
        (candidates : List Candidate) (candidate : Candidate) (field : ResolvedField)
        (group : TypeGroup), Program.build sources references = .ok program →
        InFragment program marker candidates candidate field group →
          program.known.resolve? .type field.declaredType (group.scope program.globals) =
            program.known.resolve? .type field.declaredType
              (program.scope candidate.source candidate.site) := by
  refine ⟨⟨shadowed_formed, shadowed_reinterprets⟩, ?_, ?_⟩
  · apply reinterprets_of_search
    decide +kernel
  · intro always
    obtain ⟨program, built, candidate, field, group, backed, here, there⟩ := shadowed_reinterprets
    have same := always _ _ program _ _ candidate field group built backed
    rw [here, there] at same
    exact absurd same (by decide)

end Samples

end PropertyGen
