import PropertyGen.Proofs.Ownership
import PropertyGen.Proofs.Partition
import PropertyGen.Proofs.Parts

/-!
Types that are written in one place. Each field of such a type brings along the directives that are
visible at its declaration, from all levels of its scope: an alias of a namespace block and one of
the same name further out, which it hides, clash like aliases of two parts.
-/

namespace PropertyGen

namespace Surroundings

theorem unit_usings_add (source : Source) (offset : Nat) (surroundings : Surroundings)
    (ancestor : Node) :
    (addAncestor source offset surroundings ancestor).unitUsings =
      if ancestor.kind = "compilation_unit" then source.usingsIn ancestor
      else surroundings.unitUsings := by
  unfold addAncestor
  by_cases isUnit : ancestor.kind = "compilation_unit"
  · have notType : ¬ ancestor.isTypeDeclaration = true := by
      unfold Node.isTypeDeclaration
      rw [isUnit]
      decide
    rw [if_neg notType, isUnit, if_neg (by decide), if_neg (by decide), if_pos rfl, if_pos rfl]
    dsimp only
    split
    · cases fileScopedBefore? ancestor offset with
      | none => rfl
      | some declaration => rfl
    · rfl
  · rw [if_neg isUnit]
    split
    · rfl
    split
    · rfl
    split
    · rfl
    · rfl

theorem unit_usings_fold (source : Source) (offset : Nat) (surroundings : Surroundings)
    (ancestors : List Node) :
    (ancestors.foldl (addAncestor source offset) surroundings).unitUsings =
      ((ancestors.reverse.find? fun node => node.kind = "compilation_unit").map
        source.usingsIn).getD surroundings.unitUsings := by
  induction ancestors generalizing surroundings with
  | nil => rfl
  | cons ancestor rest induction =>
      rw [List.foldl_cons, induction, List.reverse_cons, List.find?_append, unit_usings_add]
      cases rest.reverse.find? fun node => node.kind = "compilation_unit" with
      | some unit => rfl
      | none => by_cases isUnit : ancestor.kind = "compilation_unit" <;> simp [isUnit]

end Surroundings

namespace Source

variable {source : Source}

/-- A site in a type has the unit of the type around it, as units stand outermost. -/
theorem unit_usings_of_site
    (units : ∀ site ∈ source.sites, site.node.kind = "compilation_unit" → site.ancestors = [])
    {site : Site} (inside : site ∈ source.sites) {outer : Site} {more : List Site}
    (around : site.typesAround = outer :: more) :
    (Surroundings.ofSite source site).unitUsings =
      (Surroundings.ofSite source outer).unitUsings := by
  have reached := mem_sites.mp inside
  clear inside
  induction reached with
  | here => cases around
  | @down above child reached step induction =>
      have notUnit : ¬ above.node.kind = "compilation_unit" := by
        rw [Site.types_around_child step, Site.types_from_eq] at around
        by_cases isType : above.node.isTypeDeclaration = true
        · intro isUnit
          unfold Node.isTypeDeclaration at isType
          rw [isUnit] at isType
          exact absurd isType (by decide)
        · intro isUnit
          rw [if_neg isType] at around
          have outermost := units above (mem_sites.mpr reached) isUnit
          have listed : outer ∈ above.typesAround := by
            rw [around]
            exact List.mem_cons_self
          have ancestor := List.mem_map_of_mem (f := Site.node) (List.mem_filter.mp listed).1
          rw [Site.map_node_above, outermost] at ancestor
          cases ancestor
      have same : (Surroundings.ofSite source child).unitUsings =
          (Surroundings.ofSite source above).unitUsings := by
        unfold Surroundings.ofSite
        rw [Surroundings.unit_usings_fold, Surroundings.unit_usings_fold,
          Site.ancestors_of_child step, List.reverse_cons, List.find?_append,
          List.find?_singleton, if_neg (by simpa using notUnit), Option.or_none]
      rw [same]
      rw [Site.types_around_child step, Site.types_from_eq] at around
      by_cases isType : above.node.isTypeDeclaration = true
      · rw [if_pos isType] at around
        rw [(List.cons.inj around).1]
      · rw [if_neg isType] at around
        exact induction around

theorem local_usings_of_site (formed : source.WellFormed) {site : Site}
    (inside : site ∈ source.sites) (within : source.Within site.node site.node.start)
    {outer : Site} {more : List Site} (around : site.typesAround = outer :: more)
    (globals : List Using) :
    (source.scope globals site).localUsings = (source.scope globals outer).localUsings := by
  have spaces := spaces_of_site formed.ordered inside within around
  have unit := unit_usings_of_site formed.units inside around
  have directives : (Surroundings.ofSite source site).localDirectives =
      (Surroundings.ofSite source outer).localDirectives := by
    unfold Surroundings.localDirectives Surroundings.directivesAt Surroundings.unitDirectives
      Surroundings.declaredSpaces Surroundings.space
    rw [spaces, unit]
  unfold Source.scope Scope.localUsings
  rw [Surroundings.usings_eq, Surroundings.usings_eq, directives]

end Source

/-- A type with one part, for which some field is resolved. -/
structure SinglePart (program : Program) (marker : String) (candidates : List Candidate)
    (fields : List ResolvedField) (part : Part) : Prop where
  visited : ∀ candidate ∈ candidates, candidate ∈ program.sources.flatMap Source.candidates
  resolved : (program.resolveFields marker candidates).outcome = .ok fields
  only : program.parts.filter (·.type = part.type) = [part]
  marked : ∃ field ∈ fields, field.typeName = part.type

namespace SinglePart

variable {program : Program} {marker : String} {candidates : List Candidate}
  {fields : List ResolvedField} {part : Part}

/-- All fields of a type of one part have the directives that are visible at its declaration. -/
theorem field_usings (single : SinglePart program marker candidates fields part)
    (formed : ∀ source ∈ program.sources, source.WellFormed) {field : ResolvedField}
    (inside : field ∈ fields) (own : field.typeName = part.type) :
    field.usings = (program.scope part.source part.site).localUsings := by
  obtain ⟨declarator, declared, resolved⟩ :=
    (Program.mem_resolved_fields single.resolved).mp inside
  obtain ⟨candidate, listed, paired⟩ := List.mem_flatMap.mp declared
  obtain ⟨site, member, rfl⟩ := List.mem_map.mp paired
  obtain ⟨source, sourceListed, candidateListed⟩ :=
    List.mem_flatMap.mp (single.visited candidate listed)
  have sameSource : candidate.source = source := by
    rw [candidates_eq] at candidateListed
    obtain ⟨other, -, same⟩ := List.mem_map.mp candidateListed
    rw [← same]
  subst sameSource
  obtain ⟨siteInside, isField, around, -⟩ :=
    Program.resolved_around candidateListed member resolved
  obtain ⟨declaration, ofField⟩ := field_of_declarator isField member
  obtain ⟨found, other, sameField, -, usings, -⟩ := Program.resolved_field_scope resolved
  obtain ⟨rfl, rfl⟩ := Prod.mk.inj (Option.some.inj (sameField.symm.trans ofField))
  have sourceFormed := formed candidate.source sourceListed
  have within := candidate.source.within_start
    (sourceFormed.covering candidate.site siteInside (.inr (.inr isField)))
  rw [usings]
  cases types : candidate.site.typesAround with
  | nil =>
      rw [show (program.scope candidate.source candidate.site).enclosing = [] from
        Source.enclosing_of_no_type types program.globals] at around
      cases around
  | cons outer more =>
      obtain ⟨outerInside, isType, -⟩ :=
        Source.outer_of_types_around sourceFormed.ordered siteInside within types
      have name : candidate.source.declaredType outer = part.type := by
        rw [show (program.scope candidate.source candidate.site).enclosing = _ from
          (Source.enclosing_cons sourceFormed.ordered siteInside within types program.globals).1,
          List.head?_cons, TypeDeclaration.name_of_site _ _ []] at around
        rw [← own]
        exact Option.some.inj around
      have isPart : (⟨candidate.source, outer⟩ : Part) ∈
          program.parts.filter (·.type = part.type) :=
        List.mem_filter.mpr ⟨mem_declared_parts.mpr ⟨sourceListed, outerInside, isType⟩,
          decide_eq_true name⟩
      rw [single.only] at isPart
      rw [← List.mem_singleton.mp isPart]
      exact Source.local_usings_of_site sourceFormed siteInside within types program.globals

theorem conflicting_iff (single : SinglePart program marker candidates fields part)
    (formed : ∀ source ∈ program.sources, source.WellFormed) :
    Grouping.Conflicting fields part.type ↔
      ¬ Grouping.Agree (program.scope part.source part.site).localUsings := by
  have brought : ∀ directive, directive ∈ Grouping.usingsOf fields part.type ↔
      directive ∈ (program.scope part.source part.site).localUsings := by
    intro directive
    constructor
    · intro member
      obtain ⟨field, listed, own⟩ := List.mem_flatMap.mp member
      obtain ⟨inside, same⟩ := List.mem_filter.mp listed
      rwa [single.field_usings formed inside (of_decide_eq_true same)] at own
    · intro visible
      obtain ⟨field, inside, own⟩ := single.marked
      apply List.mem_flatMap.mpr
      refine ⟨field, List.mem_filter.mpr ⟨inside, decide_eq_true own⟩, ?_⟩
      rwa [single.field_usings formed inside own]
  rw [← not_iff_not, not_not, Grouping.not_conflicting_iff]
  unfold Grouping.Agree
  simp only [brought]

theorem grouped_iff (single : SinglePart program marker candidates fields part)
    (formed : ∀ source ∈ program.sources, source.WellFormed) :
    part.type ∈ (typeGroups fields).map (·.containing.metadataName) ↔
      Grouping.Agree (program.scope part.source part.site).localUsings := by
  have known : part.type ∈ fields.map ResolvedField.typeName := by
    obtain ⟨field, inside, own⟩ := single.marked
    exact List.mem_map.mpr ⟨field, inside, own⟩
  rw [Grouping.type_group_names, ← Grouping.settled_types_eq, Grouping.settledTypes,
    List.mem_filter, mem_distinct, decide_eq_true_eq, single.conflicting_iff formed, not_not]
  exact and_iff_right known

theorem reported_iff (single : SinglePart program marker candidates fields part)
    (formed : ∀ source ∈ program.sources, source.WellFormed) :
    part.type ∈ (Grouping.exposing [] fields).map ResolvedField.typeName ↔
      ¬ Grouping.Agree (program.scope part.source part.site).localUsings := by
  rw [Grouping.mem_exposing_types, single.conflicting_iff formed]

end SinglePart

/-- A type of one part gets its group and no report if no directives that are visible at its
declaration clash; if some do, it gets no group and is reported once. -/
theorem single_part_grouped_iff {sources : List Source} {references : References}
    {program : Program} (built : Program.build sources references = .ok program)
    (formed : ∀ source ∈ sources, source.WellFormed) {marker : String}
    {candidates : List Candidate} {fields : List ResolvedField} {part : Part}
    (single : SinglePart program marker candidates fields part) :
    (∀ field ∈ fields, field.typeName = part.type →
      field.usings = (program.scope part.source part.site).localUsings) ∧
    ∃ groups, (buildGroups fields).outcome = .ok groups ∧
      (groups.map (·.containing.metadataName)).count part.type =
        (if Grouping.Agree (program.scope part.source part.site).localUsings then 1 else 0) ∧
      List.Forall₂ (Grouping.ReportOf fields) (Grouping.exposing [] fields)
        (buildGroups fields).diagnostics ∧
      ((Grouping.exposing [] fields).map ResolvedField.typeName).count part.type =
        if Grouping.Agree (program.scope part.source part.site).localUsings then 0 else 1 := by
  rw [← (Program.build_eq built).1] at formed
  refine ⟨fun field inside own => single.field_usings formed inside own, typeGroups fields, rfl,
    ?_, Grouping.reports_exposing fields, ?_⟩
  · rw [(Grouping.type_group_names_nodup fields).count]
    simp only [single.grouped_iff formed]
  · rw [(Grouping.exposing_types_nodup fields).count]
    simp only [single.reported_iff formed, ite_not]

section Samples

open Marker (branch token leaf fieldLeaf fieldBranch)

def aliasDirective (start : Nat) : Node :=
  branch "using_directive" start (start + 12) [
    token "using" start (start + 5),
    fieldLeaf "identifier" "name" (start + 6) (start + 7),
    token "=" (start + 8) (start + 9),
    leaf "identifier" (start + 10) (start + 11),
    token ";" (start + 11) (start + 12)]

/-- A class in a block with an alias, where the unit has an alias, too. -/
def aliasInBlock (outermost : String) : Source :=
  { path := "F0.cs"
    bytes := Text.Utf8.encode ("using " ++ outermost ++ " = A; "
      ++ "namespace N \x7b using V = B; class C \x7b [Mark] Foo _f; \x7d \x7d")
    root :=
      branch "compilation_unit" 0 68 [
        aliasDirective 0,
        branch "namespace_declaration" 13 68 [
          token "namespace" 13 22,
          fieldLeaf "identifier" "name" 23 24,
          fieldBranch "declaration_list" "body" 25 68 [
            token "\x7b" 25 26,
            aliasDirective 27,
            classWith 40 1 66 [attributedField 50],
            token "\x7d" 67 68]]] }

theorem alias_in_block_formed {outermost : String} (given : outermost ∈ ["V", "W"]) :
    ∀ source ∈ [aliasInBlock outermost], source.WellFormed := by
  revert outermost
  decide +kernel

theorem alias_in_block_part {outermost : String} (given : outermost ∈ ["V", "W"]) :
    ∃ part, (declaredParts [aliasInBlock outermost]).filter (·.type = "N.C") = [part] ∧
      (part.source.scope [] part.site).aliasTarget? "V" = some "B" ∧
      (Grouping.Agree (part.source.scope [] part.site).localUsings ↔ outermost = "W") := by
  have parts : ((declaredParts [aliasInBlock outermost]).filter (·.type = "N.C")).map
      (fun part => ((part.source.scope [] part.site).aliasTarget? "V",
        decide (Grouping.Agree (part.source.scope [] part.site).localUsings))) =
      [(some "B", decide (outermost = "W"))] := by
    revert outermost
    decide +kernel
  obtain ⟨part, only, facts⟩ := List.map_eq_singleton_iff.mp parts
  rw [Prod.mk.injEq] at facts
  obtain ⟨bound, agree⟩ := facts
  exact ⟨part, only, bound, decide_eq_decide.mp agree⟩

theorem alias_in_block_single {outermost : String} (given : outermost ∈ ["V", "W"]) :
    ∃ program fields part, Program.build [aliasInBlock outermost] markReference = .ok program ∧
      SinglePart program "Mark" (aliasInBlock outermost).candidates fields part ∧
      part.type = "N.C" ∧
      (program.scope part.source part.site).aliasTarget? "V" = some "B" ∧
      (Grouping.Agree (program.scope part.source part.site).localUsings ↔ outermost = "W") := by
  have found : ((Program.build [aliasInBlock outermost] markReference).toOption.any fun program =>
      program.globals.isEmpty &&
        (program.resolveFields "Mark" (aliasInBlock outermost).candidates).outcome.toOption.any
          fun fields => fields.map (·.typeName) = ["N.C"]) = true := by
    revert outermost
    decide +kernel
  obtain ⟨part, only, bound, agree⟩ := alias_in_block_part given
  obtain ⟨program, built, found⟩ := except_any_returns found
  obtain ⟨noGlobals, found⟩ := (Bool.and_eq_true _ _).mp found
  obtain ⟨fields, resolved, found⟩ := except_any_returns found
  have names := of_decide_eq_true found
  obtain ⟨sources, -⟩ := Program.build_eq built
  have own : part.type = "N.C" := by
    have listed := only ▸ List.mem_singleton_self part
    exact of_decide_eq_true (List.mem_filter.mp listed).2
  refine ⟨program, fields, part, built, ⟨?_, resolved, ?_, ?_⟩, own, ?_⟩
  · intro candidate listed
    rw [sources]
    exact List.mem_flatMap.mpr ⟨_, List.mem_singleton_self _, listed⟩
  · unfold Program.parts
    rw [sources, own]
    exact only
  · apply List.mem_map.mp
    rw [own, names]
    exact List.mem_singleton_self _
  · unfold Program.scope
    rw [List.isEmpty_iff.mp noGlobals]
    exact ⟨bound, agree⟩

theorem single_part_grouped_iff_apart :
    ∃ program fields part, Program.build [aliasInBlock "W"] markReference = .ok program ∧
      SinglePart program "Mark" (aliasInBlock "W").candidates fields part ∧
      (∃ groups, (buildGroups fields).outcome = .ok groups ∧
        (groups.map (·.containing.metadataName)).count part.type = 1) ∧
      ((Grouping.exposing [] fields).map ResolvedField.typeName).count part.type = 0 := by
  obtain ⟨program, fields, part, built, single, -, -, agree⟩ :=
    @alias_in_block_single "W" (by simp)
  have formed := @alias_in_block_formed "W" (by simp)
  obtain ⟨-, groups, grouped, count, -, reported⟩ := single_part_grouped_iff built formed single
  rw [if_pos (agree.mpr rfl)] at count reported
  exact ⟨program, fields, part, built, single, ⟨groups, grouped, count⟩, reported⟩

/-- An alias in a block that hides one of the unit is taken for a conflict of two parts. -/
theorem hidden_alias_conflicts :
    (∃ program fields part, Program.build [aliasInBlock "V"] markReference = .ok program ∧
      SinglePart program "Mark" (aliasInBlock "V").candidates fields part ∧
      (program.scope part.source part.site).aliasTarget? "V" = some "B" ∧
      part.type ∉ (typeGroups fields).map (·.containing.metadataName) ∧
      part.type ∈ (Grouping.exposing [] fields).map ResolvedField.typeName) ∧
    ¬ ∀ (sources : List Source) (references : References) (program : Program) (marker : String)
      (candidates : List Candidate) (fields : List ResolvedField) (part : Part),
        Program.build sources references = .ok program →
        (∀ source ∈ sources, source.WellFormed) →
        SinglePart program marker candidates fields part →
          part.type ∈ (typeGroups fields).map (·.containing.metadataName) := by
  obtain ⟨program, fields, part, built, single, -, bound, agree⟩ :=
    @alias_in_block_single "V" (by simp)
  have formed := @alias_in_block_formed "V" (by simp)
  have clash : ¬ Grouping.Agree (program.scope part.source part.site).localUsings :=
    fun calm => absurd (agree.mp calm) (by decide)
  have ownFormed := formed
  rw [← (Program.build_eq built).1] at ownFormed
  have ungrouped := fun member => clash ((single.grouped_iff ownFormed).mp member)
  refine ⟨⟨program, fields, part, built, single, bound, ungrouped,
    (single.reported_iff ownFormed).mpr clash⟩, fun always => ?_⟩
  exact ungrouped (always _ _ program _ _ fields part built formed single)

end Samples

end PropertyGen
