import PropertyGen.Proofs.NameArguments
import PropertyGen.Proofs.Symbols

/-!
What stands in a source belongs to a type that the source declares: each constant, and each field
that is resolved. Neither can be empty, and the types around a site that is not empty are declared
at sites around it.
-/

namespace PropertyGen

def Source.Declares (source : Source) (name : String) : Prop :=
  ∃ site ∈ source.sites, site.node.isTypeDeclaration = true ∧
    (TypeDeclaration.ofSite source [] site).metadataName = name

theorem parts_iff_declares (globals : List Using) {source : Source} {name : String} :
    partsIn globals [source] name ≠ [] ↔ source.Declares name := by
  rw [List.ne_nil_iff_exists_cons]
  constructor
  · intro given
    rcases given with ⟨part, more, same⟩
    have member : part ∈ partsIn globals [source] name := by
      rw [same]
      exact List.mem_cons_self
    obtain ⟨own, other, listed, site, inside, isType, rfl⟩ := mem_parts_in.mp member
    rw [List.mem_singleton.mp listed] at *
    exact ⟨site, inside, isType, (TypeDeclaration.name_of_site _ _ _ _).trans own⟩
  · intro given
    rcases given with ⟨site, inside, isType, own⟩
    apply List.ne_nil_iff_exists_cons.mp
    apply List.ne_nil_of_mem
    exact mem_parts_in.mpr ⟨(TypeDeclaration.name_of_site _ _ _ _).trans own, source,
      List.mem_singleton_self _, site, inside, isType, rfl⟩

def Source.typeNames (source : Source) : List String :=
  (TypeDeclaration.all source []).map (·.metadataName)

theorem mem_type_names {source : Source} {name : String} :
    name ∈ source.typeNames ↔ source.Declares name := by
  unfold Source.typeNames Source.Declares TypeDeclaration.all
  simp only [List.mem_map, List.mem_filter]
  constructor
  · intro given
    rcases given with ⟨_, ⟨site, ⟨inside, isType⟩, rfl⟩, own⟩
    exact ⟨site, inside, isType, own⟩
  · intro given
    rcases given with ⟨site, inside, isType, own⟩
    exact ⟨_, ⟨site, ⟨inside, isType⟩, rfl⟩, own⟩

namespace Source

variable {source : Source}

theorem enclosing_declared (ordered : source.Ordered) {site : Site} (inside : site ∈ source.sites)
    (covering : site.node.start < site.node.stop) {globals : List Using} {type : String}
    (around : (source.scope globals site).enclosing.head? = some type) : source.Declares type := by
  rcases enclosing_cases ordered inside covering globals with
    none | ⟨outer, outerInside, isType, names, -⟩
  · rw [none] at around
    cases around
  · rw [names, List.head?_cons] at around
    rw [← Option.some.inj around]
    exact ⟨outer, outerInside, isType, TypeDeclaration.name_of_site _ _ _ _⟩

end Source

def Source.constantNames (source : Source) : List String :=
  (source.sites.filter (ConstantDeclaration.isConstant source)).flatMap fun field =>
    field.declarators.filterMap fun declarator =>
      (declarator.node.childOr? "name" ["identifier"]).map source.text

theorem constant_owner {source : Source} (ordered : source.Ordered) {globals : List Using}
    {constant : ConstantDeclaration}
    (member : constant ∈ ConstantDeclaration.inSource globals source) :
    ∃ type name, constant.key = Names.member type name ∧ source.Declares type ∧
      name ∈ source.constantNames := by
  obtain ⟨-, field, inside, isConstant, declarator, below, name, named, type, around, key⟩ :=
    ConstantDeclaration.in_source_site member
  have covering : field.node.start < field.node.stop := by
    have modifiers := isConstant
    unfold ConstantDeclaration.isConstant at modifiers
    rw [Bool.and_eq_true, List.contains_iff_mem] at modifiers
    obtain ⟨child, listed, written⟩ := List.mem_map.mp modifiers.2
    apply source.covering_of_child ordered inside (List.mem_filter.mp listed).1
    apply source.covering_of_text
    rw [written]
    decide
  refine ⟨type, source.text name, key, ?_, ?_⟩
  · exact source.enclosing_declared ordered inside covering around
  · apply List.mem_flatMap.mpr
    refine ⟨field, List.mem_filter.mpr ⟨inside, isConstant⟩, ?_⟩
    exact List.mem_filterMap.mpr ⟨declarator, below, by rw [named]; rfl⟩

theorem KnownNames.resolve_empty (known : KnownNames) (use : NameUse) (scope : Scope) :
    known.resolve? use "" scope = none := by
  have request : scope.request? "" = some (.relative []) := rfl
  unfold resolve? requests
  rw [request]
  rfl

namespace Program

variable {program : Program}

theorem bound_attribute {source : Source} {scope : Scope} {field : Node}
    {attributes : List AttributeUse}
    (returned : (program.attributesOf source scope field).outcome = .ok attributes)
    {used : AttributeUse} (member : used ∈ attributes) {type : String}
    (bound : used.type? = some type) :
    ∃ list ∈ field.children, ∃ node ∈ list.children, ∃ name ∈ node.children,
      source.compactText name ≠ "" := by
  obtain ⟨results, all, last⟩ := Logged.bind_returns.mp returned
  rw [← Except.ok.inj last] at member
  obtain ⟨result, listed, same⟩ := List.mem_filterMap.mp member
  obtain ⟨node, nodeListed, returned⟩ := (Logged.mem_for_each all).mp listed
  obtain ⟨list, isList, inList⟩ := List.mem_flatMap.mp nodeListed
  refine ⟨list, (List.mem_filter.mp (List.mem_filter.mp isList).1).1, node,
    (List.mem_filter.mp (List.mem_filter.mp inList).1).1, ?_⟩
  rw [show result = some used from same] at returned
  obtain ⟨ofType, -⟩ := program.attribute_use_some returned
  obtain ⟨name, named, binds⟩ := Option.bind_eq_some_iff.mp (ofType.symm.trans bound)
  refine ⟨name, node.child_or_listed named, fun empty => ?_⟩
  rw [empty] at binds
  unfold attributeType? resolveName? at binds
  rw [KnownNames.resolve_empty] at binds
  cases binds

theorem resolved_around {source : Source} {marker : String} {candidate : Candidate}
    (listed : candidate ∈ source.candidates) {declarator : Site}
    (member : declarator ∈ candidate.declarators) {field : ResolvedField}
    (resolved : (program.resolveDeclarator? marker source declarator).outcome =
      .ok (some field)) :
    candidate.site ∈ source.sites ∧ candidate.site.node.kind = "field_declaration" ∧
      (program.scope source candidate.site).enclosing.head? = some field.typeName ∧
      ∃ attributes, (program.attributesOf source (program.scope source candidate.site)
        candidate.site.node).outcome = .ok attributes ∧
          ∃ used ∈ attributes, used.type? = some marker := by
  rw [candidates_eq] at listed
  obtain ⟨site, kept, rfl⟩ := List.mem_map.mp listed
  obtain ⟨inside, isCandidate⟩ := List.mem_filter.mp kept
  unfold Node.isCandidate at isCandidate
  rw [Bool.and_eq_true, decide_eq_true_eq] at isCandidate
  obtain ⟨declaration, ofField⟩ := field_of_declarator isCandidate.1 member
  obtain ⟨found, other, sameField, containing, -, attributes, returned, used, usedListed, bound⟩ :=
    resolved_field_scope resolved
  obtain ⟨rfl, rfl⟩ := Prod.mk.inj (Option.some.inj (sameField.symm.trans ofField))
  obtain ⟨type, around, symbol⟩ := Option.bind_eq_some_iff.mp containing
  refine ⟨inside, isCandidate.1, ?_, attributes, returned, used, usedListed, bound⟩
  rw [show field.typeName = type from type_name symbol]
  exact around

/-- A resolved field is declared in a type of its source. -/
theorem resolved_owner {source : Source} (ordered : source.Ordered) {marker : String}
    {candidate : Candidate} (listed : candidate ∈ source.candidates) {declarator : Site}
    (member : declarator ∈ candidate.declarators) {field : ResolvedField}
    (resolved : (program.resolveDeclarator? marker source declarator).outcome =
      .ok (some field)) : source.Declares field.typeName := by
  obtain ⟨inside, -, around, attributes, returned, used, usedListed, bound⟩ :=
    resolved_around listed member resolved
  obtain ⟨list, isList, node, isNode, name, isName, written⟩ :=
    bound_attribute returned usedListed bound
  -- the name of the marker is not empty, so nothing around it is
  obtain ⟨listSite, listStep, rfl⟩ := Site.site_of_child isList
  have listInside := source.child_mem_sites inside listStep
  obtain ⟨nodeSite, nodeStep, rfl⟩ := Site.site_of_child isNode
  have nodeInside := source.child_mem_sites listInside nodeStep
  have covering := source.covering_of_child ordered inside isList
    (source.covering_of_child ordered listInside isNode
      (source.covering_of_child ordered nodeInside isName (source.covering_of_compact written)))
  exact source.enclosing_declared ordered inside covering around

end Program

end PropertyGen
