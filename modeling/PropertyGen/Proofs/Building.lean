import PropertyGen.Generation.Run
import PropertyGen.Proofs.Silence
import PropertyGen.Proofs.Spaces
import PropertyGen.Proofs.Tables

/-!
Building a program and binding the marker in it. A program can be built unless a constant has an
equals sign and nothing else; then the marker and the notification interface are always found.
-/

namespace PropertyGen

/-- A declarator with an equals sign and no named child at all. -/
def Dangling (declarator : Site) : Prop :=
  declarator.node.hasChild "=" = true ∧ declarator.namedChildren = []

instance (declarator : Site) : Decidable (Dangling declarator) :=
  decidable_of_iff (declarator.node.hasChild "=" = true ∧ declarator.namedChildren.isEmpty = true)
    (and_congr_right fun _ => List.isEmpty_iff)

def InType (source : Source) (site : Site) : Prop := (Surroundings.ofSite source site).types ≠ []

instance (source : Source) (site : Site) : Decidable (InType source site) :=
  inferInstanceAs (Decidable (_ ≠ _))

/-- No constant of a source that is declared in a type is left without all children. -/
def Initialized (source : Source) : Prop :=
  ∀ field ∈ source.sites, ConstantDeclaration.isConstant source field = true →
    InType source field → ∀ declarator ∈ field.declarators, ¬ Dangling declarator

instance (source : Source) : Decidable (Initialized source) :=
  inferInstanceAs (Decidable (∀ field ∈ source.sites, _ → _ → ∀ declarator ∈ field.declarators, ¬ _))

namespace Surroundings

theorem nested_names_nil (space : String) (types : List String) :
    nestedNames space types = [] ↔ types = [] := by
  cases types with
  | nil => simp [nestedNames]
  | cons outermost inner => simp [nestedNames]

theorem enclosing_nil (surroundings : Surroundings) (globals : List Using) :
    (surroundings.scope globals).enclosing = [] ↔ surroundings.types = [] := by
  show (nestedNames surroundings.space surroundings.types.reverse).reverse = [] ↔ _
  rw [List.reverse_eq_nil_iff, nested_names_nil, List.reverse_eq_nil_iff]

theorem scope_space (surroundings : Surroundings) (globals others : List Using) :
    (surroundings.scope globals).space = (surroundings.scope others).space := by
  rw [space_eq, space_eq]

end Surroundings

namespace ConstantDeclaration

theorem initializer_returns (declarator : Site) :
    (∃ value, initializer? declarator = .ok value) ↔ ¬ Dangling declarator := by
  unfold initializer? Dangling
  cases clause : declarator.namedChildren.find? fun child => child.node.kind = "equals_value_clause" with
  | some clauseSite =>
      have inside := List.mem_of_find?_eq_some clause
      refine ⟨?_, fun _ => ⟨_, rfl⟩⟩
      intro _ dangling
      rw [dangling.2] at inside
      cases inside
  | none =>
      by_cases equals : declarator.node.hasChild "=" = true
      · simp only [equals, if_true, true_and]
        cases last : declarator.namedChildren.getLast? with
        | none => simp [List.getLast?_eq_none_iff.mp last]
        | some value =>
            refine ⟨?_, fun _ => ⟨_, rfl⟩⟩
            intro _ none
            rw [none] at last
            cases last
      · simp [equals]

theorem of_field_returns (source : Source) (globals : List Using) (field : Site) :
    (∃ constants, ofField source globals field = .ok constants) ↔
      (InType source field → ∀ declarator ∈ field.declarators, ¬ Dangling declarator) := by
  have outside : (source.scope globals field).enclosing = [] ↔ ¬ InType source field := by
    unfold InType
    rw [not_not]
    exact Surroundings.enclosing_nil _ globals
  unfold ofField
  cases enclosing : (source.scope globals field).enclosing with
  | nil =>
      have notInType := outside.mp enclosing
      exact ⟨fun _ inType => absurd inType notInType, fun _ => ⟨_, rfl⟩⟩
  | cons type outer =>
      have inType : InType source field := by
        by_contra notInType
        rw [outside.mpr notInType] at enclosing
        cases enclosing
      dsimp only
      rw [last_returns, except_each_succeeds, forall_prop_of_true inType]
      apply forall₂_congr
      intro declarator _
      rw [last_returns, initializer_returns]

theorem all_returns (source : Source) (globals : List Using) :
    (∃ constants, all source globals = .ok constants) ↔ Initialized source := by
  have each : (∃ found, (source.sites.filter (isConstant source)).mapM (ofField source globals) =
      .ok found) ↔ Initialized source := by
    rw [except_each_succeeds]
    simp only [List.mem_filter, of_field_returns, and_imp]
    rfl
  rw [← each]
  exact last_returns

end ConstantDeclaration

namespace Program

theorem build_returns (sources : List Source) (references : References) :
    (∃ program, build sources references = .ok program) ↔
      ∀ source ∈ sources, Initialized source := by
  have each : (∃ found, sources.mapM (fun source =>
      ConstantDeclaration.all source (globalUsings sources)) = .ok found) ↔
        ∀ source ∈ sources, Initialized source := by
    rw [except_each_succeeds]
    simp only [ConstantDeclaration.all_returns]
  rw [← each]
  exact last_returns

theorem build_eq {sources : List Source} {references : References} {program : Program}
    (built : build sources references = .ok program) :
    program.sources = sources ∧ program.references = references ∧
      program.globals = globalUsings sources ∧
      program.known = knownNames (declarationsOf sources) references ∧
      program.types = typeTable (declarationsOf sources) references
        (knownNames (declarationsOf sources) references) := by
  obtain ⟨constants, -, same⟩ := except_bind_returns.mp built
  rw [← Except.ok.inj same]
  exact ⟨rfl, rfl, rfl, rfl, rfl⟩

theorem create_returns {sources : List Source} {references : References} {program : Program} :
    (create sources references).outcome = .ok program ↔ build sources references = .ok program := by
  unfold create
  constructor
  · intro returned
    obtain ⟨built, same, later⟩ := Logged.bind_returns.mp returned
    rw [← Except.ok.inj later]
    exact same
  · intro built
    exact Logged.bind_returns.mpr ⟨program, built, rfl⟩

end Program

section Types

variable {declarations : List TypeDeclaration} {references : References}

theorem mem_by_nesting {declaration : TypeDeclaration} :
    declaration ∈ byNesting declarations ↔ declaration ∈ declarations := by
  have bounded (depths : List Nat) (start : Nat) :
      start ≤ depths.foldl max start ∧ ∀ depth ∈ depths, depth ≤ depths.foldl max start := by
    induction depths generalizing start with
    | nil => simp
    | cons first rest induction =>
        obtain ⟨least, each⟩ := induction (max start first)
        refine ⟨Nat.le_trans (Nat.le_max_left _ _) least, List.forall_mem_cons.mpr ⟨?_, each⟩⟩
        exact Nat.le_trans (Nat.le_max_right _ _) least
  unfold byNesting
  simp only [List.mem_flatMap, List.mem_range, List.mem_filter, decide_eq_true_eq]
  constructor
  · intro given
    rcases given with ⟨level, -, member, -⟩
    exact member
  · intro member
    refine ⟨Names.nesting declaration.metadataName, ?_, member, rfl⟩
    have small := (bounded (declarations.map fun declaration =>
      Names.nesting declaration.metadataName) 0).2 _ (List.mem_map_of_mem member)
    omega

theorem declared_parts {name : String} (declared : name ∈ declarations.map (·.metadataName)) :
    ∃ first more, declarations.filter (fun declaration => declaration.metadataName = name) =
      first :: more ∧ first ∈ declarations ∧ first.metadataName = name := by
  obtain ⟨declaration, inside, same⟩ := List.mem_map.mp declared
  have own : declaration ∈ declarations.filter fun declaration =>
      declaration.metadataName = name := List.mem_filter.mpr ⟨inside, decide_eq_true same⟩
  cases parts : declarations.filter fun declaration => declaration.metadataName = name with
  | nil =>
      rw [parts] at own
      cases own
  | cons first more =>
      have firstPart : first ∈ declarations.filter fun declaration =>
          declaration.metadataName = name := by
        rw [parts]
        exact List.mem_cons_self
      obtain ⟨firstInside, firstName⟩ := List.mem_filter.mp firstPart
      exact ⟨first, more, rfl, firstInside, of_decide_eq_true firstName⟩

theorem names_add_declared (known : KnownNames) (table : List TypeSymbol) {name : String}
    (declared : name ∈ declarations.map (·.metadataName)) :
    (addDeclared declarations references known table name).map (·.metadataName) =
      table.map (·.metadataName) ++ [name] := by
  obtain ⟨first, more, parts, -, firstName⟩ := declared_parts declared
  unfold addDeclared
  rw [parts]
  dsimp only
  rw [List.map_append, ← firstName]
  rfl

theorem names_fold_declared (known : KnownNames) {names : List String}
    (declared : ∀ name ∈ names, name ∈ declarations.map (·.metadataName)) (table : List TypeSymbol) :
    (names.foldl (addDeclared declarations references known) table).map (·.metadataName) =
      table.map (·.metadataName) ++ names := by
  induction names generalizing table with
  | nil => simp
  | cons name rest induction =>
      obtain ⟨own, others⟩ := List.forall_mem_cons.mp declared
      rw [List.foldl_cons, induction others, names_add_declared known table own,
        List.append_assoc]
      rfl

theorem type_table_names (known : KnownNames) :
    (typeTable declarations references known).map (·.metadataName) =
      (references.keys.filter fun name =>
        !(distinct (declarations.map (·.metadataName))).contains name) ++
        distinct (declarations.map (·.metadataName)) := by
  unfold typeTable
  rw [names_fold_declared known fun name member => mem_distinct.mp member, List.map_map]
  congr 1
  unfold Table.keys
  rw [List.filter_map]
  rfl

end Types

theorem TypeDeclaration.name_of_site (source : Source) (globals others : List Using) (site : Site) :
    (TypeDeclaration.ofSite source globals site).metadataName =
      (TypeDeclaration.ofSite source others site).metadataName := by
  have space := (Surroundings.ofSite source site).scope_space globals others
  unfold TypeDeclaration.ofSite Source.scope
  dsimp only
  rw [space]
  rfl

namespace Program

theorem type_name {program : Program} {name : String} {symbol : TypeSymbol}
    (found : program.type? name = some symbol) :
    symbol.metadataName = name := by
  unfold type? at found
  have same := List.find?_some found
  exact of_decide_eq_true same

/-- A program knows the types that its sources declare and those it has references to. -/
theorem type_known {sources : List Source} {references : References} {program : Program}
    (built : build sources references = .ok program) (name : String) :
    (∃ symbol, program.type? name = some symbol) ↔
      name ∈ (declarationsOf sources).map (·.metadataName) ∨ name ∈ references.keys := by
  obtain ⟨-, -, -, -, types⟩ := build_eq built
  have listed : (∃ symbol, program.type? name = some symbol) ↔
      name ∈ program.types.map (·.metadataName) := by
    unfold type?
    rw [← Option.isSome_iff_exists, List.find?_isSome, List.mem_map]
    simp only [decide_eq_true_eq]
  rw [listed, types, type_table_names, List.mem_append, List.mem_filter, mem_distinct]
  by_cases declared : name ∈ (declarationsOf sources).map (·.metadataName)
  · simp only [declared, true_or, or_true]
  · have undeclared : name ∉ distinct ((declarationsOf sources).map (·.metadataName)) :=
      fun member => declared (mem_distinct.mp member)
    simp [declared, undeclared]

theorem marker_initialized : Initialized Marker.source := by
  have none : (Marker.source.sites.filter
      (ConstantDeclaration.isConstant Marker.source)).isEmpty = true := by decide +kernel
  intro field inside isConstant
  have member := List.mem_filter.mpr ⟨inside, isConstant⟩
  rw [List.isEmpty_iff.mp none] at member
  cases member

theorem marker_declared {sources : List Source} (inside : Marker.source ∈ sources) :
    Marker.metadataName ∈ (declarationsOf sources).map (·.metadataName) := by
  have names (globals : List Using) :
      (TypeDeclaration.all Marker.source globals).map (·.metadataName) = [Marker.metadataName] := by
    have plain : (TypeDeclaration.all Marker.source []).map (·.metadataName) =
        [Marker.metadataName] := by decide +kernel
    rw [← plain]
    unfold TypeDeclaration.all
    simp only [List.map_map]
    apply List.map_congr_left
    intro site _
    exact TypeDeclaration.name_of_site Marker.source globals [] site
  obtain ⟨declaration, own, name⟩ :=
    List.mem_map.mp ((names (globalUsings sources)).symm ▸ List.mem_singleton_self _)
  refine List.mem_map.mpr ⟨declaration, mem_by_nesting.mpr ?_, name⟩
  exact List.mem_flatMap.mpr ⟨Marker.source, inside, own⟩

theorem build_with_marker {sources : List Source} {program : Program} {references : References}
    (built : build sources references = .ok program) (others : References) :
    ∃ marked, build (sources ++ [Marker.source]) others = .ok marked := by
  have initialized := (build_returns sources references).mp ⟨program, built⟩
  apply (build_returns _ others).mpr
  intro source member
  rcases List.mem_append.mp member with old | new
  · exact initialized source old
  · rw [List.mem_singleton.mp new]
    exact marker_initialized

theorem complete_returns {sources : List Source} {program : Program} (options : Options)
    (built : build sources References.standard = .ok program) :
    ∃ complete references, (program.complete options).outcome = .ok complete ∧
      build (sources ++ [Marker.source]) references = .ok complete ∧
      ∀ name ∈ References.standard.keys, name ∈ references.keys := by
  obtain ⟨sourcesEq, referencesEq, -⟩ := build_eq built
  obtain ⟨marked, markedBuilt⟩ := build_with_marker built References.standard
  have added : (program.addSources [Marker.source]).outcome = .ok marked := by
    unfold addSources
    rw [sourcesEq, referencesEq]
    exact create_returns.mpr markedBuilt
  by_cases plain : options.extraReferences.isEmpty = true
  · refine ⟨marked, References.standard, ?_, markedBuilt, fun name known => known⟩
    refine Logged.bind_returns.mpr ⟨marked, added, ?_⟩
    rw [if_pos plain]
    rfl
  · obtain ⟨markedSources, markedReferences, -⟩ := build_eq markedBuilt
    let references := References.standard.merge (referenceTable options.extraReferences)
    obtain ⟨complete, completeBuilt⟩ := build_with_marker built references
    refine ⟨complete, references, ?_, completeBuilt, fun name known => Table.mem_keys_merge known _⟩
    refine Logged.bind_returns.mpr ⟨marked, added, ?_⟩
    rw [if_neg plain]
    unfold addReferences
    rw [markedSources, markedReferences]
    exact create_returns.mpr completeBuilt

theorem bind_returns {sources : List Source} {program : Program} (options : Options)
    (built : build sources References.standard = .ok program) :
    ∃ bound, (program.bind options).outcome = .ok bound := by
  obtain ⟨complete, references, completed, completeBuilt, referred⟩ := complete_returns options built
  obtain ⟨marker, markerFound⟩ := (type_known completeBuilt Marker.metadataName).mpr
    (.inl (marker_declared (List.mem_append_right _ List.mem_cons_self)))
  obtain ⟨notification, notificationFound⟩ :=
    (type_known completeBuilt notificationName).mpr (.inr (referred _ (by decide)))
  refine ⟨{ program := complete, marker, notification }, ?_⟩
  rw [bind_eq]
  refine Logged.bind_returns.mpr ⟨complete, completed, ?_⟩
  unfold lookUp
  rw [markerFound, notificationFound]
  rfl

end Program

end PropertyGen
