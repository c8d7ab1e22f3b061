import PropertyGen.Proofs.Agreement
import PropertyGen.Proofs.Binding
import PropertyGen.Proofs.Interference
import PropertyGen.Proofs.Meanings
import PropertyGen.Proofs.Symbols

/-!
The trees of fragments as sources. They declare no fields and only types that are known already, so
a program that has them too knows the same names; its symbols have more interfaces and locations.
-/

namespace PropertyGen

def Render.baseName : String := globalMark ++ notificationName

structure DeclaresAgain (type : TypeSymbol) (tree : Source) (site : Site) : Prop where
  metadataName : (TypeDeclaration.ofSite tree [] site).metadataName = type.metadataName
  name : tree.declaredName site.node = type.name
  kind : TypeDeclaration.kindOf site.node = type.kind
  typeParameters : (TypeDeclaration.ofSite tree [] site).typeParameters = type.typeParameters
  bases : TypeDeclaration.basesOf tree site.node = [Render.baseName]
  space : (Surroundings.ofSite tree site).space = type.space
  unnested : (Surroundings.ofSite tree site).types = []
  simple : Names.Simple (tree.typeSegment site.node)
  plusless : '+' ∉ type.space.toList

instance (type : TypeSymbol) (tree : Source) (site : Site) :
    Decidable (DeclaresAgain type tree site) :=
  decidable_of_iff
    ((TypeDeclaration.ofSite tree [] site).metadataName = type.metadataName ∧
      tree.declaredName site.node = type.name ∧ TypeDeclaration.kindOf site.node = type.kind ∧
      (TypeDeclaration.ofSite tree [] site).typeParameters = type.typeParameters ∧
      TypeDeclaration.basesOf tree site.node = [Render.baseName] ∧
      (Surroundings.ofSite tree site).space = type.space ∧
      (Surroundings.ofSite tree site).types = [] ∧ Names.Simple (tree.typeSegment site.node) ∧
      '+' ∉ type.space.toList)
    ⟨fun ⟨metadataName, name, kind, typeParameters, bases, space, unnested, simple, plusless⟩ =>
        ⟨metadataName, name, kind, typeParameters, bases, space, unnested, simple, plusless⟩,
      fun ⟨metadataName, name, kind, typeParameters, bases, space, unnested, simple, plusless⟩ =>
        ⟨metadataName, name, kind, typeParameters, bases, space, unnested, simple, plusless⟩⟩

/-- The tree of the fragment of a type: one declaration of the type, whose members are no fields,
perhaps with using directives that are not global. -/
structure FragmentTree (type : TypeSymbol) (tree : Source) : Prop where
  locals : ∀ directive ∈ tree.usingsIn tree.root, directive.isGlobal = false
  noFields : ∀ site ∈ tree.sites, site.node.kind ≠ "field_declaration"
  declaration : ∃ site, (tree.sites.filter fun site => site.node.isTypeDeclaration) = [site] ∧
    DeclaresAgain type tree site

def IsMarkerTree (tree : Source) : Prop :=
  tree.bytes = Marker.source.bytes ∧ tree.root = Marker.source.root

/-- Symbols that agree in all that the first part of a type says. -/
structure TypeSymbol.SameHead (first second : TypeSymbol) : Prop where
  metadataName : second.metadataName = first.metadataName
  name : second.name = first.name
  space : second.space = first.space
  kind : second.kind = first.kind
  typeParameters : second.typeParameters = first.typeParameters
  containing : second.containing? = first.containing?

theorem TypeSymbol.Begins.same_head {known others : KnownNames} {part : TypeDeclaration}
    {first second : TypeSymbol} (begins : first.Begins known part)
    (types : others.types.contains = known.types.contains) (also : second.Begins others part) :
    first.SameHead second := by
  refine ⟨?_, ?_, ?_, ?_, ?_, ?_⟩
  · rw [begins.metadataName, also.metadataName]
  · rw [begins.name, also.name]
  · rw [begins.space, also.space]
  · rw [begins.kind, also.kind]
  · rw [begins.typeParameters, also.typeParameters]
  · rw [begins.containing, also.containing, types]

theorem TypeSymbol.kinds_of_heads {first? second? : Option TypeSymbol}
    (heads : Option.Rel TypeSymbol.SameHead first? second?) :
    second?.map (·.kind) = first?.map (·.kind) := by
  cases heads with
  | none => rfl
  | some same => exact congrArg some same.kind

/-- A declaration that says the same about a type as its symbol, which is in no other type. -/
structure TypeDeclaration.Repeats (declaration : TypeDeclaration) (type : TypeSymbol) : Prop where
  name : declaration.name = type.name
  space : declaration.space = type.space
  kind : declaration.kind = type.kind
  typeParameters : declaration.typeParameters = type.typeParameters
  unnested : declaration.containing? = none
  outermost : type.containing? = none

/-- Trees that add no fields, no global directives and no names to a program: each type that they
declare is known, stands in the namespace of its name, and is said nothing new about unless another
source declares it first. -/
structure Program.Echoes (program : Program) (sources trees : List Source) : Prop where
  locals : globalUsings trees = []
  noFields : ∀ tree ∈ trees, ∀ site ∈ tree.sites, site.node.kind ≠ "field_declaration"
  known : ∀ name, ∀ declaration ∈ partsIn program.globals trees name,
    ∃ type, program.type? name = some type
  placed : ∀ tree ∈ trees, ∀ site ∈ tree.sites, site.node.isTypeDeclaration = true →
    (Surroundings.ofSite tree site).space =
      Names.spaceOf (TypeDeclaration.ofSite tree program.globals site).metadataName
  repeats : ∀ name, ∀ declaration ∈ partsIn program.globals trees name,
    partsIn program.globals sources name = [] →
    ∀ type, program.type? name = some type → declaration.Repeats type

theorem no_candidates {source : Source}
    (noFields : ∀ site ∈ source.sites, site.node.kind ≠ "field_declaration") :
    source.candidates = [] := by
  rw [candidates_eq, List.map_eq_nil_iff, List.filter_eq_nil_iff]
  intro site inside isCandidate
  unfold Node.isCandidate at isCandidate
  rw [Bool.and_eq_true, decide_eq_true_eq] at isCandidate
  exact noFields site inside isCandidate.1

namespace Program.Echoes

variable {sources trees : List Source} {references : References} {first second : Program}
  (built : build (sources ++ [Marker.source]) references = .ok first)
  (again : build (sources ++ trees ++ [Marker.source]) references = .ok second)
  (echoes : first.Echoes sources trees)
include built again echoes

theorem globals_eq : second.globals = first.globals := by
  rw [(build_eq built).2.2.1, (build_eq again).2.2.1]
  have locals := echoes.locals
  unfold globalUsings at locals ⊢
  rw [List.flatMap_append, List.flatMap_append, List.flatMap_append, locals, List.append_nil]

theorem parts_eq (name : String) :
    partsIn second.globals (sources ++ trees ++ [Marker.source]) name =
      partsIn first.globals sources name ++
        (partsIn first.globals trees name ++ partsIn first.globals [Marker.source] name) := by
  rw [globals_eq built again echoes, parts_in_append, parts_in_append, List.append_assoc]

theorem constants_eq : second.constants = first.constants := by
  have none : trees.flatMap (ConstantDeclaration.inSource first.globals) = [] := by
    apply List.flatMap_eq_nil_iff.mpr
    intro tree listed
    exact no_constants (echoes.noFields tree listed) _
  rw [bound_constants again, bound_constants built, globals_eq built again echoes,
    List.flatMap_append, none, List.append_nil]

theorem types_eq (name : String) :
    second.known.types.contains name = first.known.types.contains name := by
  rw [Bool.eq_iff_iff, List.contains_iff_mem, List.contains_iff_mem, mem_known_types again,
    mem_known_types built, parts_eq built again echoes, parts_in_append]
  constructor
  · intro given
    rcases given with declared | referred
    · cases added : partsIn first.globals trees name with
      | nil =>
          rw [added, List.nil_append] at declared
          exact .inl declared
      | cons part more =>
          have listed : part ∈ partsIn first.globals trees name := by
            rw [added]
            exact List.mem_cons_self
          have known := (type_known built name).mp (echoes.known name part listed)
          rw [declared_iff_parts, parts_in_append, ← (build_eq built).2.2.1] at known
          exact known
    · exact .inr referred
  · intro given
    rcases given with declared | referred
    · refine .inl fun none => declared ?_
      rw [List.append_eq_nil_iff, List.append_eq_nil_iff] at none
      rw [none.1, none.2.2]
      rfl
    · exact .inr referred

theorem spaces_eq (name : String) :
    second.known.spaces.contains name = first.known.spaces.contains name := by
  have sameTypes (type : String) : type ∈ second.known.types ↔ type ∈ first.known.types := by
    rw [← List.contains_iff_mem, ← List.contains_iff_mem, types_eq built again echoes]
  rw [Bool.eq_iff_iff, List.contains_iff_mem, List.contains_iff_mem, mem_known_spaces again,
    mem_known_spaces built]
  simp only [sameTypes]
  constructor
  · intro given
    rcases given with ⟨source, listed, site, inside, isType, around⟩ | ofType
    · rw [List.mem_append, List.mem_append] at listed
      rcases listed with (old | added) | marker
      · exact .inl ⟨source, List.mem_append_left _ old, site, inside, isType, around⟩
      · refine .inr ⟨_, ?_, echoes.placed source added site inside isType ▸ around⟩
        have part : TypeDeclaration.ofSite source first.globals site ∈
            partsIn first.globals trees
              (TypeDeclaration.ofSite source first.globals site).metadataName :=
          mem_parts_in.mpr ⟨rfl, source, added, site, inside, isType, rfl⟩
        have known := (type_known built _).mp (echoes.known _ _ part)
        rw [mem_known_types built, (build_eq built).2.2.1, ← declared_iff_parts]
        exact (build_eq built).2.2.1 ▸ known
      · exact .inl ⟨source, List.mem_append_right _ marker, site, inside, isType, around⟩
    · exact .inr ofType
  · intro given
    rcases given with ⟨source, listed, site, inside, isType, around⟩ | ofType
    · refine .inl ⟨source, ?_, site, inside, isType, around⟩
      rw [List.mem_append] at listed
      rw [List.mem_append, List.mem_append]
      exact listed.imp_left .inl
    · exact .inr ofType

theorem resolve_eq : second.known.resolve? = first.known.resolve? :=
  KnownNames.resolve_same (types_eq built again echoes) (spaces_eq built again echoes)

/-- A name stands for the same type: the first part that an old source gives it is still its first
part, and where there is none a tree says the same. -/
theorem same_head (name : String) :
    Option.Rel TypeSymbol.SameHead (first.type? name) (second.type? name) := by
  have parts := parts_eq built again echoes name
  have types : second.known.types.contains = first.known.types.contains :=
    funext (types_eq built again echoes)
  have alike {part : TypeDeclaration} {more others : List TypeDeclaration}
      (firstParts : partsIn first.globals (sources ++ [Marker.source]) name = part :: more)
      (secondParts : partsIn second.globals (sources ++ trees ++ [Marker.source]) name =
        part :: others) :
      Option.Rel TypeSymbol.SameHead (first.type? name) (second.type? name) := by
    obtain ⟨symbol, found, begins⟩ := symbol_begins built firstParts
    obtain ⟨other, foundOther, otherBegins⟩ := symbol_begins again secondParts
    rw [found, foundOther]
    exact .some (begins.same_head types otherBegins)
  cases old : partsIn first.globals sources name with
  | cons part more =>
      rw [old] at parts
      have firstParts : partsIn first.globals (sources ++ [Marker.source]) name =
          part :: (more ++ partsIn first.globals [Marker.source] name) := by
        rw [parts_in_append, old, List.cons_append]
      exact alike firstParts parts
  | nil =>
      cases added : partsIn first.globals trees name with
      | nil =>
          rw [old, added, List.nil_append, List.nil_append] at parts
          have firstParts : partsIn first.globals (sources ++ [Marker.source]) name =
              partsIn first.globals [Marker.source] name := by
            rw [parts_in_append, old, List.nil_append]
          cases own : partsIn first.globals [Marker.source] name with
          | cons part more => exact alike (firstParts.trans own) (parts.trans own)
          | nil =>
              rw [type_eq built, type_eq again]
              unfold symbolFrom?
              rw [firstParts, parts, own]
              cases references.get? name with
              | none => exact .none
              | some kind => exact .some ⟨rfl, rfl, rfl, rfl, rfl, rfl⟩
      | cons part more =>
          have listed : part ∈ partsIn first.globals trees name := by
            rw [added]
            exact List.mem_cons_self
          obtain ⟨type, found⟩ := echoes.known name part listed
          have repeats := echoes.repeats name part listed old type found
          rw [old, added, List.nil_append, List.cons_append] at parts
          obtain ⟨other, foundOther, begins⟩ := symbol_begins again parts
          rw [found, foundOther]
          refine .some ⟨?_, begins.name.trans repeats.name, begins.space.trans repeats.space,
            begins.kind.trans repeats.kind, begins.typeParameters.trans repeats.typeParameters, ?_⟩
          · rw [type_name found, type_name foundOther]
          · rw [begins.containing, repeats.unnested, repeats.outermost]
            rfl

/-- A type has the interfaces that it had, and those that the base lists of the trees name. -/
theorem mem_interfaces_again {name interface : String} {symbol other : TypeSymbol}
    (found : first.type? name = some symbol) (foundAgain : second.type? name = some other) :
    interface ∈ other.interfaces ↔ interface ∈ symbol.interfaces ∨
      (first.type? interface).map (·.kind) = some "interface" ∧
        ∃ part ∈ partsIn first.globals trees name, ∃ base ∈ part.bases,
          first.known.resolve? .type base part.scope = some interface := by
  have kinds := TypeSymbol.kinds_of_heads (same_head built again echoes interface)
  rw [mem_interfaces built found, mem_interfaces again foundAgain, parts_eq built again echoes,
    parts_in_append, resolve_eq built again echoes, kinds]
  simp only [List.mem_append]
  constructor
  · intro given
    rcases given with ⟨isInterface, part, listed, bound⟩
    rcases listed with old | added | marker
    · exact .inl ⟨isInterface, part, .inl old, bound⟩
    · exact .inr ⟨isInterface, part, added, bound⟩
    · exact .inl ⟨isInterface, part, .inr marker, bound⟩
  · intro given
    rcases given with ⟨isInterface, part, listed, bound⟩ | ⟨isInterface, part, listed, bound⟩
    · exact ⟨isInterface, part, listed.imp_right .inr, bound⟩
    · exact ⟨isInterface, part, .inr (.inl listed), bound⟩

end Program.Echoes

namespace Program

def again (program : Program) (symbol : TypeSymbol) : TypeSymbol :=
  (program.type? symbol.metadataName).getD symbol

theorem again_name (program : Program) (symbol : TypeSymbol) :
    (program.again symbol).metadataName = symbol.metadataName := by
  unfold again
  cases found : program.type? symbol.metadataName with
  | none => rfl
  | some other => exact type_name found

namespace Echoes

variable {sources trees : List Source} {references : References} {first second : Program}
  (built : build (sources ++ [Marker.source]) references = .ok first)
  (again : build (sources ++ trees ++ [Marker.source]) references = .ok second)
  (echoes : first.Echoes sources trees)
include built again echoes

theorem type_again (name : String) : second.type? name = (first.type? name).map second.again := by
  have heads := same_head built again echoes name
  cases found : first.type? name with
  | none =>
      rw [found] at heads
      generalize second.type? name = other at heads ⊢
      cases heads
      rfl
  | some symbol =>
      rw [found] at heads
      rw [Option.map_some, Program.again, type_name found]
      generalize second.type? name = other at heads ⊢
      cases heads
      rfl

theorem resolve_name_eq : second.resolveName? = first.resolveName? := by
  funext use name scope
  unfold resolveName?
  rw [resolve_eq built again echoes]

theorem agree : Agree second.again first second sources := by
  refine ⟨second.again_name, globals_eq built again echoes, ?attributes, ?constants, ?declared,
    ?containing⟩
  case attributes =>
    intro source _ node site
    unfold attributeType?
    rw [resolve_name_eq built again echoes]
    congr 1
    funext type
    rw [type_again built again echoes, Option.isSome_map]
  case constants =>
    intro source _ node site
    unfold constant? constantOwners
    rw [resolve_name_eq built again echoes, constants_eq built again echoes]
  case declared => exact constant_source built
  case containing =>
    intro source _ site
    cases (first.scope source site).enclosing.head? with
    | none => rfl
    | some name => exact type_again built again echoes name

end Echoes

end Program

theorem marker_declaration : ∃ site,
    (Marker.source.sites.filter fun site => site.node.isTypeDeclaration) = [site] ∧
      (TypeDeclaration.ofSite Marker.source [] site).metadataName = Marker.metadataName ∧
      (Surroundings.ofSite Marker.source site).space = Marker.space ∧
      (Surroundings.ofSite Marker.source site).types = [] := by
  have one : (Marker.source.sites.filter fun site => site.node.isTypeDeclaration).length = 1 := by
    decide +kernel
  have facts : ((Marker.source.sites.filter fun site => site.node.isTypeDeclaration).all fun site =>
      decide ((TypeDeclaration.ofSite Marker.source [] site).metadataName = Marker.metadataName ∧
        (Surroundings.ofSite Marker.source site).space = Marker.space ∧
        (Surroundings.ofSite Marker.source site).types = [])) = true := by
    decide +kernel
  obtain ⟨site, same⟩ := List.length_eq_one_iff.mp one
  rw [same, List.all_cons, List.all_nil, Bool.and_true, decide_eq_true_eq] at facts
  exact ⟨site, same, facts⟩

section Emitted

variable {tree : Source} {globals : List Using}

theorem declaration_unnested {site : Site} (unnested : (Surroundings.ofSite tree site).types = []) :
    (TypeDeclaration.ofSite tree globals site).containing? = none := by
  have outside : (tree.scope globals site).enclosing = [] := by
    apply (Surroundings.enclosing_nil _ _).mpr
    exact unnested
  unfold TypeDeclaration.ofSite
  dsimp only
  rw [outside]
  rfl

theorem declaration_name_unnested {site : Site}
    (unnested : (Surroundings.ofSite tree site).types = []) :
    (TypeDeclaration.ofSite tree globals site).metadataName =
      Names.qualify (Surroundings.ofSite tree site).space (tree.typeSegment site.node) := by
  have containing : (TypeDeclaration.ofSite tree globals site).containing? = none :=
    declaration_unnested unnested
  have space : (TypeDeclaration.ofSite tree globals site).space =
      (Surroundings.ofSite tree site).space := Source.declaration_space globals site
  unfold TypeDeclaration.ofSite at containing space ⊢
  dsimp only at containing space ⊢
  rw [containing, space]

theorem marker_tree_part (isMarker : IsMarkerTree tree) {name : String} {part : TypeDeclaration}
    (member : part ∈ partsIn globals [tree] name) :
    name = Marker.metadataName ∧ part.containing? = none ∧
      ∃ own, partsIn globals [Marker.source] name = [own] ∧
        ({ part with location := own.location } : TypeDeclaration) = own := by
  obtain ⟨path, bytes, root⟩ := tree
  obtain ⟨rfl, rfl⟩ := isMarker
  obtain ⟨site, alone, siteName, -, unnested⟩ := marker_declaration
  obtain ⟨partName, source, listed, found, inside, isType, rfl⟩ := mem_parts_in.mp member
  rw [List.mem_singleton.mp listed] at *
  have member : found ∈ Marker.source.sites.filter fun site => site.node.isTypeDeclaration :=
    List.mem_filter.mpr ⟨inside, isType⟩
  rw [alone, List.mem_singleton] at member
  subst member
  have ownName : (TypeDeclaration.ofSite Marker.source globals found).metadataName = name := partName
  refine ⟨?_, declaration_unnested unnested, TypeDeclaration.ofSite Marker.source globals found, ?_,
    rfl⟩
  · rw [← siteName, ← ownName]
    exact TypeDeclaration.name_of_site _ _ _ _
  · unfold partsIn TypeDeclaration.all
    rw [List.flatMap_singleton, alone, List.map_singleton, List.filter_cons_of_pos]
    · rfl
    · exact decide_eq_true ownName

theorem fragment_tree_part {type : TypeSymbol} (fragment : FragmentTree type tree) {name : String}
    {part : TypeDeclaration} (member : part ∈ partsIn globals [tree] name) :
    name = type.metadataName ∧ part.bases = [Render.baseName] ∧ part.name = type.name ∧
      part.space = type.space ∧ part.kind = type.kind ∧
      part.typeParameters = type.typeParameters ∧ part.containing? = none := by
  obtain ⟨site, alone, again⟩ := fragment.declaration
  obtain ⟨partName, source, listed, found, inside, isType, rfl⟩ := mem_parts_in.mp member
  rw [List.mem_singleton.mp listed] at *
  have member : found ∈ tree.sites.filter fun site => site.node.isTypeDeclaration :=
    List.mem_filter.mpr ⟨inside, isType⟩
  rw [alone, List.mem_singleton] at member
  subst member
  refine ⟨?_, again.bases, again.name, ?_, again.kind, again.typeParameters,
    declaration_unnested again.unnested⟩
  · rw [← partName, ← again.metadataName]
    exact TypeDeclaration.name_of_site _ _ _ _
  · rw [← again.space]
    exact Surroundings.space_eq _ _

def Emitted (types : List TypeSymbol) (trees : List Source) : Prop :=
  ∀ tree ∈ trees, IsMarkerTree tree ∨ ∃ type ∈ types, FragmentTree type tree

variable {types : List TypeSymbol} {trees : List Source}

theorem emitted_part (emitted : Emitted types trees) {name : String} {part : TypeDeclaration}
    (member : part ∈ partsIn globals trees name) :
    ∃ tree ∈ trees, part ∈ partsIn globals [tree] name ∧
      (IsMarkerTree tree ∨ ∃ type ∈ types, FragmentTree type tree) := by
  obtain ⟨tree, listed, own⟩ := List.mem_flatMap.mp member
  refine ⟨tree, listed, ?_, emitted tree listed⟩
  unfold partsIn
  rw [List.flatMap_singleton]
  exact own

/-- The trees of fragments of top-level types of a program say nothing new. -/
theorem echoes_of_emitted {sources : List Source} {references : References} {program : Program}
    (built : Program.build (sources ++ [Marker.source]) references = .ok program)
    (own : ∀ type ∈ types, program.type? type.metadataName = some type ∧ type.containing? = none)
    (emitted : Emitted types trees) : program.Echoes sources trees := by
  refine ⟨?locals, ?noFields, ?known, ?placed, ?repeats⟩
  case locals =>
    apply List.flatMap_eq_nil_iff.mpr
    intro tree listed
    apply List.filter_eq_nil_iff.mpr
    intro directive member
    obtain ⟨path, bytes, root⟩ := tree
    rcases emitted _ listed with ⟨rfl, rfl⟩ | ⟨type, -, fragment⟩
    · have locals : (Marker.source.usingsIn Marker.source.root).all (fun directive =>
          !directive.isGlobal) = true := by decide +kernel
      have isLocal := List.all_eq_true.mp locals directive member
      rw [Bool.not_eq_true'] at isLocal
      exact Bool.not_eq_true _ ▸ isLocal
    · rw [fragment.locals directive member]
      exact Bool.false_ne_true
  case noFields =>
    intro tree listed site inside
    obtain ⟨path, bytes, root⟩ := tree
    rcases emitted _ listed with ⟨rfl, rfl⟩ | ⟨type, -, fragment⟩
    · exact marker_has_no_fields site inside
    · exact fragment.noFields site inside
  case known =>
    intro name part member
    obtain ⟨tree, -, inTree, isMarker | ⟨type, listed, fragment⟩⟩ := emitted_part emitted member
    · rw [(marker_tree_part isMarker inTree).1]
      apply (Program.type_known built _).mpr
      exact .inl (Program.marker_declared (List.mem_append_right _ (List.mem_singleton_self _)))
    · rw [(fragment_tree_part fragment inTree).1]
      exact ⟨type, (own type listed).1⟩
  case placed =>
    intro tree listed site inside isType
    have member : site ∈ tree.sites.filter fun site => site.node.isTypeDeclaration :=
      List.mem_filter.mpr ⟨inside, isType⟩
    rw [TypeDeclaration.name_of_site tree program.globals []]
    obtain ⟨path, bytes, root⟩ := tree
    rcases emitted _ listed with ⟨rfl, rfl⟩ | ⟨type, -, fragment⟩
    · obtain ⟨found, alone, name, space, -⟩ := marker_declaration
      obtain rfl := List.mem_singleton.mp (alone ▸ member)
      have names : Marker.space = Names.spaceOf Marker.metadataName := by decide
      rw [← name, ← space] at names
      exact names
    · obtain ⟨found, alone, again⟩ := fragment.declaration
      rw [alone, List.mem_singleton] at member
      subst member
      rw [declaration_name_unnested again.unnested, again.space]
      exact (Names.space_of_qualify again.plusless again.simple.2.1 again.simple.2.2).symm
  case repeats =>
    intro name part member undeclared type found
    obtain ⟨tree, -, inTree, isMarker | ⟨other, listed, fragment⟩⟩ := emitted_part emitted member
    · obtain ⟨-, unnested, marked, alone, same⟩ := marker_tree_part isMarker inTree
      have parts : partsIn program.globals (sources ++ [Marker.source]) name = [marked] := by
        rw [parts_in_append, undeclared, List.nil_append, alone]
      obtain ⟨symbol, ownFound, begins⟩ := Program.symbol_begins built parts
      obtain rfl := Option.some.inj (found.symm.trans ownFound)
      have containing : marked.containing? = none := same ▸ unnested
      refine ⟨?_, ?_, ?_, ?_, unnested, ?_⟩
      · rw [begins.name, ← same]
      · rw [begins.space, ← same]
      · rw [begins.kind, ← same]
      · rw [begins.typeParameters, ← same]
      · rw [begins.containing, containing]
        rfl
    · obtain ⟨sameName, -, ownName, space, kind, typeParameters, unnested⟩ :=
        fragment_tree_part fragment inTree
      rw [sameName, (own other listed).1] at found
      obtain rfl := Option.some.inj found
      exact ⟨ownName, space, kind, typeParameters, unnested, (own other listed).2⟩

end Emitted

end PropertyGen
