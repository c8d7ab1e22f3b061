import PropertyGen.Proofs.Symbols

/-!
Types inside of types. The types that a scope names are the declarations around its node, under the
names that they are declared with, and the symbols of these declarations lead from each type to the
one around it, which stands before it in the table.
-/

namespace PropertyGen

def Source.declaredType (source : Source) (site : Site) : String :=
  (TypeDeclaration.ofSite source [] site).metadataName

/-- Type names are written without the marks of metadata names. -/
def Source.PlainTypes (source : Source) : Prop :=
  ∀ site ∈ source.sites, site.node.isTypeDeclaration = true →
    '.' ∉ (source.declaredName site.node).toList ∧ '+' ∉ (source.declaredName site.node).toList

instance (source : Source) : Decidable source.PlainTypes :=
  inferInstanceAs (Decidable (∀ site ∈ source.sites, _ → _))

/-- One type is declared right inside of another one: its symbol refers to the one of that type,
which is in the table before it. -/
structure Program.Nests (program : Program) (inner outer : TypeSymbol) : Prop where
  nested : inner.isTopLevel = false
  containing : inner.containing?.bind program.type? = some outer
  earlier : ∃ before after, program.types = before ++ inner :: after ∧ outer ∈ before

namespace Source

variable {source : Source}

theorem enclosing_eq (ordered : source.Ordered) {site : Site} (inside : site ∈ source.sites)
    (within : source.Within site.node site.node.start) (globals : List Using) :
    (source.scope globals site).enclosing = site.typesAround.map source.declaredType := by
  generalize around : site.typesAround = outers
  induction outers generalizing site with
  | nil => exact enclosing_of_no_type around globals
  | cons outer more induction =>
      obtain ⟨outerInside, -, rest, outerWithin⟩ :=
        outer_of_types_around ordered inside within around
      rw [(enclosing_cons ordered inside within around globals).1,
        induction outerInside outerWithin rest, List.map_cons]
      simp only [declaredType, TypeDeclaration.name_of_site source globals []]

theorem containing_of_around (ordered : source.Ordered) {site : Site}
    (inside : site ∈ source.sites) (within : source.Within site.node site.node.start)
    {outer : Site} {more : List Site} (around : site.typesAround = outer :: more) :
    source.declaredType site =
      Names.nest (source.declaredType outer) (source.typeSegment site.node) := by
  have enclosing := enclosing_eq ordered inside within []
  have name := (declaration_names ordered inside []).2
  rw [enclosing, around] at name
  exact name

end Source

theorem containing_of_name {source : Source} (plain : source.PlainTypes) {site : Site}
    (inside : site ∈ source.sites) (isType : site.node.isTypeDeclaration = true)
    (globals : List Using) {outer segment : String} (dotless : '.' ∉ segment.toList)
    (plusless : '+' ∉ segment.toList)
    (name : (TypeDeclaration.ofSite source globals site).metadataName =
      Names.nest outer segment) :
    (TypeDeclaration.ofSite source globals site).containing? = some outer := by
  have own : '+' ∉ (source.typeSegment site.node).toList :=
    Source.type_segment_clean (by decide) (by decide) (plain site inside isType).2
  unfold TypeDeclaration.ofSite at name ⊢
  dsimp only at name ⊢
  cases containing : (source.scope globals site).enclosing.head?.filter (· ≠ "") with
  | none =>
      rw [containing] at name
      exact absurd name.symm (Names.nest_ne_qualify _ _ dotless own)
  | some other =>
      rw [containing] at name
      rw [((Names.nest_inj own plusless).mp name).1]

namespace Program

variable {sources : List Source} {references : References} {program : Program}

/-- The declared type around a declared type has its symbol before that type. -/
theorem earlier_in_table (built : build sources references = .ok program) {inner outer : String}
    (innerDeclared : inner ∈ (declarationsOf sources).map (·.metadataName))
    (outerDeclared : outer ∈ (declarationsOf sources).map (·.metadataName))
    (less : Names.nesting outer < Names.nesting inner) {innerSymbol outerSymbol : TypeSymbol}
    (innerFound : program.type? inner = some innerSymbol)
    (outerFound : program.type? outer = some outerSymbol) :
    ∃ before after, program.types = before ++ innerSymbol :: after ∧ outerSymbol ∈ before := by
  obtain ⟨isInner, before, after, table, -⟩ := List.find?_eq_some_iff_append.mp innerFound
  have innerName := of_decide_eq_true isInner
  obtain ⟨earlier, later, split⟩ := List.append_of_mem (mem_distinct.mpr innerDeclared)
  obtain ⟨undeclared, names, absent⟩ : ∃ undeclared,
      program.types.map (·.metadataName) =
        undeclared ++ distinct ((declarationsOf sources).map (·.metadataName)) ∧
      inner ∉ undeclared := by
    rw [(build_eq built).2.2.2.2, type_table_names]
    refine ⟨_, rfl, fun member => ?_⟩
    have test := (List.mem_filter.mp member).2
    simp only [Bool.not_eq_true', ← Bool.not_eq_true, List.contains_iff_mem, mem_distinct] at test
    exact test innerDeclared
  have unique := distinct_nodup ((declarationsOf sources).map (·.metadataName))
  rw [split, List.nodup_append] at unique
  have notLater : inner ∉ later := (List.nodup_cons.mp unique.2.1).1
  have notEarlier : inner ∉ undeclared ++ earlier := by
    intro member
    rcases List.mem_append.mp member with other | own
    · exact absent other
    · exact unique.2.2 inner own inner List.mem_cons_self rfl
  -- both splits of the names are at the only place of the inner type
  rw [table, split, List.map_append, List.map_cons, innerName, ← List.append_assoc] at names
  obtain ⟨same, -⟩ := (List.append_cons_inj_of_notMem notEarlier notLater).mp names.symm
  have outerEarlier := declared_before (declarations_sorted sources) split outerDeclared less
  have listed : outer ∈ before.map (·.metadataName) := by
    rw [← same]
    exact List.mem_append_right _ outerEarlier
  obtain ⟨symbol, member, own⟩ := List.mem_map.mp listed
  refine ⟨before, after, table, ?_⟩
  unfold type? at outerFound
  rw [table, List.find?_append] at outerFound
  have present : (before.find? fun symbol => symbol.metadataName = outer).isSome = true :=
    List.find?_isSome.mpr ⟨symbol, member, decide_eq_true own⟩
  obtain ⟨found, first⟩ := Option.isSome_iff_exists.mp present
  rw [first, Option.some_or] at outerFound
  rw [← Option.some.inj outerFound]
  exact List.mem_of_find?_eq_some first

theorem site_declared {source : Source} (listed : source ∈ sources) {site : Site}
    (inside : site ∈ source.sites) (isType : site.node.isTypeDeclaration = true) :
    source.declaredType site ∈ (declarationsOf sources).map (·.metadataName) := by
  have declaration := mem_declarations.mpr ⟨source, listed, site, inside, isType, rfl⟩
  have name := List.mem_map_of_mem (f := TypeDeclaration.metadataName) declaration
  rw [TypeDeclaration.name_of_site source (globalUsings sources) []] at name
  exact name

/-- If names are plain, a type that is declared inside of another one refers to its symbol. -/
theorem nests (built : build sources references = .ok program)
    (plain : ∀ source ∈ sources, source.PlainTypes) {source : Source} (listed : source ∈ sources)
    (ordered : source.Ordered) {site outer : Site} {more : List Site} (inside : site ∈ source.sites)
    (isType : site.node.isTypeDeclaration = true)
    (within : source.Within site.node site.node.start) (around : site.typesAround = outer :: more)
    {innerSymbol outerSymbol : TypeSymbol}
    (innerFound : program.type? (source.declaredType site) = some innerSymbol)
    (outerFound : program.type? (source.declaredType outer) = some outerSymbol) :
    program.Nests innerSymbol outerSymbol := by
  obtain ⟨outerInside, outerIsType, -, -⟩ :=
    Source.outer_of_types_around ordered inside within around
  have name := Source.containing_of_around ordered inside within around
  have outerDeclared := site_declared listed outerInside outerIsType
  have innerDeclared := site_declared listed inside isType
  -- Every part of the inner type is nested in the outer one, so its first part is.
  obtain ⟨part, rest, parts⟩ := List.exists_cons_of_ne_nil
    ((declared_iff_parts sources _).mp innerDeclared)
  rw [← (build_eq built).2.2.1] at parts
  obtain ⟨symbol, found, begins⟩ := symbol_begins built parts
  obtain rfl := Option.some.inj (innerFound.symm.trans found)
  have member : part ∈ partsIn program.globals sources (source.declaredType site) := by
    rw [parts]
    exact List.mem_cons_self
  obtain ⟨own, other, otherListed, place, placeInside, declares, rfl⟩ := mem_parts_in.mp member
  have clean := plain source listed site inside isType
  have containing := containing_of_name (plain other otherListed) placeInside declares
    program.globals (Source.type_segment_clean (by decide) (by decide) clean.1)
    (Source.type_segment_clean (by decide) (by decide) clean.2) (own.trans name)
  have known : program.known.types.contains (source.declaredType outer) = true := by
    rw [List.contains_iff_mem, mem_known_types built, (build_eq built).2.2.1, ← declared_iff_parts]
    exact .inl outerDeclared
  have refers : innerSymbol.containing? = some (source.declaredType outer) := by
    rw [begins.containing, containing, Option.filter_some, if_pos known]
  have less := Names.nesting_nest (source.declaredType outer) (source.typeSegment site.node)
  rw [← name] at less
  refine ⟨?nested, ?containing, ?earlier⟩
  case nested =>
    unfold TypeSymbol.isTopLevel
    rw [refers]
    rfl
  case containing => rw [refers, Option.bind_some, outerFound]
  case earlier => exact earlier_in_table built innerDeclared outerDeclared less innerFound outerFound

theorem symbols_outwards (built : build sources references = .ok program) {source : Source}
    (listed : source ∈ sources) (ordered : source.Ordered) (cover : source.FileSpacesCover)
    {site : Site} (inside : site ∈ source.sites) (isType : site.node.isTypeDeclaration = true) :
    ∃ symbols, List.Forall₂
        (fun outer symbol => program.type? (source.declaredType outer) = some symbol)
        (site :: site.typesAround) symbols ∧
      ((∀ other ∈ sources, other.PlainTypes) → symbols.IsChain program.Nests) := by
  generalize around : site.typesAround = outers
  induction outers generalizing site with
  | nil =>
      obtain ⟨symbol, found⟩ := (type_known built _).mpr (.inl (site_declared listed inside isType))
      exact ⟨[symbol], .cons found .nil, fun _ => .singleton symbol⟩
  | cons outer more induction =>
      obtain ⟨symbol, found⟩ := (type_known built _).mpr (.inl (site_declared listed inside isType))
      have within := Source.within_of_cover ordered cover inside (around ▸ List.cons_ne_nil _ _)
      obtain ⟨outerInside, outerIsType, rest, -⟩ :=
        Source.outer_of_types_around ordered inside within around
      obtain ⟨symbols, each, chain⟩ := induction outerInside outerIsType rest
      refine ⟨symbol :: symbols, .cons found each, fun plain => ?_⟩
      cases each with
      | cons outerFound others =>
          have first := nests built plain listed ordered inside isType within around found outerFound
          exact .cons_cons first (chain plain)

end Program

/-- The types that enclose a node are the declarations around it. These, and the node if it declares
a type itself, have symbols in the table, and if type names have no marks in them, each of the
symbols refers to the next one, which is complete before it is added. -/
theorem scope_names_declarations {sources : List Source} {references : References}
    {program : Program} (built : Program.build sources references = .ok program) {source : Source}
    (listed : source ∈ sources) (ordered : source.Ordered) (cover : source.FileSpacesCover)
    {site : Site} (inside : site ∈ source.sites) :
    (program.scope source site).enclosing = site.typesAround.map source.declaredType ∧
      ∃ symbols, List.Forall₂
          (fun outer symbol => program.type? (source.declaredType outer) = some symbol)
          site.typesFrom symbols ∧
        ((∀ other ∈ sources, other.PlainTypes) → symbols.IsChain program.Nests) := by
  constructor
  · cases around : site.typesAround with
    | nil => exact Source.enclosing_of_no_type around program.globals
    | cons outer more =>
        have within := Source.within_of_cover ordered cover inside (around ▸ List.cons_ne_nil _ _)
        rw [← around]
        exact Source.enclosing_eq ordered inside within program.globals
  · rw [Site.types_from_eq]
    by_cases isType : site.node.isTypeDeclaration = true
    · rw [if_pos isType]
      exact Program.symbols_outwards built listed ordered cover inside isType
    · rw [if_neg isType]
      cases around : site.typesAround with
      | nil => exact ⟨[], .nil, fun _ => .nil⟩
      | cons outer more =>
          have within := Source.within_of_cover ordered cover inside (around ▸ List.cons_ne_nil _ _)
          obtain ⟨outerInside, outerIsType, rest, -⟩ :=
            Source.outer_of_types_around ordered inside within around
          rw [← rest]
          exact Program.symbols_outwards built listed ordered cover outerInside outerIsType

section Samples

open Marker (branch token fieldLeaf fieldBranch)

def classWith (start length stop : Nat) (members : List Node) : Node :=
  branch "class_declaration" start stop [
    token "class" start (start + 5),
    fieldLeaf "identifier" "name" (start + 6) (start + 6 + length),
    fieldBranch "declaration_list" "body" (start + 7 + length) stop
      (token "\x7b" (start + 7 + length) (start + 8 + length) ::
        members ++ [token "\x7d" (stop - 1) stop])]

def nestedInGeneric : Source :=
  { path := "F0.cs"
    bytes := Text.Utf8.encode "namespace N; class A<T> \x7b class B \x7b \x7d \x7d"
    root :=
      branch "compilation_unit" 0 39 [
        branch "file_scoped_namespace_declaration" 0 12 [
          token "namespace" 0 9,
          fieldLeaf "identifier" "name" 10 11,
          token ";" 11 12],
        branch "class_declaration" 13 39 [
          token "class" 13 18,
          fieldLeaf "identifier" "name" 19 20,
          fieldBranch "type_parameter_list" "type_parameters" 20 23 [
            token "<" 20 21,
            branch "type_parameter" 21 22 [
              fieldLeaf "identifier" "name" 21 22],
            token ">" 22 23],
          fieldBranch "declaration_list" "body" 24 39 [
            token "\x7b" 24 25,
            classWith 26 1 37 [],
            token "\x7d" 38 39]]] }

/-- The inner class names both classes, and its symbol refers to the generic one. -/
theorem scope_names_declarations_generic :
    ∃ program, Program.build [nestedInGeneric] [] = .ok program ∧
      ∃ site ∈ nestedInGeneric.sites,
        site.typesFrom.map nestedInGeneric.declaredType = ["N.A`1+B", "N.A`1"] ∧
        (program.scope nestedInGeneric site).enclosing = ["N.A`1"] ∧
        ∃ inner outer, program.type? "N.A`1+B" = some inner ∧
          program.type? "N.A`1" = some outer ∧ program.Nests inner outer := by
  obtain ⟨program, built⟩ := (Program.build_returns [nestedInGeneric] []).mpr fun source listed => by
    rw [List.mem_singleton.mp listed]
    decide +kernel
  obtain ⟨site, inside, outwards, around⟩ : ∃ site ∈ nestedInGeneric.sites,
      site.typesFrom.map nestedInGeneric.declaredType = ["N.A`1+B", "N.A`1"] ∧
      site.typesAround.map nestedInGeneric.declaredType = ["N.A`1"] := by decide +kernel
  obtain ⟨enclosing, symbols, each, chain⟩ := scope_names_declarations built
    (List.mem_singleton_self _) (by decide +kernel) (by decide +kernel) inside
  refine ⟨program, built, site, inside, outwards, enclosing.trans around, ?_⟩
  have nests := chain fun source listed => by
    rw [List.mem_singleton.mp listed]
    decide +kernel
  rw [← List.forall₂_map_left_iff (R := fun name symbol => program.type? name = some symbol),
    outwards] at each
  cases each with
  | cons innerFound rest =>
      cases rest with
      | cons outerFound none =>
          exact ⟨_, _, innerFound, outerFound, (List.isChain_cons_cons.mp nests).1⟩

/-- A type and a namespace whose names have marks in them, as if they were names of nested types. -/
def marked : List Source :=
  [{ path := "F0.cs"
     bytes := Text.Utf8.encode "class A+B \x7b \x7d"
     root := branch "compilation_unit" 0 13 [classWith 0 3 13 []] },
   { path := "F1.cs"
     bytes := Text.Utf8.encode "namespace A+B \x7b class D \x7b \x7d \x7d"
     root :=
      branch "compilation_unit" 0 29 [
        branch "namespace_declaration" 0 29 [
          token "namespace" 0 9,
          fieldLeaf "identifier" "name" 10 13,
          fieldBranch "declaration_list" "body" 14 29 [
            token "\x7b" 14 15,
            classWith 16 1 27 [],
            token "\x7d" 28 29]]] }]

def twoNested : Source :=
  { path := "F2.cs"
    bytes := Text.Utf8.encode
      "class A \x7b class B \x7b \x7d class B.D \x7b \x7d \x7d"
    root :=
      branch "compilation_unit" 0 37 [
        classWith 0 1 37 [classWith 10 1 21 [], classWith 22 3 35 []]] }

/-- The symbol of a nested type is that of a type of the same name that stands outside, if names
have marks in them. -/
theorem scope_misnames_declarations :
    (∀ source ∈ marked ++ [twoNested], source.Ordered ∧ source.FileSpacesCover) ∧
      (∃ program, Program.build (marked ++ [twoNested]) [] = .ok program ∧
        ∀ name ∈ ["A+B", "A+B.D"],
          (∃ site ∈ twoNested.sites, site.node.isTypeDeclaration = true ∧
            twoNested.declaredType site = name ∧
            site.typesAround.map twoNested.declaredType = ["A"]) ∧
          ∃ symbol, program.type? name = some symbol ∧ symbol.isTopLevel = true) ∧
      ¬ ∀ (sources : List Source) (references : References) (program : Program),
        Program.build sources references = .ok program →
        ∀ source ∈ sources, source.Ordered → source.FileSpacesCover → ∀ site ∈ source.sites,
          site.node.isTypeDeclaration = true → site.typesAround ≠ [] →
          ∀ symbol, program.type? (source.declaredType site) = some symbol →
            symbol.isTopLevel = false := by
  have formed : ∀ source ∈ marked ++ [twoNested], source.Ordered ∧ source.FileSpacesCover := by
    decide +kernel
  obtain ⟨program, built⟩ := (Program.build_returns (marked ++ [twoNested]) []).mpr
    (by decide +kernel)
  have each : ∀ name ∈ ["A+B", "A+B.D"],
      (∃ site ∈ twoNested.sites, site.node.isTypeDeclaration = true ∧
        twoNested.declaredType site = name ∧
        site.typesAround.map twoNested.declaredType = ["A"]) ∧
      ∃ symbol, program.type? name = some symbol ∧ symbol.isTopLevel = true := by
    unfold Program.type?
    rw [(Program.build_eq built).2.2.2.2]
    decide +kernel
  refine ⟨formed, ⟨program, built, each⟩, fun always => ?_⟩
  obtain ⟨⟨site, inside, isType, name, around⟩, symbol, found, topLevel⟩ :=
    each "A+B" List.mem_cons_self
  have listed : twoNested ∈ marked ++ [twoNested] := List.mem_append_right _ List.mem_cons_self
  obtain ⟨ordered, cover⟩ := formed twoNested listed
  have nested : site.typesAround ≠ [] := by
    intro none
    rw [none] at around
    cases around
  have inner := always _ _ program built twoNested listed ordered cover site inside isType nested
    symbol (name ▸ found)
  rw [topLevel] at inner
  cases inner

end Samples

end PropertyGen
