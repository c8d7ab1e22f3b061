import PropertyGen.Proofs.Declarations

/-!
The symbol table of a program in closed form. The symbol of a declared type is made of the parts
that the sources give it, in their order; the type around it counts if it is known at all.
-/

namespace PropertyGen

def partsIn (globals : List Using) (sources : List Source) (name : String) : List TypeDeclaration :=
  sources.flatMap fun source =>
    (TypeDeclaration.all source globals).filter fun declaration => declaration.metadataName = name

theorem parts_in_append (globals : List Using) (first second : List Source) (name : String) :
    partsIn globals (first ++ second) name =
      partsIn globals first name ++ partsIn globals second name :=
  List.flatMap_append

theorem mem_parts_in {globals : List Using} {sources : List Source} {name : String}
    {declaration : TypeDeclaration} :
    declaration ∈ partsIn globals sources name ↔
      declaration.metadataName = name ∧ ∃ source ∈ sources, ∃ site ∈ source.sites,
        site.node.isTypeDeclaration = true ∧
          declaration = TypeDeclaration.ofSite source globals site := by
  unfold partsIn TypeDeclaration.all
  simp only [List.mem_flatMap, List.mem_filter, List.mem_map, decide_eq_true_eq]
  constructor
  · intro given
    rcases given with ⟨source, listed, ⟨site, ⟨inside, isType⟩, same⟩, own⟩
    exact ⟨own, source, listed, site, inside, isType, same.symm⟩
  · intro given
    rcases given with ⟨own, source, listed, site, inside, isType, same⟩
    exact ⟨source, listed, ⟨site, ⟨inside, isType⟩, same.symm⟩, own⟩

section Nesting

theorem flat_map_range_place {α : Type} (block : List α) (place count : Nat) :
    ((List.range count).flatMap fun index => if index = place then block else []) =
      if place < count then block else [] := by
  induction count with
  | zero => rfl
  | succ count induction =>
      rw [List.range_succ, List.flatMap_append, induction, List.flatMap_singleton]
      by_cases last : count = place
      · rw [if_pos last, if_neg (by omega), if_pos (by omega), List.nil_append]
      · rw [if_neg last, List.append_nil]
        by_cases before : place < count
        · rw [if_pos before, if_pos (by omega)]
        · rw [if_neg before, if_neg (by omega)]

/-- Sorting by nesting keeps the parts of one type in their order. -/
theorem by_nesting_filter (declarations : List TypeDeclaration) (name : String) :
    ((byNesting declarations).filter fun declaration => declaration.metadataName = name) =
      declarations.filter fun declaration => declaration.metadataName = name := by
  have level (depth : Nat) :
      ((declarations.filter fun declaration =>
          Names.nesting declaration.metadataName = depth).filter
        fun declaration => declaration.metadataName = name) =
      if depth = Names.nesting name then
        declarations.filter fun declaration => declaration.metadataName = name
      else [] := by
    rw [List.filter_filter]
    by_cases own : depth = Names.nesting name
    · rw [if_pos own, own]
      apply List.filter_congr
      intro declaration _
      by_cases same : declaration.metadataName = name
      · simp [same]
      · simp [same]
    · rw [if_neg own]
      apply List.filter_eq_nil_iff.mpr
      intro declaration _ both
      rw [Bool.and_eq_true, decide_eq_true_eq, decide_eq_true_eq] at both
      exact own (both.2.symm.trans (congrArg Names.nesting both.1))
  have sorted (declaration : TypeDeclaration) (member : declaration ∈ declarations) :=
    mem_by_nesting.mpr member
  unfold byNesting at sorted ⊢
  dsimp only at sorted ⊢
  generalize (declarations.map fun declaration =>
    Names.nesting declaration.metadataName).foldl max 0 + 1 = count at sorted ⊢
  rw [List.filter_flatMap]
  simp only [level]
  rw [flat_map_range_place]
  by_cases enough : Names.nesting name < count
  · rw [if_pos enough]
  · rw [if_neg enough]
    apply Eq.symm
    apply List.filter_eq_nil_iff.mpr
    intro declaration member same
    obtain ⟨depth, inRange, own⟩ := List.mem_flatMap.mp (sorted declaration member)
    have depthEq := of_decide_eq_true (List.mem_filter.mp own).2
    have bound := List.mem_range.mp inRange
    rw [← depthEq, of_decide_eq_true same] at bound
    exact enough bound

theorem declarations_filter (sources : List Source) (name : String) :
    ((declarationsOf sources).filter fun declaration => declaration.metadataName = name) =
      partsIn (globalUsings sources) sources name := by
  unfold declarationsOf partsIn
  rw [by_nesting_filter, List.filter_flatMap]

theorem declared_iff_parts (sources : List Source) (name : String) :
    name ∈ (declarationsOf sources).map (·.metadataName) ↔
      partsIn (globalUsings sources) sources name ≠ [] := by
  rw [← declarations_filter, List.mem_map, ne_eq, List.filter_eq_nil_iff]
  simp

theorem containing_nesting (source : Source) (globals : List Using) (site : Site) {outer : String}
    (containing : (TypeDeclaration.ofSite source globals site).containing? = some outer) :
    Names.nesting outer <
      Names.nesting (TypeDeclaration.ofSite source globals site).metadataName := by
  unfold TypeDeclaration.ofSite at containing ⊢
  dsimp only at containing ⊢
  rw [containing]
  exact Names.nesting_nest outer _

end Nesting

section Table

variable {declarations : List TypeDeclaration} {references : References} {known : KnownNames}

/-- The symbol of a type with some parts, where all that is asked about the type around it is
whether it is known. -/
def symbolFrom (known : KnownNames) (interfaces : List String) (first : TypeDeclaration)
    (parts : List TypeDeclaration) : TypeSymbol :=
  { symbolOf [] interfaces first parts with
    containing? := first.containing?.filter known.types.contains }

theorem type_table_split (declarations : List TypeDeclaration) (references : References)
    (known : KnownNames) :
    ∃ added, typeTable declarations references known = externals declarations references ++ added ∧
      added.map (·.metadataName) = distinct (declarations.map (·.metadataName)) := by
  have isDeclared : ∀ name ∈ distinct (declarations.map (·.metadataName)),
      name ∈ declarations.map (·.metadataName) := fun name member => mem_distinct.mp member
  obtain ⟨added, whole⟩ := fold_declared_append declarations references known
    (distinct (declarations.map (·.metadataName))) (externals declarations references)
  have names : ((externals declarations references ++ added).map (·.metadataName)) = _ :=
    whole ▸ names_fold_declared known isDeclared (externals declarations references)
  rw [List.map_append] at names
  exact ⟨added, type_table_eq.trans whole, List.append_cancel_left names⟩

theorem external_of_undeclared {name : String}
    (undeclared : name ∉ declarations.map (·.metadataName)) :
    (typeTable declarations references known).find? (fun symbol => symbol.metadataName = name) =
      (references.get? name).map (TypeSymbol.external name) := by
  obtain ⟨added, whole, names⟩ := type_table_split declarations references known
  have later : added.find? (fun symbol => symbol.metadataName = name) = none := by
    apply List.find?_eq_none.mpr
    intro symbol member same
    apply undeclared
    rw [← mem_distinct, ← names, ← of_decide_eq_true same]
    exact List.mem_map_of_mem member
  rw [whole, List.find?_append, later, Option.or_none]
  unfold externals Table.get?
  have tests : ∀ entry ∈ references,
      decide ((!(distinct (declarations.map (·.metadataName))).contains entry.1) = true ∧
        ((fun symbol : TypeSymbol => decide (symbol.metadataName = name)) ∘
          fun entry : String × String => TypeSymbol.external entry.1 entry.2) entry = true) =
        decide (entry.1 = name) := by
    intro entry _
    apply decide_eq_decide.mpr
    show (_ ∧ decide (entry.1 = name) = true) ↔ _
    rw [decide_eq_true_eq]
    constructor
    · exact fun both => both.2
    · intro same
      refine ⟨?_, same⟩
      rw [same]
      simp [mem_distinct, undeclared]
  rw [List.find?_map, List.find?_filter, Option.map_map, List.find?_congr tests]
  cases found : references.find? fun entry => decide (entry.1 = name) with
  | none => rfl
  | some entry =>
      have own := List.find?_some found
      show some (TypeSymbol.external entry.1 entry.2) = some (TypeSymbol.external name entry.2)
      rw [of_decide_eq_true own]

end Table

def kindFrom? (references : References) (parts : List TypeDeclaration) (name : String) :
    Option String :=
  match parts with
  | first :: _ => some first.kind
  | [] => references.get? name

def interfacesFrom (known : KnownNames) (kind? : String → Option String)
    (parts : List TypeDeclaration) : List String :=
  distinct ((parts.flatMap fun part =>
    part.bases.filterMap fun base => known.resolve? .type base part.scope).filter
      fun base => kind? base = some "interface")

theorem mem_interfaces_from {known : KnownNames} {kind? : String → Option String}
    {parts : List TypeDeclaration} {name : String} :
    name ∈ interfacesFrom known kind? parts ↔
      kind? name = some "interface" ∧ ∃ part ∈ parts, ∃ base ∈ part.bases,
        known.resolve? .type base part.scope = some name := by
  unfold interfacesFrom
  rw [mem_distinct, List.mem_filter, decide_eq_true_eq, and_comm]
  simp only [List.mem_flatMap, List.mem_filterMap]

/-- What stands for a name: a type with parts, or else the type that a reference tells of. -/
def symbolFrom? (known : KnownNames) (references : References)
    (partsOf : String → List TypeDeclaration) (name : String) : Option TypeSymbol :=
  match partsOf name with
  | [] => (references.get? name).map (TypeSymbol.external name)
  | first :: more =>
      let kind? := fun name => kindFrom? references (partsOf name) name
      some (symbolFrom known (interfacesFrom known kind? (first :: more)) first (first :: more))

/-- A symbol says of a type what a part of it says. -/
structure TypeSymbol.Begins (symbol : TypeSymbol) (known : KnownNames) (part : TypeDeclaration) :
    Prop where
  metadataName : symbol.metadataName = part.metadataName
  name : symbol.name = part.name
  space : symbol.space = part.space
  kind : symbol.kind = part.kind
  typeParameters : symbol.typeParameters = part.typeParameters
  containing : symbol.containing? = part.containing?.filter known.types.contains

namespace Program

variable {sources : List Source} {references : References} {program : Program}

theorem kind_eq (sources : List Source) (references : References) (name : String) :
    kindOf? (declarationsOf sources) references name =
      kindFrom? references (partsIn (globalUsings sources) sources name) name := by
  unfold kindOf? kindFrom?
  rw [← declarations_filter, ← List.head?_filter]
  cases (declarationsOf sources).filter fun declaration => declaration.metadataName = name with
  | nil => rfl
  | cons first more => rfl

theorem mem_known_types (built : build sources references = .ok program) (name : String) :
    name ∈ program.known.types ↔
      partsIn program.globals sources name ≠ [] ∨ name ∈ references.keys := by
  obtain ⟨-, -, globals, known, -⟩ := build_eq built
  rw [globals, known, ← declared_iff_parts]
  unfold knownNames
  rw [mem_distinct, List.mem_append]

/-- The namespaces that a program knows are those around its parts and around its types. -/
theorem mem_known_spaces (built : build sources references = .ok program) (space : String) :
    space ∈ program.known.spaces ↔
      (∃ source ∈ sources, ∃ site ∈ source.sites, site.node.isTypeDeclaration = true ∧
        space ∈ Names.spacesAround (Surroundings.ofSite source site).space) ∨
      ∃ type ∈ program.known.types, space ∈ Names.spacesAround (Names.spaceOf type) := by
  obtain ⟨-, -, -, known, -⟩ := build_eq built
  rw [known]
  unfold knownNames
  rw [mem_distinct, List.flatMap_append, List.mem_append, List.flatMap_map, List.flatMap_map]
  apply or_congr
  · rw [List.mem_flatMap]
    constructor
    · intro given
      rcases given with ⟨declaration, member, around⟩
      obtain ⟨source, listed, site, inside, isType, rfl⟩ := mem_declarations.mp member
      rw [show (TypeDeclaration.ofSite source (globalUsings sources) site).scope.space = _ from
        Surroundings.space_eq _ _] at around
      exact ⟨source, listed, site, inside, isType, around⟩
    · intro given
      rcases given with ⟨source, listed, site, inside, isType, around⟩
      refine ⟨_, mem_declarations.mpr ⟨source, listed, site, inside, isType, rfl⟩, ?_⟩
      rw [show (TypeDeclaration.ofSite source (globalUsings sources) site).scope.space = _ from
        Surroundings.space_eq _ _]
      exact around
  · rw [List.mem_flatMap]

theorem type_eq (built : build sources references = .ok program) (name : String) :
    program.type? name =
      symbolFrom? program.known references (partsIn program.globals sources) name := by
  have knownTypes := mem_known_types built
  obtain ⟨-, -, globals, known, types⟩ := build_eq built
  unfold type? symbolFrom?
  rw [types, ← known]
  rw [globals] at knownTypes ⊢
  cases parts : partsIn (globalUsings sources) sources name with
  | nil =>
      apply external_of_undeclared
      rw [declared_iff_parts, parts]
      exact fun absurd => absurd rfl
  | cons first more =>
      have own := (declarations_filter sources name).trans parts
      obtain ⟨table, found, outers⟩ :=
        declared_symbol references program.known (declarations_sorted sources) own
      have kinds : kindOf? (declarationsOf sources) references = fun name =>
          kindFrom? references (partsIn (globalUsings sources) sources name) name :=
        funext (kind_eq sources references)
      have containing : (first.containing?.filter fun outer =>
            table.any (·.metadataName = outer)) =
          first.containing?.filter program.known.types.contains := by
        cases around : first.containing? with
        | none => rfl
        | some outer =>
            have inside : first ∈ partsIn (globalUsings sources) sources name := by
              rw [parts]
              exact List.mem_cons_self
            obtain ⟨firstName, source, -, site, -, -, same⟩ := mem_parts_in.mp inside
            rw [same] at around
            have less := containing_nesting source (globalUsings sources) site around
            rw [← same, firstName] at less
            have tests : table.any (·.metadataName = outer) =
                program.known.types.contains outer := by
              rw [Bool.eq_iff_iff, outers outer less, List.contains_iff_mem, knownTypes,
                declared_iff_parts]
            rw [Option.filter_some, Option.filter_some, tests]
      rw [found]
      unfold symbolOf symbolFrom interfacesOf interfacesFrom
      rw [containing, kinds]
      rfl

/-- A type with parts has a symbol, which begins with the first of them. -/
theorem symbol_begins (built : build sources references = .ok program) {name : String}
    {part : TypeDeclaration} {more : List TypeDeclaration}
    (parts : partsIn program.globals sources name = part :: more) :
    ∃ symbol, program.type? name = some symbol ∧ symbol.Begins program.known part := by
  rw [type_eq built]
  unfold symbolFrom?
  rw [parts]
  exact ⟨_, rfl, rfl, rfl, rfl, rfl, rfl, rfl⟩

theorem kind_of_type (built : build sources references = .ok program) (name : String) :
    kindFrom? references (partsIn program.globals sources name) name =
      (program.type? name).map (·.kind) := by
  rw [type_eq built]
  unfold symbolFrom? kindFrom?
  cases partsIn program.globals sources name with
  | nil =>
      cases references.get? name with
      | none => rfl
      | some kind => rfl
  | cons first more => rfl

theorem mem_interfaces (built : build sources references = .ok program) {name interface : String}
    {symbol : TypeSymbol} (found : program.type? name = some symbol) :
    interface ∈ symbol.interfaces ↔
      (program.type? interface).map (·.kind) = some "interface" ∧
        ∃ part ∈ partsIn program.globals sources name, ∃ base ∈ part.bases,
          program.known.resolve? .type base part.scope = some interface := by
  rw [← kind_of_type built]
  rw [type_eq built] at found
  unfold symbolFrom? at found
  cases parts : partsIn program.globals sources name with
  | nil =>
      rw [parts] at found
      obtain ⟨kind, -, rfl⟩ := Option.map_eq_some_iff.mp found
      constructor
      · intro member
        cases member
      · intro given
        rcases given with ⟨-, part, member, -⟩
        cases member
  | cons first more =>
      rw [parts] at found
      rw [← Option.some.inj found]
      exact mem_interfaces_from

end Program

/-! The constants of a program. -/

namespace ConstantDeclaration

def inSource (globals : List Using) (source : Source) : List ConstantDeclaration :=
  (all source globals).toOption.getD []

theorem in_source_site {globals : List Using} {source : Source} {constant : ConstantDeclaration}
    (member : constant ∈ inSource globals source) :
    constant.source = source ∧
      ∃ field ∈ source.sites, isConstant source field = true ∧
      ∃ declarator ∈ field.declarators, ∃ name,
        declarator.node.childOr? "name" ["identifier"] = some name ∧
        ∃ type ∈ (source.scope globals field).enclosing.head?,
          constant.key = Names.member type (source.text name) := by
  unfold inSource at member
  cases found : all source globals with
  | error fault =>
      rw [found] at member
      cases member
  | ok constants =>
      rw [found] at member
      obtain ⟨fields, each, same⟩ := except_bind_returns.mp found
      have flat : fields.flatten = constants := Except.ok.inj same
      have listed : constant ∈ fields.flatten := flat ▸ member
      obtain ⟨own, inside, ownMember⟩ := List.mem_flatten.mp listed
      obtain ⟨field, kept, ofField⟩ := forall_two_member (except_each_returns each) inside
      obtain ⟨fieldInside, isConstant⟩ := List.mem_filter.mp kept
      unfold ConstantDeclaration.ofField at ofField
      cases enclosing : (source.scope globals field).enclosing with
      | nil =>
          rw [enclosing] at ofField
          rw [← Except.ok.inj ofField] at ownMember
          cases ownMember
      | cons type outer =>
          rw [enclosing] at ofField
          obtain ⟨declared, eachDeclarator, last⟩ := except_bind_returns.mp ofField
          rw [← Except.ok.inj last] at ownMember
          obtain ⟨constant?, listed, isSome⟩ := List.mem_filterMap.mp ownMember
          obtain ⟨declarator, below, read⟩ :=
            forall_two_member (except_each_returns eachDeclarator) listed
          obtain ⟨value?, -, made⟩ := except_bind_returns.mp read
          have result := (Except.ok.inj made).trans isSome
          split at result
          · next _ name site nameFound =>
              rw [← Option.some.inj result]
              exact ⟨rfl, field, fieldInside, isConstant, declarator, below, name, nameFound, type,
                congrArg List.head? enclosing, rfl⟩
          · cases result

end ConstantDeclaration

namespace Program

theorem constants_eq {sources : List Source} {references : References} {program : Program}
    (built : build sources references = .ok program) :
    program.constants =
      sources.flatMap (ConstantDeclaration.inSource (globalUsings sources)) := by
  obtain ⟨constants, each, same⟩ := except_bind_returns.mp built
  have results := except_each_returns each
  rw [← Except.ok.inj same]
  show constants.flatten = _
  clear each same built
  generalize globalUsings sources = globals at results
  induction results with
  | nil => rfl
  | @cons source own sources constants head rest induction =>
      rw [List.flatten_cons, List.flatMap_cons, induction]
      unfold ConstantDeclaration.inSource
      rw [head]
      rfl

end Program

theorem no_constants {source : Source}
    (noFields : ∀ site ∈ source.sites, site.node.kind ≠ "field_declaration")
    (globals : List Using) : ConstantDeclaration.inSource globals source = [] := by
  apply List.eq_nil_iff_forall_not_mem.mpr
  intro constant member
  obtain ⟨-, field, inside, isConstant, -⟩ := ConstantDeclaration.in_source_site member
  unfold ConstantDeclaration.isConstant at isConstant
  rw [Bool.and_eq_true, decide_eq_true_eq] at isConstant
  exact noFields field inside isConstant.1

theorem marker_has_no_fields :
    ∀ site ∈ Marker.source.sites, site.node.kind ≠ "field_declaration" := by
  have none : (Marker.source.sites.all fun site =>
      !decide (site.node.kind = "field_declaration")) = true := by decide +kernel
  intro site inside
  have other := List.all_eq_true.mp none site inside
  rw [Bool.not_eq_true', decide_eq_false_iff_not] at other
  exact other

namespace Program

variable {sources : List Source} {references : References} {program : Program}

theorem bound_constants (built : build (sources ++ [Marker.source]) references = .ok program) :
    program.constants = sources.flatMap (ConstantDeclaration.inSource program.globals) := by
  rw [constants_eq built, ← (build_eq built).2.2.1, List.flatMap_append, List.flatMap_singleton,
    no_constants marker_has_no_fields, List.append_nil]

theorem constant_source (built : build (sources ++ [Marker.source]) references = .ok program) :
    ∀ constant ∈ program.constants, constant.source ∈ sources := by
  intro constant member
  rw [bound_constants built] at member
  obtain ⟨source, listed, own⟩ := List.mem_flatMap.mp member
  rw [(ConstantDeclaration.in_source_site own).1]
  exact listed

end Program

end PropertyGen
