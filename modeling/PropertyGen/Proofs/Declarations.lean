import Mathlib.Data.List.TakeWhile
import PropertyGen.Proofs.Building
import PropertyGen.Proofs.Trees

/-!
Declared types of well-formed sources. The type around a site is the one its innermost type
declaration names, and the symbol of a top-level type has the namespace of all its parts.
-/

namespace PropertyGen

namespace Names

theorem to_list_qualify (space name : String) :
    (qualify space name).toList =
      if space = "" then name.toList else space.toList ++ '.' :: name.toList := by
  unfold qualify
  by_cases named : space = ""
  · rw [if_pos named, if_pos named]
  · rw [if_neg named, if_neg named, String.toList_append, String.toList_append, List.append_assoc]
    rfl

theorem to_list_nest (outer name : String) :
    (nest outer name).toList = outer.toList ++ '+' :: name.toList := by
  unfold nest
  rw [String.toList_append, String.toList_append, List.append_assoc]
  rfl

theorem nest_ne_empty (outer name : String) : nest outer name ≠ "" := by
  intro empty
  have characters := congrArg String.toList empty
  rw [to_list_nest] at characters
  exact List.append_ne_nil_of_right_ne_nil _ (List.cons_ne_nil _ _) characters

theorem nesting_nest (outer name : String) :
    nesting outer < nesting (nest outer name) := by
  unfold nesting
  rw [to_list_nest, List.count_append, List.count_cons_self]
  omega

theorem to_list_count (count : Nat) : (toString count).toList = Nat.toDigits 10 count := by
  show (Nat.repr count).toList = _
  unfold Nat.repr
  exact String.toList_ofList

theorem digits_clean {mark : Char} (noDigit : mark.isDigit = false) (count : Nat) :
    mark ∉ (toString count).toList := by
  intro digit
  rw [to_list_count] at digit
  have isDigit := Nat.isDigit_of_mem_toDigits (by decide) (by decide) digit
  rw [noDigit] at isDigit
  cases isDigit

theorem plus_mem_nest (outer name : String) : '+' ∈ (nest outer name).toList := by
  rw [to_list_nest]
  exact List.mem_append_right _ List.mem_cons_self

/-- A name without a plus sign is told from the names of the types around it. -/
theorem nest_inj {outer other name another : String} (plain : '+' ∉ name.toList)
    (alsoPlain : '+' ∉ another.toList) :
    nest outer name = nest other another ↔ outer = other ∧ name = another := by
  refine ⟨fun same => ?_, fun both => by rw [both.1, both.2]⟩
  have characters := congrArg String.toList same
  rw [to_list_nest, to_list_nest] at characters
  have parts := (List.append_eq_append_iff).mp characters
  rcases parts with ⟨between, longer, rest⟩ | ⟨between, longer, rest⟩
  · cases between with
    | nil =>
        simp only [List.append_nil, List.nil_append, List.cons.injEq, true_and] at longer rest
        exact ⟨(String.toList_inj.mp longer).symm, String.toList_inj.mp rest⟩
    | cons first more =>
        simp only [List.cons_append, List.cons.injEq] at rest
        rw [rest.2] at plain
        simp at plain
  · cases between with
    | nil =>
        simp only [List.append_nil, List.nil_append, List.cons.injEq, true_and] at longer rest
        exact ⟨String.toList_inj.mp longer, (String.toList_inj.mp rest).symm⟩
    | cons first more =>
        simp only [List.cons_append, List.cons.injEq] at rest
        rw [rest.2] at alsoPlain
        simp at alsoPlain

/-- A nested type without a dot in its name is told from a type of a namespace without a plus sign
in its name, whatever the namespace is. -/
theorem nest_ne_qualify (outer space : String) {name another : String}
    (dotless : '.' ∉ name.toList) (plain : '+' ∉ another.toList) : nest outer name ≠ qualify space another := by
  intro same
  have characters := congrArg String.toList same
  rw [to_list_nest, to_list_qualify] at characters
  by_cases isGlobal : space = ""
  · rw [if_pos isGlobal] at characters
    rw [← characters] at plain
    simp at plain
  · rw [if_neg isGlobal] at characters
    rcases List.append_eq_append_iff.mp characters with ⟨between, -, rest⟩ | ⟨between, -, rest⟩
    · have member : '.' ∈ '+' :: name.toList := by simp [rest]
      simp [dotless] at member
    · have member : '+' ∈ '.' :: another.toList := by simp [rest]
      simp [plain] at member

theorem plus_not_mem_qualify {space name : String} (spaceClean : '+' ∉ space.toList)
    (nameClean : '+' ∉ name.toList) : '+' ∉ (qualify space name).toList := by
  rw [to_list_qualify]
  by_cases isGlobal : space = ""
  · rw [if_pos isGlobal]
    exact nameClean
  · rw [if_neg isGlobal]
    simp [spaceClean, nameClean]

theorem qualify_ne_empty {space name : String} (named : name ≠ "") : qualify space name ≠ "" := by
  intro empty
  have characters := congrArg String.toList empty
  rw [to_list_qualify] at characters
  by_cases isGlobal : space = ""
  · rw [if_pos isGlobal] at characters
    exact named (String.toList_inj.mp characters)
  · rw [if_neg isGlobal] at characters
    exact List.append_ne_nil_of_right_ne_nil _ (List.cons_ne_nil _ _) characters

theorem before_last_dot (front : List Char) {back : List Char} (clean : '.' ∉ back) :
    Text.beforeLast '.' (front ++ '.' :: back) = front := by
  unfold Text.beforeLast
  rw [List.reverse_append, List.reverse_cons, List.append_assoc, List.dropWhile_append_of_pos]
  · simp
  · intro character member
    have inside := List.mem_reverse.mp member
    apply decide_eq_true
    intro isDot
    rw [isDot] at inside
    exact clean inside

theorem qualify_space {space name other another : String} (simple : '.' ∉ name.toList)
    (alsoSimple : '.' ∉ another.toList) (same : qualify space name = qualify other another) :
    space = other := by
  have characters := congrArg String.toList same
  rw [to_list_qualify, to_list_qualify] at characters
  by_cases isGlobal : space = ""
  · rw [if_pos isGlobal] at characters
    by_cases otherGlobal : other = ""
    · rw [isGlobal, otherGlobal]
    · rw [if_neg otherGlobal] at characters
      rw [characters] at simple
      exact absurd (List.mem_append_right _ List.mem_cons_self) simple
  · rw [if_neg isGlobal] at characters
    by_cases otherGlobal : other = ""
    · rw [if_pos otherGlobal] at characters
      rw [← characters] at alsoSimple
      exact absurd (List.mem_append_right _ List.mem_cons_self) alsoSimple
    · rw [if_neg otherGlobal] at characters
      have fronts := congrArg (Text.beforeLast '.') characters
      rw [before_last_dot _ simple, before_last_dot _ alsoSimple] at fronts
      exact String.toList_inj.mp fronts

theorem space_of_qualify {space name : String} (clean : '+' ∉ space.toList)
    (dotless : '.' ∉ name.toList) (plusless : '+' ∉ name.toList) :
    spaceOf (qualify space name) = space := by
  have whole : Text.beforeFirst '+' (qualify space name).toList = (qualify space name).toList := by
    apply List.takeWhile_eq_self_iff.mpr
    intro character member
    apply decide_eq_true
    intro isPlus
    exact plus_not_mem_qualify clean plusless (isPlus ▸ member)
  unfold spaceOf
  rw [whole, to_list_qualify]
  by_cases isGlobal : space = ""
  · rw [if_pos isGlobal, isGlobal]
    have none : Text.beforeLast '.' name.toList = [] := by
      unfold Text.beforeLast
      rw [List.dropWhile_eq_nil_iff.mpr]
      · rfl
      · intro character member
        apply decide_eq_true
        intro isDot
        exact dotless (isDot ▸ List.mem_reverse.mp member)
    rw [none]
  · rw [if_neg isGlobal, before_last_dot _ dotless]
    exact String.ofList_toList

end Names

namespace Source

variable {source : Source}

theorem type_segment_clean {node : Node} {mark : Char} (noDigit : mark.isDigit = false)
    (noTick : mark ≠ '`') (own : mark ∉ (source.declaredName node).toList) :
    mark ∉ (source.typeSegment node).toList := by
  unfold typeSegment
  cases node.childOr? "type_parameters" ["type_parameter_list"] with
  | none => exact own
  | some parameters =>
      dsimp only
      split
      · exact own
      · rw [String.toList_append, String.toList_append, List.mem_append, List.mem_append]
        intro member
        rcases member with (inside | tick) | digit
        · exact own inside
        · exact noTick (List.mem_singleton.mp tick)
        · exact Names.digits_clean noDigit _ digit

theorem type_segment_ne_empty {node : Node} (named : source.declaredName node ≠ "") :
    source.typeSegment node ≠ "" := by
  unfold typeSegment
  cases node.childOr? "type_parameters" ["type_parameter_list"] with
  | none => exact named
  | some parameters =>
      dsimp only
      split
      · exact named
      · intro empty
        have characters := congrArg String.toList empty
        rw [String.toList_append, String.toList_append] at characters
        exact List.append_ne_nil_of_left_ne_nil
          (List.append_ne_nil_of_right_ne_nil _ (List.cons_ne_nil _ _)) _ characters

theorem simple_type_segment {node : Node} (simple : Names.Simple (source.declaredName node)) :
    Names.Simple (source.typeSegment node) :=
  ⟨type_segment_ne_empty simple.1, type_segment_clean (by decide) (by decide) simple.2.1,
    type_segment_clean (by decide) (by decide) simple.2.2⟩

/-- A node is the declaration of a namespace of some name, or it has a child that is. -/
def DeclaresSpace (source : Source) (node : Node) (name : String) : Prop :=
  (node.isSpaceDeclaration = true ∧ source.declaredName node = name) ∨
    ∃ child ∈ node.namedChildren, child.isSpaceDeclaration = true ∧
      source.declaredName child = name

theorem file_scoped_declares {node child : Node} {offset : Nat}
    (found : Surroundings.fileScopedBefore? node offset = some child) :
    source.DeclaresSpace node (source.declaredName child) := by
  have chosen := List.find?_some found
  rw [Bool.and_eq_true, decide_eq_true_eq] at chosen
  refine .inr ⟨child, List.mem_of_find?_eq_some found, ?_, rfl⟩
  unfold Node.isSpaceDeclaration
  rw [decide_eq_true chosen.1, Bool.or_true]

theorem spaces_add_ancestor {offset : Nat} {surroundings : Surroundings} {ancestor : Node} :
    ∀ block ∈ (Surroundings.addAncestor source offset surroundings ancestor).spaces,
      block ∈ surroundings.spaces ∨ source.DeclaresSpace ancestor block.1 := by
  have kept : ∀ block ∈ surroundings.spaces,
      block ∈ surroundings.spaces ∨ source.DeclaresSpace ancestor block.1 :=
    fun _ member => .inl member
  have added (name : String) (usings : List Using) (declared : source.DeclaresSpace ancestor name) :
      ∀ block ∈ (surroundings.addSpace name usings).spaces,
        block ∈ surroundings.spaces ∨ source.DeclaresSpace ancestor block.1 := by
    intro block member
    rcases List.mem_append.mp member with old | new
    · exact .inl old
    · rw [List.mem_singleton.mp new]
      exact .inr declared
  unfold Surroundings.addAncestor
  by_cases isType : ancestor.isTypeDeclaration = true
  · rw [if_pos isType]
    exact kept
  · rw [if_neg isType]
    by_cases isSpace : ancestor.kind = "namespace_declaration"
    · rw [if_pos isSpace]
      apply added
      refine .inl ⟨?_, rfl⟩
      unfold Node.isSpaceDeclaration
      rw [decide_eq_true isSpace, Bool.true_or]
    · rw [if_neg isSpace]
      by_cases isFile : ancestor.kind = "file_scoped_namespace_declaration"
      · rw [if_pos isFile]
        apply added
        refine .inl ⟨?_, rfl⟩
        unfold Node.isSpaceDeclaration
        rw [decide_eq_true isFile, Bool.or_true]
      · rw [if_neg isFile]
        by_cases isUnit : ancestor.kind = "compilation_unit"
        · rw [if_pos isUnit]
          dsimp only
          by_cases none : surroundings.spaces.isEmpty = true
          · rw [if_pos none]
            cases found : Surroundings.fileScopedBefore? ancestor offset with
            | none => exact kept
            | some declaration => exact added _ _ (file_scoped_declares found)
          · rw [if_neg none]
            exact kept
        · rw [if_neg isUnit]
          exact kept

theorem space_declared {site : Site} (inside : site ∈ source.sites) :
    ∀ block ∈ (Surroundings.ofSite source site).spaces, ∃ space ∈ source.sites,
      space.node.isSpaceDeclaration = true ∧ source.declaredName space.node = block.1 := by
  have blocks (nodes : List Node) (surroundings : Surroundings) :
      ∀ block ∈ (nodes.foldl (Surroundings.addAncestor source site.node.start) surroundings).spaces,
        block ∈ surroundings.spaces ∨ ∃ node ∈ nodes, source.DeclaresSpace node block.1 := by
    induction nodes generalizing surroundings with
    | nil => exact fun _ member => .inl member
    | cons node rest induction =>
        intro block member
        rcases induction _ block member with before | ⟨other, listed, declared⟩
        · refine (spaces_add_ancestor block before).imp_right fun declared => ?_
          exact ⟨node, List.mem_cons_self, declared⟩
        · exact .inr ⟨other, List.mem_cons_of_mem _ listed, declared⟩
  intro block member
  rcases blocks site.ancestors Surroundings.none block member with none | ⟨node, listed, declared⟩
  · cases none
  · obtain ⟨above, aboveInside, own⟩ := ancestor_site inside node listed
    rw [← own] at declared
    rcases declared with here | ⟨child, named, isSpace, name⟩
    · exact ⟨above, aboveInside, here⟩
    · obtain ⟨below, step, same⟩ := Site.site_of_child (List.mem_filter.mp named).1
      rw [← same] at isSpace name
      exact ⟨below, child_mem_sites aboveInside step, isSpace, name⟩

theorem space_plusless (plusless : ∀ space ∈ source.sites, space.node.isSpaceDeclaration = true →
      '+' ∉ (source.declaredName space.node).toList) {site : Site} (inside : site ∈ source.sites) :
    '+' ∉ (Surroundings.ofSite source site).space.toList := by
  have joined (blocks : List (String × List Using)) (outer : String) (clean : '+' ∉ outer.toList)
      (each : ∀ block ∈ blocks, '+' ∉ block.1.toList) :
      '+' ∉ (blocks.foldl (fun outer block => Names.qualify outer block.1) outer).toList := by
    induction blocks generalizing outer with
    | nil => exact clean
    | cons block rest induction =>
        obtain ⟨own, others⟩ := List.forall_mem_cons.mp each
        exact induction _ (Names.plus_not_mem_qualify clean own) others
  unfold Surroundings.space
  apply joined _ _ (by decide)
  intro block member
  obtain ⟨space, spaceInside, isSpace, name⟩ :=
    space_declared inside block (List.mem_reverse.mp member)
  rw [← name]
  exact plusless space spaceInside isSpace

end Source

namespace Surroundings

/-- A type inside of others is nested in the innermost of them, or qualified by the namespace. -/
theorem nested_names_append (space segment : String) (types : List String) :
    nestedNames space (types ++ [segment]) =
      nestedNames space types ++
        [((nestedNames space types).getLast?.map (Names.nest · segment)).getD
          (Names.qualify space segment)] := by
  have inner (segments : List String) (outer : String) :
      nestedNames.nestFrom outer (segments ++ [segment]) =
        nestedNames.nestFrom outer segments ++
          [Names.nest ((nestedNames.nestFrom outer segments).getLast?.getD outer) segment] := by
    induction segments generalizing outer with
    | nil => rfl
    | cons first rest induction =>
        rw [List.cons_append, nestedNames.nestFrom, nestedNames.nestFrom, induction,
          List.getLast?_cons]
        rfl
  cases types with
  | nil => rfl
  | cons outermost rest =>
      rw [List.cons_append, nestedNames, nestedNames, inner, List.getLast?_cons]
      rfl

theorem nested_names_ne_empty {space : String} {types : List String}
    (named : ∀ segment ∈ types, segment ≠ "") : ∀ name ∈ nestedNames space types, name ≠ "" := by
  have inner (segments : List String) (outer : String) :
      ∀ name ∈ nestedNames.nestFrom outer segments, name ≠ "" := by
    induction segments generalizing outer with
    | nil =>
        intro name member
        cases member
    | cons first rest induction =>
        intro name member
        rcases List.mem_cons.mp member with same | later
        · rw [same]
          exact Names.nest_ne_empty outer first
        · exact induction _ name later
  cases types with
  | nil =>
      intro name member
      cases member
  | cons outermost rest =>
      intro name member
      rcases List.mem_cons.mp member with same | later
      · rw [same]
        exact Names.qualify_ne_empty (named outermost List.mem_cons_self)
      · exact inner rest _ name later

theorem enclosing_inside (surroundings : Surroundings) (globals : List Using) (segment : String) :
    ((surroundings.inside [segment]).scope globals).enclosing =
      (((surroundings.scope globals).enclosing.head?.map (Names.nest · segment)).getD
        (Names.qualify surroundings.space segment)) ::
        (surroundings.scope globals).enclosing := by
  show (nestedNames surroundings.space ([segment] ++ surroundings.types).reverse).reverse = _ ::
    (nestedNames surroundings.space surroundings.types.reverse).reverse
  rw [List.reverse_append, List.reverse_singleton, nested_names_append, List.reverse_append,
    List.reverse_singleton]
  show _ :: _ = ((nestedNames surroundings.space surroundings.types.reverse).reverse.head?.map _).getD
    _ :: _
  rw [List.head?_reverse]
  rfl

end Surroundings

namespace Source

variable {source : Source}

theorem enclosing_ne_empty (ordered : source.Ordered) {site : Site}
    (inside : site ∈ source.sites) (globals : List Using) :
    ∀ name ∈ (source.scope globals site).enclosing, name ≠ "" := by
  intro name member
  have named : ∀ segment ∈ (Surroundings.ofSite source site).types.reverse, segment ≠ "" := by
    intro segment listed
    rw [List.mem_reverse, types_of_site] at listed
    obtain ⟨outer, own, rfl⟩ := List.mem_map.mp listed
    obtain ⟨isAbove, isType⟩ := List.mem_filter.mp own
    exact type_segment_ne_empty (ordered.named outer (above_mem_sites inside outer isAbove) isType)
  exact Surroundings.nested_names_ne_empty named name (List.mem_reverse.mp member)

theorem declaration_space (globals : List Using) (site : Site) :
    (TypeDeclaration.ofSite source globals site).space =
      (Surroundings.ofSite source site).space := by
  unfold TypeDeclaration.ofSite Source.scope
  dsimp only
  exact Surroundings.space_eq _ globals

theorem declaration_names (ordered : source.Ordered) {site : Site}
    (inside : site ∈ source.sites) (globals : List Using) :
    (TypeDeclaration.ofSite source globals site).containing? =
        (source.scope globals site).enclosing.head? ∧
      (TypeDeclaration.ofSite source globals site).metadataName =
        ((source.scope globals site).enclosing.head?.map
          (Names.nest · (source.typeSegment site.node))).getD
            (Names.qualify (Surroundings.ofSite source site).space
              (source.typeSegment site.node)) := by
  have kept : (source.scope globals site).enclosing.head?.filter (· ≠ "") =
      (source.scope globals site).enclosing.head? := by
    cases first : (source.scope globals site).enclosing.head? with
    | none => rfl
    | some name =>
        have named := enclosing_ne_empty ordered inside globals name (List.mem_of_head? first)
        rw [Option.filter_some, if_pos (decide_eq_true named)]
  have space := (Surroundings.ofSite source site).space_eq globals
  unfold TypeDeclaration.ofSite
  dsimp only
  rw [kept, show (source.scope globals site).space = _ from space]
  refine ⟨rfl, ?_⟩
  cases (source.scope globals site).enclosing.head? with
  | none => rfl
  | some outer => rfl

theorem enclosing_cons (ordered : source.Ordered) {site : Site} (inside : site ∈ source.sites)
    (within : source.Within site.node site.node.start) {outer : Site} {more : List Site}
    (around : site.typesAround = outer :: more) (globals : List Using) :
    (source.scope globals site).enclosing =
        (TypeDeclaration.ofSite source globals outer).metadataName ::
          (source.scope globals outer).enclosing ∧
      (Surroundings.ofSite source site).space = (Surroundings.ofSite source outer).space := by
  obtain ⟨outerInside, -, rest, -⟩ := outer_of_types_around ordered inside within around
  have spaces := spaces_of_site ordered inside within around
  have space : (Surroundings.ofSite source site).space =
      (Surroundings.ofSite source outer).space := by
    unfold Surroundings.space
    rw [spaces]
  have types : (Surroundings.ofSite source site).types =
      source.typeSegment outer.node :: (Surroundings.ofSite source outer).types := by
    rw [types_of_site, types_of_site, around, rest]
    rfl
  refine ⟨?_, space⟩
  have names : (source.scope globals site).enclosing =
      (((Surroundings.ofSite source outer).inside [source.typeSegment outer.node]).scope
        globals).enclosing := by
    show (Surroundings.nestedNames (Surroundings.ofSite source site).space
      (Surroundings.ofSite source site).types.reverse).reverse = _
    rw [space, types]
    rfl
  rw [names, (declaration_names ordered outerInside globals).2]
  exact Surroundings.enclosing_inside _ globals _

theorem enclosing_of_no_type {site : Site} (none : site.typesAround = []) (globals : List Using) :
    (source.scope globals site).enclosing = [] := by
  apply (Surroundings.enclosing_nil _ globals).mpr
  rw [types_of_site, none]
  rfl

/-- A site is in no type, or right inside of a type that is declared at a site of its own. -/
theorem enclosing_cases (ordered : source.Ordered) {site : Site}
    (inside : site ∈ source.sites) (covering : site.node.start < site.node.stop)
    (globals : List Using) :
    (source.scope globals site).enclosing = [] ∨
      ∃ outer ∈ source.sites, outer.node.isTypeDeclaration = true ∧
        (source.scope globals site).enclosing =
          (TypeDeclaration.ofSite source globals outer).metadataName ::
            (source.scope globals outer).enclosing ∧
        (Surroundings.ofSite source site).space = (Surroundings.ofSite source outer).space := by
  cases around : site.typesAround with
  | nil => exact .inl (enclosing_of_no_type around globals)
  | cons outer more =>
      have within := source.within_start covering
      obtain ⟨outerInside, isType, -⟩ := outer_of_types_around ordered inside within around
      exact .inr ⟨outer, outerInside, isType, enclosing_cons ordered inside within around globals⟩

end Source

section Types

variable {declarations : List TypeDeclaration} {references : References} {known : KnownNames}

theorem by_nesting_sorted (declarations : List TypeDeclaration) :
    (byNesting declarations).Pairwise fun first second =>
      Names.nesting first.metadataName ≤ Names.nesting second.metadataName := by
  have atLevel {level : Nat} {declaration : TypeDeclaration}
      (member : declaration ∈ declarations.filter fun declaration =>
        Names.nesting declaration.metadataName = level) :
      Names.nesting declaration.metadataName = level := by
    have kept := (List.mem_filter.mp member).2
    rw [decide_eq_true_eq] at kept
    exact kept
  unfold byNesting
  apply List.pairwise_flatMap.mpr
  constructor
  · intro level _
    apply List.pairwise_of_forall_mem_list
    intro first firstMember second secondMember
    rw [atLevel firstMember, atLevel secondMember]
  · apply List.pairwise_lt_range.imp
    intro lower upper before first firstMember second secondMember
    rw [atLevel firstMember, atLevel secondMember]
    omega

theorem fold_declared_append (declarations : List TypeDeclaration) (references : References)
    (known : KnownNames) (names : List String) (table : List TypeSymbol) :
    ∃ added, names.foldl (addDeclared declarations references known) table = table ++ added := by
  induction names generalizing table with
  | nil => exact ⟨[], (List.append_nil table).symm⟩
  | cons name rest induction =>
      have own : ∃ first, addDeclared declarations references known table name = table ++ first := by
        unfold addDeclared
        cases declarations.filter fun declaration => declaration.metadataName = name with
        | nil => exact ⟨[], (List.append_nil table).symm⟩
        | cons first more => exact ⟨_, rfl⟩
      obtain ⟨first, same⟩ := own
      obtain ⟨others, rest⟩ := induction (addDeclared declarations references known table name)
      refine ⟨first ++ others, ?_⟩
      rw [List.foldl_cons, rest, same, List.append_assoc]

/-- The types that only references tell of. -/
def externals (declarations : List TypeDeclaration) (references : References) : List TypeSymbol :=
  (references.filter fun entry =>
    !(distinct (declarations.map (·.metadataName))).contains entry.1).map fun entry =>
      TypeSymbol.external entry.1 entry.2

theorem type_table_eq :
    typeTable declarations references known =
      (distinct (declarations.map (·.metadataName))).foldl
        (addDeclared declarations references known) (externals declarations references) := rfl

theorem mem_external_names {name : String} :
    name ∈ (externals declarations references).map (·.metadataName) ↔
      name ∈ references.keys ∧ name ∉ declarations.map (·.metadataName) := by
  have undeclared : (distinct (declarations.map (·.metadataName))).contains name = true ↔
      name ∈ declarations.map (·.metadataName) := by
    rw [List.contains_iff_mem, mem_distinct]
  unfold externals Table.keys
  rw [List.map_map]
  constructor
  · intro listed
    obtain ⟨entry, kept, same⟩ := List.mem_map.mp listed
    have own : entry.1 = name := same
    obtain ⟨inside, test⟩ := List.mem_filter.mp kept
    rw [own, Bool.not_eq_true', ← Bool.not_eq_true, undeclared] at test
    exact ⟨own ▸ List.mem_map_of_mem inside, test⟩
  · intro given
    rcases given with ⟨referred, absent⟩
    obtain ⟨entry, inside, own⟩ := List.mem_map.mp referred
    refine List.mem_map.mpr ⟨entry, List.mem_filter.mpr ⟨inside, ?_⟩, own⟩
    rw [own, Bool.not_eq_true', ← Bool.not_eq_true, undeclared]
    exact absent

theorem declared_before
    (sorted : declarations.Pairwise fun first second =>
      Names.nesting first.metadataName ≤ Names.nesting second.metadataName)
    {before after : List String} {name outer : String}
    (split : distinct (declarations.map (·.metadataName)) = before ++ name :: after)
    (declared : outer ∈ declarations.map (·.metadataName))
    (less : Names.nesting outer < Names.nesting name) : outer ∈ before := by
  have ranked : (before ++ name :: after).Pairwise fun first second =>
      Names.nesting first ≤ Names.nesting second := by
    rw [← split]
    apply List.Pairwise.sublist (distinct_sublist _)
    exact List.pairwise_map.mpr sorted
  have listed := mem_distinct.mpr declared
  rw [split] at listed
  rcases List.mem_append.mp listed with inside | rest
  · exact inside
  · rcases List.mem_cons.mp rest with same | later
    · rw [same] at less
      omega
    · have ordered := (List.pairwise_cons.mp (List.pairwise_append.mp ranked).2.1).1 outer later
      omega

def tableAfter (declarations : List TypeDeclaration) (references : References) (known : KnownNames)
    (names : List String) : List TypeSymbol :=
  names.foldl (addDeclared declarations references known) (externals declarations references)

section Steps

variable {before after : List String} {name : String}
  (split : distinct (declarations.map (·.metadataName)) = before ++ name :: after)

include split

theorem mem_table_names (known : KnownNames) {other : String} :
    other ∈ (tableAfter declarations references known before).map (·.metadataName) ↔
      (other ∈ references.keys ∧ other ∉ declarations.map (·.metadataName)) ∨ other ∈ before := by
  have isDeclared : ∀ earlier ∈ before, earlier ∈ declarations.map (·.metadataName) := by
    intro earlier member
    apply mem_distinct.mp
    rw [split]
    exact List.mem_append_left _ member
  unfold tableAfter
  rw [names_fold_declared known isDeclared, List.mem_append, mem_external_names]

theorem not_mem_table_names (known : KnownNames) :
    name ∉ (tableAfter declarations references known before).map (·.metadataName) := by
  rw [mem_table_names split]
  intro given
  rcases given with ⟨-, undeclared⟩ | earlier
  · apply undeclared
    apply mem_distinct.mp
    rw [split]
    exact List.mem_append_right _ List.mem_cons_self
  · have nodup := distinct_nodup (declarations.map (·.metadataName))
    rw [split] at nodup
    exact (List.nodup_append.mp nodup).2.2 name earlier name List.mem_cons_self rfl

/-- Of the types of less nesting a step finds all known ones. -/
theorem table_knows_outers (known : KnownNames)
    (sorted : declarations.Pairwise fun first second =>
      Names.nesting first.metadataName ≤ Names.nesting second.metadataName)
    {outer : String} (less : Names.nesting outer < Names.nesting name) :
    (tableAfter declarations references known before).any (·.metadataName = outer) = true ↔
      outer ∈ declarations.map (·.metadataName) ∨ outer ∈ references.keys := by
  have listed : (tableAfter declarations references known before).any (·.metadataName = outer) =
      true ↔ outer ∈ (tableAfter declarations references known before).map (·.metadataName) := by
    simp
  rw [listed, mem_table_names split]
  constructor
  · intro given
    rcases given with ⟨referred, -⟩ | earlier
    · exact .inr referred
    · apply Or.inl
      apply mem_distinct.mp
      rw [split]
      exact List.mem_append_left _ earlier
  · intro given
    by_cases isDeclared : outer ∈ declarations.map (·.metadataName)
    · exact .inr (declared_before sorted split isDeclared less)
    · rcases given with declared | referred
      · exact absurd declared isDeclared
      · exact .inl ⟨referred, isDeclared⟩

/-- The types that come later only go behind the symbol that a step adds. -/
theorem type_table_step (references : References) (known : KnownNames)
    {first : TypeDeclaration} {more : List TypeDeclaration}
    (parts : declarations.filter (fun declaration => declaration.metadataName = name) =
      first :: more) :
    ∃ others, typeTable declarations references known =
      tableAfter declarations references known before ++
        symbolOf (tableAfter declarations references known before)
          (interfacesOf declarations references known (first :: more)) first (first :: more) ::
          others := by
  have added : addDeclared declarations references known
      (tableAfter declarations references known before) name =
        tableAfter declarations references known before ++
          [symbolOf (tableAfter declarations references known before)
            (interfacesOf declarations references known (first :: more)) first (first :: more)] := by
    unfold addDeclared
    rw [parts]
  obtain ⟨others, grown⟩ := fold_declared_append declarations references known after
    (addDeclared declarations references known (tableAfter declarations references known before)
      name)
  refine ⟨others, ?_⟩
  rw [type_table_eq, split, List.foldl_append, List.foldl_cons]
  refine grown.trans ?_
  rw [added, List.append_assoc, List.singleton_append]

end Steps

/-- The symbol of a declared type is made from its parts, after all known types of less nesting. -/
theorem declared_symbol (references : References) (known : KnownNames)
    (sorted : declarations.Pairwise fun first second =>
      Names.nesting first.metadataName ≤ Names.nesting second.metadataName)
    {name : String} {first : TypeDeclaration} {more : List TypeDeclaration}
    (parts : declarations.filter (fun declaration => declaration.metadataName = name) =
      first :: more) :
    ∃ table, (typeTable declarations references known).find?
          (fun symbol => symbol.metadataName = name) =
        some (symbolOf table (interfacesOf declarations references known (first :: more)) first
          (first :: more)) ∧
      ∀ outer, Names.nesting outer < Names.nesting name →
        (table.any (·.metadataName = outer) = true ↔
          outer ∈ declarations.map (·.metadataName) ∨ outer ∈ references.keys) := by
  obtain ⟨firstInside, firstName⟩ : first ∈ declarations ∧ first.metadataName = name := by
    have listed : first ∈ declarations.filter fun declaration =>
        declaration.metadataName = name := by
      rw [parts]
      exact List.mem_cons_self
    exact ⟨(List.mem_filter.mp listed).1, of_decide_eq_true (List.mem_filter.mp listed).2⟩
  have declared : name ∈ declarations.map (·.metadataName) :=
    List.mem_map.mpr ⟨first, firstInside, firstName⟩
  obtain ⟨before, after, split⟩ := List.append_of_mem (mem_distinct.mpr declared)
  obtain ⟨others, whole⟩ := type_table_step split references known parts
  refine ⟨tableAfter declarations references known before, ?found,
    fun outer => table_knows_outers split known sorted⟩
  case found =>
    have fresh : (tableAfter declarations references known before).find?
        (fun symbol => symbol.metadataName = name) = none := by
      apply List.find?_eq_none.mpr
      intro symbol member same
      apply not_mem_table_names split known
      rw [← of_decide_eq_true same]
      exact List.mem_map_of_mem member
    rw [whole, List.find?_append, fresh, Option.none_or]
    exact List.find?_cons_of_pos (decide_eq_true firstName)

end Types

section Sources

variable {sources : List Source}

theorem mem_declarations {declaration : TypeDeclaration} :
    declaration ∈ declarationsOf sources ↔
      ∃ source ∈ sources, ∃ site ∈ source.sites, site.node.isTypeDeclaration = true ∧
        declaration = TypeDeclaration.ofSite source (globalUsings sources) site := by
  unfold declarationsOf TypeDeclaration.all
  rw [mem_by_nesting, List.mem_flatMap]
  constructor
  · intro member
    obtain ⟨source, listed, own⟩ := member
    obtain ⟨site, kept, same⟩ := List.mem_map.mp own
    obtain ⟨inside, isType⟩ := List.mem_filter.mp kept
    exact ⟨source, listed, site, inside, isType, same.symm⟩
  · intro found
    obtain ⟨source, listed, site, inside, isType, same⟩ := found
    refine ⟨source, listed, List.mem_map.mpr ⟨site, ?_, same.symm⟩⟩
    exact List.mem_filter.mpr ⟨inside, isType⟩

theorem declarations_sorted (sources : List Source) :
    (declarationsOf sources).Pairwise fun first second =>
      Names.nesting first.metadataName ≤ Names.nesting second.metadataName :=
  by_nesting_sorted _

theorem top_level_part (formed : ∀ source ∈ sources, source.WellFormed)
    {first : TypeDeclaration} (inside : first ∈ declarationsOf sources) {table : List TypeSymbol}
    (outers : ∀ outer ∈ (declarationsOf sources).map (·.metadataName),
      Names.nesting outer < Names.nesting first.metadataName →
        table.any (·.metadataName = outer) = true)
    (topLevel : (first.containing?.filter fun outer =>
      table.any (·.metadataName = outer)) = none) :
    ∃ segment, Names.Simple segment ∧ '+' ∉ first.space.toList ∧
      first.metadataName = Names.qualify first.space segment := by
  obtain ⟨source, listed, site, siteInside, isType, same⟩ := mem_declarations.mp inside
  have own := formed source listed
  have simple := Source.simple_type_segment (own.types site siteInside isType)
  obtain ⟨containing, name⟩ :=
    Source.declaration_names own.ordered siteInside (globalUsings sources)
  have space : first.space = (Surroundings.ofSite source site).space := by
    rw [same, Source.declaration_space]
  rw [← same] at containing name
  rcases Source.enclosing_cases own.ordered siteInside
      (own.covering site siteInside (.inl isType)) (globalUsings sources) with
    none | ⟨outer, outerInside, outerType, around, -⟩
  · refine ⟨source.typeSegment site.node, simple, ?_, ?_⟩
    · rw [space]
      exact Source.space_plusless (fun other isOther isSpace => (own.spaces other isOther isSpace).1)
        siteInside
    · rw [name, none, space]
      rfl
  · exfalso
    -- The type around it is declared with less nesting, so the table has it already.
    rw [around, List.head?_cons] at containing name
    have declared := List.mem_map_of_mem (f := TypeDeclaration.metadataName)
      (mem_declarations.mpr ⟨source, listed, outer, outerInside, outerType, rfl⟩)
    have less := Names.nesting_nest
      (TypeDeclaration.ofSite source (globalUsings sources) outer).metadataName
      (source.typeSegment site.node)
    have nested : first.metadataName = Names.nest
        (TypeDeclaration.ofSite source (globalUsings sources) outer).metadataName
        (source.typeSegment site.node) := name
    rw [← nested] at less
    rw [containing, Option.filter_some, if_pos (outers _ declared less)] at topLevel
    cases topLevel

theorem top_level_symbol {references : References} {program : Program}
    (built : Program.build sources references = .ok program)
    (formed : ∀ source ∈ sources, source.WellFormed) {name : String}
    (declared : name ∈ (declarationsOf sources).map (·.metadataName)) {symbol : TypeSymbol}
    (found : program.type? name = some symbol) (topLevel : symbol.isTopLevel = true) :
    symbol.metadataName = name ∧ ∃ segment, Names.Simple segment ∧ '+' ∉ symbol.space.toList ∧
      name = Names.qualify symbol.space segment := by
  obtain ⟨-, -, -, -, types⟩ := Program.build_eq built
  obtain ⟨first, more, parts, inside, firstName⟩ := declared_parts declared
  obtain ⟨table, lookedUp, outers⟩ :=
    declared_symbol references (knownNames (declarationsOf sources) references)
      (declarations_sorted sources) parts
  rw [Program.type?, types, lookedUp] at found
  have made := Option.some.inj found
  have unnested : (first.containing?.filter fun outer =>
      table.any (·.metadataName = outer)) = none := by
    rw [← made] at topLevel
    exact Option.isNone_iff_eq_none.mp topLevel
  rw [← firstName] at outers ⊢
  rw [← made]
  exact ⟨rfl, top_level_part formed inside
    (fun outer isDeclared less => (outers outer less).mpr (.inl isDeclared)) unnested⟩

end Sources

theorem Source.unnested_declaration {source : Source} (formed : source.WellFormed) {site : Site}
    (inside : site ∈ source.sites) (isType : site.node.isTypeDeclaration = true)
    (globals : List Using) {space segment : String} (simple : Names.Simple segment)
    (plusless : '+' ∉ space.toList)
    (name : (TypeDeclaration.ofSite source globals site).metadataName =
      Names.qualify space segment) :
    (source.scope globals site).enclosing = [] ∧
      (Surroundings.ofSite source site).space = space := by
  have own := (declaration_names formed.ordered inside globals).2
  rw [name] at own
  cases head : (source.scope globals site).enclosing.head? with
  | some outer =>
      exfalso
      rw [head] at own
      have clean := Names.plus_not_mem_qualify plusless simple.2.2
      rw [own] at clean
      exact clean (Names.plus_mem_nest outer _)
  | none =>
      rw [head] at own
      have ownSimple := simple_type_segment (formed.types site inside isType)
      have spaces := Names.qualify_space simple.2.1 ownSimple.2.1 own
      exact ⟨List.head?_eq_none_iff.mp head, spaces.symm⟩

theorem top_level_scope {sources : List Source} {references : References} {program : Program}
    (built : Program.build sources references = .ok program)
    (formed : ∀ source ∈ sources, source.WellFormed) {source : Source} (listed : source ∈ sources)
    {site : Site} (inside : site ∈ source.sites) (covering : site.node.start < site.node.stop)
    {symbol : TypeSymbol}
    (found : (program.scope source site).enclosing.head?.bind program.type? = some symbol)
    (topLevel : symbol.isTopLevel = true) :
    (program.scope source site).enclosing = [symbol.metadataName] ∧
      (Surroundings.ofSite source site).space = symbol.space := by
  have own := formed source listed
  unfold Program.scope at found ⊢
  rw [(Program.build_eq built).2.2.1] at found ⊢
  rcases Source.enclosing_cases own.ordered inside covering (globalUsings sources) with
    none | ⟨outer, outerInside, outerType, around, sameSpace⟩
  · rw [none] at found
    cases found
  · rw [around, List.head?_cons, Option.bind_some] at found
    have declared := List.mem_map_of_mem (f := TypeDeclaration.metadataName)
      (mem_declarations.mpr ⟨source, listed, outer, outerInside, outerType, rfl⟩)
    obtain ⟨symbolName, segment, simple, plusless, name⟩ :=
      top_level_symbol built formed declared found topLevel
    obtain ⟨unnested, space⟩ := Source.unnested_declaration own outerInside outerType
      (globalUsings sources) simple plusless name
    constructor
    · rw [around, unnested, symbolName]
    · rw [sameSpace, space]

end PropertyGen
