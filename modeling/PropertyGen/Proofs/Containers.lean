import Mathlib.Data.List.Sort
import PropertyGen.Proofs.FullNames
import PropertyGen.Proofs.RelativeUsings

/-!
Where the using directives around a site stand. The levels of a scope are the dotted beginnings of
the namespace, each declaration around the site gives its directives to one of them, and no
directive is lost, repeated or moved.
-/

namespace PropertyGen

namespace Names

theorem spaces_around_longer (space : String) :
    (spacesAround space).Pairwise fun outer inner => outer.length < inner.length := by
  unfold spacesAround dottedPrefixes
  rw [List.pairwise_map]
  apply List.Pairwise.imp_of_mem _ List.pairwise_lt_range
  intro first second _ listed before
  have bound := List.mem_range.mp listed
  have some : (spaceSegments space).take (first + 1) ≠ [] := by
    apply List.ne_nil_of_length_pos
    rw [List.length_take]
    omega
  have more : ((spaceSegments space).take (second + 1)).drop (first + 1) ≠ [] := by
    apply List.ne_nil_of_length_pos
    rw [List.length_drop, List.length_take]
    omega
  have whole := List.take_append_drop (first + 1) ((spaceSegments space).take (second + 1))
  rw [List.take_take, Nat.min_eq_left (by omega)] at whole
  rw [← whole, String.intercalate_append_of_ne_nil some more, String.length_append,
    String.length_append, show ".".length = 1 from rfl]
  omega

end Names

theorem flat_map_filter {α β : Type} {list : List α} {test : α → Bool} {give : α → List β}
    (bare : ∀ element ∈ list, test element = false → give element = []) :
    (list.filter test).flatMap give = list.flatMap give := by
  induction list with
  | nil => rfl
  | cons element list induction =>
      obtain ⟨own, others⟩ := List.forall_mem_cons.mp bare
      rw [List.filter_cons, List.flatMap_cons]
      cases kept : test element with
      | true => rw [if_pos rfl, List.flatMap_cons, induction others]
      | false => rw [if_neg Bool.false_ne_true, induction others, own kept, List.nil_append]

namespace Surroundings

section Blocks

variable {blocks : List (String × List Using)}

theorem mem_full_blocks {front : List String} (named : ∀ name ∈ front, name ≠ "")
    (each : ∀ block ∈ blocks, block.1 ≠ "") {full : String × List Using} :
    full ∈ fullBlocks (".".intercalate front) blocks ↔
      ∃ outer block inner, blocks = outer ++ block :: inner ∧
        full = (".".intercalate (front ++ (outer ++ [block]).map (·.1)), block.2) := by
  induction blocks generalizing front with
  | nil =>
      constructor
      · exact fun none => absurd none List.not_mem_nil
      · rintro ⟨outer, block, inner, none, -⟩
        exact absurd none.symm (List.append_ne_nil_of_right_ne_nil _ (List.cons_ne_nil _ _))
  | cons first blocks induction =>
      obtain ⟨own, others⟩ := List.forall_mem_cons.mp each
      have longer : ∀ name ∈ front ++ [first.1], name ≠ "" :=
        List.forall_mem_append.mpr ⟨named, List.forall_mem_singleton.mpr own⟩
      rw [fullBlocks, Names.qualify_joined named, List.mem_cons, induction longer others]
      constructor
      · rintro (same | ⟨outer, block, inner, rfl, rfl⟩)
        · exact ⟨[], first, blocks, rfl, same⟩
        · exact ⟨first :: outer, block, inner, rfl, by simp⟩
      · rintro ⟨outer, block, inner, whole, rfl⟩
        cases outer with
        | nil =>
            obtain ⟨rfl, -⟩ := List.cons_eq_cons.mp whole
            exact .inl rfl
        | cons outermost outer =>
            obtain ⟨rfl, rfl⟩ := List.cons_eq_cons.mp whole
            exact .inr ⟨outer, block, inner, rfl, by simp⟩

theorem full_blocks_sorted (named : ∀ block ∈ blocks, block.1 ≠ "") (outer : String) :
    ((fullBlocks outer blocks).map (·.1)).Pairwise fun outer inner =>
      outer.length < inner.length := by
  induction blocks generalizing outer with
  | nil => exact .nil
  | cons first inner induction =>
      obtain ⟨-, others⟩ := List.forall_mem_cons.mp named
      refine List.pairwise_cons.mpr ⟨fun name listed => ?_, induction others _⟩
      obtain ⟨block, deeper, rfl⟩ := List.mem_map.mp listed
      exact full_blocks_longer others _ block deeper

theorem map_full_blocks (outer : String) :
    (fullBlocks outer blocks).map (·.2) = blocks.map (·.2) := by
  induction blocks generalizing outer with
  | nil => rfl
  | cons first inner induction => rw [fullBlocks, List.map_cons, List.map_cons, induction]

theorem fold_qualify {front : List String} (named : ∀ name ∈ front, name ≠ "")
    (each : ∀ block ∈ blocks, block.1 ≠ "") :
    blocks.foldl (fun outer block => Names.qualify outer block.1) (".".intercalate front) =
      ".".intercalate (front ++ blocks.map (·.1)) := by
  induction blocks generalizing front with
  | nil => rw [List.map_nil, List.append_nil]; rfl
  | cons first blocks induction =>
      obtain ⟨own, others⟩ := List.forall_mem_cons.mp each
      have longer : ∀ name ∈ front ++ [first.1], name ≠ "" :=
        List.forall_mem_append.mpr ⟨named, List.forall_mem_singleton.mpr own⟩
      rw [List.foldl_cons, Names.qualify_joined named, induction longer others, List.append_assoc]
      rfl

end Blocks

section Levels

variable {surroundings : Surroundings} (named : ∀ block ∈ surroundings.spaces, block.1 ≠ "")
include named

theorem space_eq_joined :
    surroundings.space = ".".intercalate (surroundings.spaces.map (·.1)).reverse := by
  have each : ∀ block ∈ surroundings.spaces.reverse, block.1 ≠ "" :=
    fun block listed => named block (List.mem_reverse.mp listed)
  have folded := @fold_qualify surroundings.spaces.reverse [] (by simp) each
  rw [List.map_reverse] at folded
  exact folded

/-- The blocks are declared with the names of all the blocks around them. -/
theorem declared_space_iff {full : String × List Using} :
    full ∈ surroundings.declaredSpaces ↔
      ∃ inner block outer, surroundings.spaces = inner ++ block :: outer ∧
        full = (".".intercalate ((block :: outer).map (·.1)).reverse, block.2) := by
  have each : ∀ block ∈ surroundings.spaces.reverse, block.1 ≠ "" :=
    fun block listed => named block (List.mem_reverse.mp listed)
  rw [declared_spaces_eq, show "" = ".".intercalate [] from rfl, mem_full_blocks (by simp) each]
  constructor
  · rintro ⟨outer, block, inner, whole, rfl⟩
    have own := congrArg List.reverse whole
    rw [List.reverse_reverse, List.reverse_append, List.reverse_cons, List.append_assoc] at own
    refine ⟨inner.reverse, block, outer.reverse, own, ?_⟩
    rw [← List.map_reverse, List.reverse_cons, List.reverse_reverse]
    rfl
  · rintro ⟨inner, block, outer, whole, rfl⟩
    refine ⟨outer.reverse, block, inner.reverse, ?_, ?_⟩
    · rw [whole, List.reverse_append, List.reverse_cons, List.append_assoc]
      rfl
    · rw [← List.map_reverse, List.reverse_cons]
      rfl

theorem declared_space_around : ∀ block ∈ surroundings.declaredSpaces,
    block.1 ∈ Names.spacesAround surroundings.space := by
  intro block listed
  rw [declared_spaces_eq] at listed
  exact Names.mem_spaces_around.mpr (full_blocks_around
    (fun block listed => named block (List.mem_reverse.mp listed)) "" block listed)

theorem filter_spaces_around :
    (Names.spacesAround surroundings.space).filter
        (fun space => surroundings.declaredSpaces.any fun block => block.1 = space) =
      surroundings.declaredSpaces.map (·.1) := by
  have each : ∀ block ∈ surroundings.spaces.reverse, block.1 ≠ "" :=
    fun block listed => named block (List.mem_reverse.mp listed)
  have sorted := full_blocks_sorted each ""
  rw [← declared_spaces_eq] at sorted
  have irreflexive : Std.Irrefl fun outer inner : String => outer.length < inner.length :=
    ⟨fun space => lt_irrefl space.length⟩
  have antisymmetric : Std.Antisymm fun outer inner : String => outer.length < inner.length :=
    ⟨fun _ _ before after => absurd after (lt_asymm before)⟩
  apply List.Pairwise.eq_of_mem_iff ((Names.spaces_around_longer _).filter _) sorted
  intro space
  rw [List.mem_filter, List.any_eq_true, List.mem_map]
  constructor
  · rintro ⟨-, block, listed, same⟩
    exact ⟨block, listed, of_decide_eq_true same⟩
  · rintro ⟨block, listed, rfl⟩
    exact ⟨declared_space_around named block listed, block, listed, decide_eq_true rfl⟩

omit named in
theorem directives_at_undeclared {space : String}
    (none : ∀ block ∈ surroundings.declaredSpaces, block.1 ≠ space) :
    surroundings.directivesAt space = [] := by
  unfold directivesAt usingsOf
  rw [List.find?_eq_none.mpr]
  · rfl
  · intro block listed same
    exact none block (List.mem_reverse.mp listed) (of_decide_eq_true same)

theorem local_directives_eq :
    surroundings.localDirectives =
      (surroundings.spaces.flatMap fun block =>
        block.2.filter fun directive => !directive.isGlobal) ++ surroundings.unitDirectives := by
  have bare : ∀ space ∈ (Names.spacesAround surroundings.space).reverse,
      (surroundings.declaredSpaces.any fun block => block.1 = space) = false →
        surroundings.directivesAt space = [] := by
    intro space _ none
    apply directives_at_undeclared
    intro block listed same
    exact List.any_eq_false.mp none block listed (decide_eq_true same)
  have own : surroundings.declaredSpaces.reverse.flatMap (fun block =>
      surroundings.directivesAt block.1) = surroundings.declaredSpaces.reverse.flatMap fun block =>
        block.2.filter fun directive => !directive.isGlobal := by
    apply List.flatMap_congr
    intro block listed
    exact directives_at_block named (List.mem_reverse.mp listed)
  have blocks : surroundings.declaredSpaces.reverse.map (·.2) =
      surroundings.spaces.map (·.2) := by
    rw [declared_spaces_eq, List.map_reverse, map_full_blocks, ← List.map_reverse,
      List.reverse_reverse]
  unfold localDirectives
  rw [← flat_map_filter bare, List.filter_reverse, filter_spaces_around named, ← List.map_reverse,
    List.flatMap_map, own, ← List.flatMap_map, blocks, List.flatMap_map]

end Levels

end Surroundings

/-- The tree of a compilation unit, with no other unit in it, in which all namespaces have names. -/
structure Source.OneUnit (source : Source) : Prop where
  root : source.root.kind = "compilation_unit"
  below : ∀ site ∈ source.sites, site.node.kind = "compilation_unit" → site.path.isEmpty = true
  named : ∀ site ∈ source.sites, site.node.isSpaceDeclaration = true →
    source.declaredName site.node ≠ ""

instance (source : Source) : Decidable source.OneUnit :=
  decidable_of_iff (_ ∧ _ ∧ _) ⟨fun ⟨root, below, named⟩ => ⟨root, below, named⟩,
    fun unit => ⟨unit.root, unit.below, unit.named⟩⟩

def Site.containers (site : Site) : List Node := site.ancestors.filter Node.isSpaceDeclaration

theorem Site.containers_root {site : Site} (atRoot : site.path = []) : site.containers = [] := by
  unfold containers ancestors
  rw [atRoot]
  rfl

namespace Source

variable (source : Source)

def directivesOf (declaration : Node) : List Using :=
  if declaration.kind = "namespace_declaration" then (declaration.body?.map source.usingsIn).getD []
  else source.usingsIn declaration

def blockOf (declaration : Node) : String × List Using :=
  (source.declaredName declaration, source.directivesOf declaration)

def fileScoped? (site : Site) : Option Node :=
  Surroundings.fileScopedBefore? source.root site.node.start

/-- The namespaces around a site with their directives, innermost first. The members of a
file-scoped namespace may stand behind it, and then its directives are those of the unit. -/
def blocksAround (site : Site) : List (String × List Using) :=
  if site.containers = [] then
    ((source.fileScoped? site).map fun declaration => (source.declaredName declaration, [])).toList
  else site.containers.map source.blockOf

end Source

namespace Surroundings

variable {source : Source} {offset : Nat} {surroundings : Surroundings} {ancestor : Node}

/-- Below the unit the declarations of namespaces are collected, and nothing else is. -/
theorem add_below_unit (notUnit : ancestor.kind ≠ "compilation_unit") :
    (addAncestor source offset surroundings ancestor).spaces =
        surroundings.spaces ++ ([ancestor].filter Node.isSpaceDeclaration).map source.blockOf ∧
      (addAncestor source offset surroundings ancestor).unitUsings = surroundings.unitUsings := by
  have kinds : ∀ kind ∈ typeDeclarationKinds, kind ≠ "namespace_declaration" ∧
      kind ≠ "file_scoped_namespace_declaration" := by decide
  unfold addAncestor Source.blockOf Source.directivesOf
  rw [List.filter_singleton]
  unfold Node.isSpaceDeclaration
  by_cases isType : ancestor.isTypeDeclaration = true
  · obtain ⟨notBlock, notFile⟩ := kinds _ (List.contains_iff_mem.mp isType)
    rw [if_pos isType, decide_eq_false notBlock, decide_eq_false notFile]
    exact ⟨(List.append_nil _).symm, rfl⟩
  · rw [if_neg isType]
    by_cases isBlock : ancestor.kind = "namespace_declaration"
    · rw [if_pos isBlock, decide_eq_true isBlock, Bool.true_or, cond_true, List.map_singleton,
        if_pos isBlock]
      exact ⟨rfl, rfl⟩
    · rw [if_neg isBlock, decide_eq_false isBlock, Bool.false_or]
      by_cases isFile : ancestor.kind = "file_scoped_namespace_declaration"
      · rw [if_pos isFile, decide_eq_true isFile, cond_true, List.map_singleton, if_neg isBlock]
        exact ⟨rfl, rfl⟩
      · rw [if_neg isFile, if_neg notUnit, decide_eq_false isFile, cond_false]
        exact ⟨(List.append_nil _).symm, rfl⟩

theorem fold_below_unit {ancestors : List Node}
    (notUnit : ∀ ancestor ∈ ancestors, ancestor.kind ≠ "compilation_unit") :
    (ancestors.foldl (addAncestor source offset) surroundings).spaces =
        surroundings.spaces ++ (ancestors.filter Node.isSpaceDeclaration).map source.blockOf ∧
      (ancestors.foldl (addAncestor source offset) surroundings).unitUsings =
        surroundings.unitUsings := by
  induction ancestors generalizing surroundings with
  | nil => exact ⟨(List.append_nil _).symm, rfl⟩
  | cons ancestor ancestors induction =>
      obtain ⟨own, others⟩ := List.forall_mem_cons.mp notUnit
      obtain ⟨spaces, unitUsings⟩ := induction others
      obtain ⟨first, firstUnit⟩ := add_below_unit own
      rw [List.foldl_cons, spaces, unitUsings, first, firstUnit, List.append_assoc,
        ← List.map_append, ← List.filter_append]
      exact ⟨rfl, rfl⟩

/-- At the unit the file-scoped namespace beside a site counts if the site is in none. -/
theorem add_unit (isUnit : ancestor.kind = "compilation_unit") :
    (addAncestor source offset surroundings ancestor).spaces =
        surroundings.spaces ++ (if surroundings.spaces = [] then
          ((fileScopedBefore? ancestor offset).map fun declaration =>
            (source.declaredName declaration, [])).toList else []) ∧
      (addAncestor source offset surroundings ancestor).unitUsings = source.usingsIn ancestor := by
  unfold addAncestor Node.isTypeDeclaration
  rw [isUnit, if_neg (by decide), if_neg (by decide), if_neg (by decide), if_pos rfl]
  dsimp only
  by_cases none : surroundings.spaces = []
  · rw [if_pos none, if_pos (List.isEmpty_iff.mpr none)]
    cases fileScopedBefore? ancestor offset with
    | none => exact ⟨(List.append_nil _).symm, rfl⟩
    | some declaration => exact ⟨rfl, rfl⟩
  · rw [if_neg none, if_neg fun empty => none (List.isEmpty_iff.mp empty)]
    exact ⟨(List.append_nil _).symm, rfl⟩

end Surroundings

namespace Source

variable {source : Source}

theorem OneUnit.ancestors (unit : source.OneUnit) {site : Site} (inside : site ∈ source.sites)
    (deeper : site.path ≠ []) :
    ∃ between, site.ancestors = between ++ [source.root] ∧
      ∀ ancestor ∈ between, ancestor.kind ≠ "compilation_unit" := by
  have reached := mem_sites.mp inside
  clear inside
  induction reached with
  | here => exact absurd rfl deeper
  | @down above child reached step induction =>
      rw [Site.ancestors_of_child step]
      by_cases isRoot : above.path = []
      · have same : above = Site.root source.root := by
          cases reached with
          | here => rfl
          | down _ other =>
              obtain ⟨before, later, -, path⟩ := Site.child_step other
              rw [path] at isRoot
              cases isRoot
        rw [same]
        exact ⟨[], rfl, fun _ none => absurd none List.not_mem_nil⟩
      · obtain ⟨between, own, others⟩ := induction isRoot
        refine ⟨above.node :: between, congrArg (above.node :: ·) own, ?_⟩
        refine List.forall_mem_cons.mpr ⟨fun isUnit => isRoot ?_, others⟩
        exact List.isEmpty_iff.mp (unit.below above (mem_sites.mpr reached) isUnit)

section InUnit

variable {site : Site} {between : List Node} (isUnit : source.root.kind = "compilation_unit")
  (ancestors : site.ancestors = between ++ [source.root])
include isUnit ancestors

theorem containers_in_unit : site.containers = between.filter Node.isSpaceDeclaration := by
  have notSpace : source.root.isSpaceDeclaration = false := by
    unfold Node.isSpaceDeclaration
    rw [isUnit]
    rfl
  unfold Site.containers
  rw [ancestors, List.filter_append, List.filter_singleton, notSpace, cond_false, List.append_nil]

theorem surroundings_in_unit (notUnit : ∀ node ∈ between, node.kind ≠ "compilation_unit") :
    (Surroundings.ofSite source site).spaces = source.blocksAround site ∧
      (Surroundings.ofSite source site).unitUsings = source.usingsIn source.root := by
  have containers := containers_in_unit isUnit ancestors
  have spaces : (between.foldl (Surroundings.addAncestor source site.node.start)
      Surroundings.none).spaces = site.containers.map source.blockOf := by
    rw [containers]
    exact (Surroundings.fold_below_unit notUnit).1
  obtain ⟨all, unitUsings⟩ := @Surroundings.add_unit source site.node.start
    (between.foldl (Surroundings.addAncestor source site.node.start) Surroundings.none) source.root
    isUnit
  unfold Surroundings.ofSite
  rw [ancestors, List.foldl_append, List.foldl_cons, List.foldl_nil, all, unitUsings, spaces]
  refine ⟨?_, rfl⟩
  unfold blocksAround
  by_cases none : site.containers = []
  · rw [none, if_pos rfl]
    rfl
  · rw [if_neg none, if_neg fun empty => none (List.map_eq_nil_iff.mp empty), List.append_nil]

end InUnit

theorem OneUnit.surroundings (unit : source.OneUnit) {site : Site} (inside : site ∈ source.sites)
    (deeper : site.path ≠ []) :
    (Surroundings.ofSite source site).spaces = source.blocksAround site ∧
      (Surroundings.ofSite source site).unitUsings = source.usingsIn source.root := by
  obtain ⟨between, ancestors, notUnit⟩ := unit.ancestors inside deeper
  exact surroundings_in_unit unit.root ancestors notUnit

theorem OneUnit.blocks_named (unit : source.OneUnit) {site : Site} (inside : site ∈ source.sites) :
    ∀ block ∈ (Surroundings.ofSite source site).spaces, block.1 ≠ "" := by
  intro block listed
  obtain ⟨space, spaceInside, isSpace, name⟩ := space_declared inside block listed
  rw [← name]
  exact unit.named space spaceInside isSpace

variable (source)

def localsOf (declaration : Node) : List Using :=
  (source.directivesOf declaration).filter fun directive => !directive.isGlobal

def unitLocals : List Using :=
  (source.usingsIn source.root).filter fun directive => !directive.isGlobal

def unitGlobals : List Using := (source.usingsIn source.root).filter (·.isGlobal)

def fullName (declarations : List Node) : String :=
  ".".intercalate (declarations.map source.declaredName).reverse

def fullSpace (site : Site) : String :=
  ".".intercalate ((source.blocksAround site).map (·.1)).reverse

/-- How the directives around a site stand in the levels of its scope. -/
structure LevelsFit (globals : List Using) (site : Site) (scope : Scope) : Prop where
  /-- The namespaces are all dotted beginnings of the full one, the longest first. -/
  spaces : scope.levels.map (·.space) =
    (Names.spacesAround (source.fullSpace site)).reverse ++ [""]
  /-- The directives of each declaration that contains the site are those of its level. -/
  contained : ∀ inner container outer, site.containers = inner ++ container :: outer →
    ⟨source.fullName (container :: outer), source.localsOf container⟩ ∈ scope.levels.dropLast
  /-- This level is the only one of its namespace. -/
  once : (scope.levels.dropLast.map (·.space)).Nodup
  /-- The directives of the unit stand in the last level, before the global ones. -/
  outermost : scope.levels.getLast? = some ⟨"", source.unitLocals ++ globals⟩
  /-- No other level has directives. -/
  bare : ∀ level ∈ scope.levels.dropLast,
    (∀ inner container outer, site.containers = inner ++ container :: outer →
      level.space ≠ source.fullName (container :: outer)) → level.usings = []
  /-- In the order of the levels these are the directives of all containers, each once. -/
  locals : scope.localUsings = site.containers.flatMap source.localsOf ++ source.unitLocals

variable {source}

theorem blocks_of_containers {site : Site} {inner outer : List Node} {container : Node}
    (split : site.containers = inner ++ container :: outer) :
    source.blocksAround site =
      inner.map source.blockOf ++ source.blockOf container :: outer.map source.blockOf := by
  unfold blocksAround
  rw [if_neg, split, List.map_append, List.map_cons]
  rw [split]
  exact List.append_ne_nil_of_right_ne_nil _ (List.cons_ne_nil _ _)

/-- Only the containers of a site give directives to the namespaces around it. -/
theorem locals_of_blocks (site : Site) :
    ((source.blocksAround site).flatMap fun block =>
      block.2.filter fun directive => !directive.isGlobal) =
        site.containers.flatMap source.localsOf := by
  unfold blocksAround
  by_cases none : site.containers = []
  · rw [if_pos none, none]
    cases source.fileScoped? site <;> rfl
  · rw [if_neg none, List.flatMap_map]
    rfl

theorem directives_at_other {site : Site}
    (named : ∀ block ∈ (Surroundings.ofSite source site).spaces, block.1 ≠ "")
    (spaces : (Surroundings.ofSite source site).spaces = source.blocksAround site) {space : String}
    (apart : ∀ inner container outer, site.containers = inner ++ container :: outer →
      space ≠ source.fullName (container :: outer)) :
    (Surroundings.ofSite source site).directivesAt space = [] := by
  by_cases declared : ∃ usings, (space, usings) ∈ (Surroundings.ofSite source site).declaredSpaces
  · obtain ⟨usings, declared⟩ := declared
    rw [Surroundings.directives_at_block named declared]
    obtain ⟨inner, block, outer, split, own⟩ := (Surroundings.declared_space_iff named).mp declared
    obtain ⟨name, rfl⟩ := Prod.mk.inj own
    rw [spaces] at split
    unfold blocksAround at split
    by_cases none : site.containers = []
    · -- the block is the file-scoped namespace that the site follows
      rw [if_pos none] at split
      have listed : block ∈ inner ++ block :: outer := List.mem_append_right _ List.mem_cons_self
      rw [← split, Option.mem_toList] at listed
      obtain ⟨declaration, -, rfl⟩ := Option.map_eq_some_iff.mp listed
      rfl
    · rw [if_neg none] at split
      obtain ⟨before, after, containers, -, others⟩ := List.map_eq_append_iff.mp split
      obtain ⟨container, behind, rfl, rfl, rfl⟩ := List.map_eq_cons_iff.mp others
      refine absurd ?_ (apart before container behind containers)
      rw [name]
      unfold fullName
      rw [List.map_cons, List.map_cons, List.map_map]
      rfl
  · apply Surroundings.directives_at_undeclared
    rintro block listed rfl
    exact declared ⟨block.2, listed⟩

theorem container_declared {site : Site}
    (named : ∀ block ∈ (Surroundings.ofSite source site).spaces, block.1 ≠ "")
    (spaces : (Surroundings.ofSite source site).spaces = source.blocksAround site)
    {inner outer : List Node} {container : Node}
    (split : site.containers = inner ++ container :: outer) :
    (source.fullName (container :: outer), source.directivesOf container) ∈
      (Surroundings.ofSite source site).declaredSpaces := by
  rw [Surroundings.declared_space_iff named, spaces, blocks_of_containers split]
  refine ⟨_, _, _, rfl, ?_⟩
  unfold fullName
  rw [List.map_cons, List.map_cons, List.map_map]
  rfl

theorem OneUnit.levels_fit (unit : source.OneUnit) {site : Site} (inside : site ∈ source.sites)
    (deeper : site.path ≠ []) {globals : List Using}
    (isGlobal : ∀ directive ∈ globals, directive.isGlobal = true) :
    source.LevelsFit globals site (source.scope globals site) := by
  have named := unit.blocks_named inside
  obtain ⟨spaces, unitUsings⟩ := unit.surroundings inside deeper
  have full : (Surroundings.ofSite source site).space = source.fullSpace site := by
    rw [Surroundings.space_eq_joined named, spaces]
    rfl
  have unitDirectives : (Surroundings.ofSite source site).unitDirectives = source.unitLocals := by
    unfold Surroundings.unitDirectives
    rw [unitUsings]
    rfl
  have levels := (Surroundings.ofSite source site).levels_eq globals
  rw [full, unitDirectives] at levels
  have inner : (source.scope globals site).levels.dropLast =
      (Names.spacesAround (source.fullSpace site)).reverse.map fun space =>
        { space, usings := (Surroundings.ofSite source site).directivesAt space } := by
    unfold Source.scope
    rw [levels, List.dropLast_concat]
  constructor
  case spaces =>
    unfold Source.scope
    rw [levels, List.map_append, List.map_map]
    exact congrArg (· ++ [""]) (List.map_id _)
  case contained =>
    intro inside container outer split
    have declared := container_declared named spaces split
    have around := Surroundings.declared_space_around named _ declared
    rw [full] at around
    rw [inner]
    refine List.mem_map.mpr ⟨_, List.mem_reverse.mpr around, ?_⟩
    rw [Surroundings.directives_at_block named declared]
    rfl
  case once =>
    rw [inner, List.map_map]
    refine (List.nodup_reverse.mpr ?_).map fun _ _ same => same
    exact (Names.spaces_around_longer _).imp fun longer same => by
      rw [same] at longer
      exact lt_irrefl _ longer
  case outermost =>
    unfold Source.scope
    rw [levels, List.getLast?_concat]
  case bare =>
    intro level listed apart
    rw [inner] at listed
    obtain ⟨space, -, rfl⟩ := List.mem_map.mp listed
    exact directives_at_other named spaces apart
  case locals =>
    unfold Source.scope
    rw [Surroundings.local_usings_eq _ _ isGlobal, Surroundings.local_directives_eq named, spaces,
      unitDirectives, locals_of_blocks]

end Source

namespace Source

variable {source : Source}

theorem levels_at_root (globals : List Using) :
    (source.scope globals (Site.root source.root)).levels = [⟨"", globals⟩] := rfl

theorem root_misfit {globals : List Using} (some : source.unitLocals ≠ []) :
    ¬ source.LevelsFit globals (Site.root source.root)
      (source.scope globals (Site.root source.root)) := by
  intro fit
  have last := fit.outermost
  rw [levels_at_root] at last
  obtain ⟨-, same⟩ := Level.mk.inj (Option.some.inj last)
  exact some (List.self_eq_append_left.mp same)

theorem parent_inside {site above : Site} (inside : site ∈ source.sites)
    (parent : site.parent? = some above) : above ∈ source.sites := by
  cases mem_sites.mp inside with
  | here => cases parent
  | down reached step =>
      rw [Site.parent_of_child step] at parent
      rw [← Option.some.inj parent]
      exact mem_sites.mpr reached

theorem field_below_unit (isUnit : source.root.kind = "compilation_unit")
    {declarator site declaration : Site} (inside : declarator ∈ source.sites)
    (field : Program.fieldOf? declarator = some (site, declaration)) :
    site ∈ source.sites ∧ site.path ≠ [] := by
  unfold Program.fieldOf? at field
  obtain ⟨between, above, field⟩ := Option.bind_eq_some_iff.mp field
  obtain ⟨further, outer, field⟩ := Option.bind_eq_some_iff.mp field
  obtain ⟨isField, same⟩ := Option.ite_none_right_eq_some.mp field
  obtain ⟨rfl, rfl⟩ := Prod.mk.inj (Option.some.inj same)
  have listed := parent_inside (parent_inside inside above) outer
  refine ⟨listed, fun noPath => ?_⟩
  cases mem_sites.mp listed with
  | here =>
      rw [show (Site.root source.root).node = source.root from rfl, isUnit] at isField
      exact absurd isField (by decide)
  | down _ step =>
      obtain ⟨before, later, -, path⟩ := Site.child_step step
      rw [path] at noPath
      cases noPath

end Source

theorem Program.Arises.globals_eq {program : Program} (arisen : program.Arises) :
    program.globals = program.sources.flatMap Source.unitGlobals :=
  (Program.build_eq arisen.built).2.2.1

theorem unit_globals_global {sources : List Source} :
    ∀ directive ∈ sources.flatMap Source.unitGlobals, directive.isGlobal = true := by
  intro directive listed
  obtain ⟨source, -, own⟩ := List.mem_flatMap.mp listed
  exact (List.mem_filter.mp own).2

/-- No directive is lost, repeated or moved on the way into a scope: below the unit each container
of a site gives its directives to the level of its own full name, and the unit gives its to the
last one, where the global directives of all units follow. The directives of a field are those of
its containers and of the unit, each once. -/
theorem levels_carry_directives {program : Program} (arisen : program.Arises) {source : Source}
    (unit : source.OneUnit) :
    (∀ site ∈ source.sites, site.path ≠ [] →
      source.LevelsFit (program.sources.flatMap Source.unitGlobals) site
        (program.scope source site)) ∧
    (program.scope source (Site.root source.root)).levels =
      [⟨"", program.sources.flatMap Source.unitGlobals⟩] ∧
    ∀ declarator ∈ source.sites, ∀ symbol,
      (program.fieldSymbol? source declarator).outcome = .ok (some symbol) →
        ∃ site declaration, Program.fieldOf? declarator = some (site, declaration) ∧
          symbol.usings = site.containers.flatMap source.localsOf ++ source.unitLocals := by
  have fits : ∀ site ∈ source.sites, site.path ≠ [] →
      source.LevelsFit (program.sources.flatMap Source.unitGlobals) site
        (program.scope source site) := by
    intro site inside deeper
    unfold Program.scope
    rw [arisen.globals_eq]
    exact unit.levels_fit inside deeper unit_globals_global
  refine ⟨fits, ?_, ?_⟩
  · rw [← arisen.globals_eq]
    exact Source.levels_at_root program.globals
  · intro declarator inside symbol found
    obtain ⟨site, declaration, field, -, usings, -⟩ := Program.field_symbol_scope found
    obtain ⟨listed, deeper⟩ := Source.field_below_unit unit.root inside field
    exact ⟨site, declaration, field, usings.trans (fits site listed deeper).locals⟩

section Samples

open Marker (branch token leaf fieldLeaf fieldBranch)

def importDirective (start : Nat) : Node :=
  branch "using_directive" start (start + 8) [
    token "using" start (start + 5),
    leaf "identifier" (start + 6) (start + 7),
    token ";" (start + 7) (start + 8)]

def importOf (space : String) : Using :=
  { target := space
    alias? := none
    isGlobal := false
    isStatic := false
    text := "using " ++ space ++ ";" }

def importsInBlocks : Source :=
  { path := "F0.cs"
    bytes := Text.Utf8.encode ("using U; namespace A.B \x7b using V; namespace C \x7b using W; "
      ++ "class T \x7b F f; \x7d \x7d \x7d")
    root :=
      branch "compilation_unit" 0 80 [
        importDirective 0,
        branch "namespace_declaration" 9 80 [
          token "namespace" 9 18,
          dottedName 19,
          fieldBranch "declaration_list" "body" 23 80 [
            token "\x7b" 23 24,
            importDirective 25,
            blockWith 34 1 78 [
              importDirective 48,
              classWith 57 1 76 [
                branch "field_declaration" 67 71 [
                  branch "variable_declaration" 67 70 [
                    fieldLeaf "identifier" "type" 67 68,
                    branch "variable_declarator" 69 70 [
                      fieldLeaf "identifier" "name" 69 70]],
                  token ";" 70 71]]],
            token "\x7d" 79 80]]] }

def globalImport : Source :=
  { path := "F1.cs"
    bytes := Text.Utf8.encode "using H; global using G;"
    root :=
      branch "compilation_unit" 0 24 [
        importDirective 0,
        branch "using_directive" 9 24 [
          token "global" 9 15,
          token "using" 16 21,
          leaf "identifier" 22 23,
          token ";" 23 24]] }

def globalImportOf (space : String) : Using :=
  { target := space
    alias? := none
    isGlobal := true
    isStatic := false
    text := "global using " ++ space ++ ";" }

theorem levels_carry_directives_dotted :
    ∃ program, (Program.create [importsInBlocks, globalImport] []).outcome = .ok program ∧
      importsInBlocks.OneUnit ∧
      ∃ declarator ∈ importsInBlocks.sites, declarator.path ≠ [] ∧
        (program.scope importsInBlocks declarator).levels =
          [⟨"A.B.C", [importOf "W"]⟩, ⟨"A.B", [importOf "V"]⟩, ⟨"A", []⟩,
            ⟨"", [importOf "U", globalImportOf "G"]⟩] ∧
        importsInBlocks.LevelsFit [globalImportOf "G"] declarator
          (program.scope importsInBlocks declarator) ∧
        ∃ symbol, (program.fieldSymbol? importsInBlocks declarator).outcome = .ok (some symbol) ∧
          symbol.usings = [importOf "W", importOf "V", importOf "U"] := by
  have found : ((Program.build [importsInBlocks, globalImport] []).toOption.any fun program =>
      importsInBlocks.sites.any fun declarator =>
        decide ((program.scope importsInBlocks declarator).levels =
          [⟨"A.B.C", [importOf "W"]⟩, ⟨"A.B", [importOf "V"]⟩, ⟨"A", []⟩,
            ⟨"", [importOf "U", globalImportOf "G"]⟩]) &&
        (!declarator.path.isEmpty &&
          ((program.fieldSymbol? importsInBlocks declarator).outcome.toOption.any Option.isSome &&
        (Program.fieldOf? declarator).any fun field =>
          field.1.containers.flatMap importsInBlocks.localsOf ++ importsInBlocks.unitLocals =
            [importOf "W", importOf "V", importOf "U"]))) = true := by
    decide +kernel
  have unit : importsInBlocks.OneUnit := by decide +kernel
  have globals : [importsInBlocks, globalImport].flatMap Source.unitGlobals =
      [globalImportOf "G"] := by decide +kernel
  obtain ⟨program, built, found⟩ := except_any_returns found
  obtain ⟨declarator, inside, found⟩ := List.any_eq_true.mp found
  obtain ⟨levels, found⟩ := (Bool.and_eq_true _ _).mp found
  obtain ⟨deeper, found⟩ := (Bool.and_eq_true _ _).mp found
  obtain ⟨declared, around⟩ := (Bool.and_eq_true _ _).mp found
  obtain ⟨symbol?, returned, isSymbol⟩ := except_any_returns declared
  obtain ⟨symbol, rfl⟩ := Option.isSome_iff_exists.mp isSymbol
  have created := Program.create_returns.mpr built
  obtain ⟨fits, atRoot, usings⟩ := levels_carry_directives (.created created) unit
  have deeper : declarator.path ≠ [] := by
    intro noPath
    rw [noPath] at deeper
    cases deeper
  obtain ⟨site, declaration, field, own⟩ := usings declarator inside symbol returned
  rw [field] at around
  have fit := fits declarator inside deeper
  rw [(Program.build_eq built).1, globals] at fit
  exact ⟨program, created, unit, declarator, inside, deeper, of_decide_eq_true levels, fit, symbol,
    returned, own.trans (of_decide_eq_true around)⟩

def unitInUnit : Source :=
  { path := "F0.cs"
    bytes := Text.Utf8.encode "using U; using V; class T \x7b \x7d"
    root :=
      branch "compilation_unit" 0 29 [
        importDirective 0,
        branch "compilation_unit" 9 29 [
          importDirective 9,
          classWith 18 1 29 []]] }

def globalInBlock : Source :=
  { path := "F0.cs"
    bytes := Text.Utf8.encode "namespace N \x7b global using X; class T \x7b \x7d \x7d"
    root :=
      branch "compilation_unit" 0 43 [
        blockWith 0 1 43 [
          branch "using_directive" 14 29 [
            token "global" 14 20,
            token "using" 21 26,
            leaf "identifier" 27 28,
            token ";" 28 29],
          classWith 30 1 41 []]] }

/-- The root of a unit misses the directives of that unit, what is in a unit in another one misses
those of the unit that it is in, and everything misses the global ones of a block. -/
theorem directives_missing :
    (∃ program source, (Program.create [source] []).outcome = .ok program ∧
      source.OneUnit ∧ source.unitLocals ≠ [] ∧
      ¬ source.LevelsFit (program.sources.flatMap Source.unitGlobals) (Site.root source.root)
        (program.scope source (Site.root source.root))) ∧
    (∃ program source, (Program.create [source] []).outcome = .ok program ∧
      source.root.kind = "compilation_unit" ∧
      (∀ site ∈ source.sites, site.node.isSpaceDeclaration = true →
        source.declaredName site.node ≠ "") ∧
      ∃ site ∈ source.sites, site.path ≠ [] ∧ ∃ unit ∈ site.ancestors,
        unit.kind = "compilation_unit" ∧ ∃ directive ∈ source.usingsIn unit,
          directive.isGlobal = false ∧
          ∀ level ∈ (program.scope source site).levels, directive ∉ level.usings) ∧
    (∃ program source, (Program.create [source] []).outcome = .ok program ∧ source.OneUnit ∧
      ∃ declaration ∈ source.sites, declaration.node.isSpaceDeclaration = true ∧
        ∃ directive ∈ source.directivesOf declaration.node, directive.isGlobal = true ∧
          ∀ site ∈ source.sites, ∀ level ∈ (program.scope source site).levels,
            directive ∉ level.usings) ∧
    ¬ ∀ (program : Program) (source : Source), program.Arises → source ∈ program.sources →
      source.root.kind = "compilation_unit" →
      (∀ site ∈ source.sites, site.node.isSpaceDeclaration = true →
        source.declaredName site.node ≠ "") →
      ∀ site ∈ source.sites,
        source.LevelsFit (program.sources.flatMap Source.unitGlobals) site
          (program.scope source site) := by
  have unit : importsInBlocks.OneUnit := by decide +kernel
  have present : importsInBlocks.unitLocals ≠ [] := by decide +kernel
  have initialized : ∀ source ∈ [importsInBlocks], Initialized source := by decide +kernel
  obtain ⟨program, built⟩ := (Program.build_returns [importsInBlocks] []).mpr initialized
  have created := Program.create_returns.mpr built
  have misfit : ¬ importsInBlocks.LevelsFit (program.sources.flatMap Source.unitGlobals)
      (Site.root importsInBlocks.root)
      (program.scope importsInBlocks (Site.root importsInBlocks.root)) := by
    rw [← Program.Arises.globals_eq (.created created)]
    exact Source.root_misfit present
  refine ⟨⟨program, importsInBlocks, created, unit, present, misfit⟩, ?_, ?_, fun always => ?_⟩
  · have found : ((Program.build [unitInUnit] []).toOption.any fun program =>
        unitInUnit.sites.any fun site => decide (site.path ≠ [] ∧ ∃ unit ∈ site.ancestors,
          unit.kind = "compilation_unit" ∧ ∃ directive ∈ unitInUnit.usingsIn unit,
            directive.isGlobal = false ∧
              ∀ level ∈ (program.scope unitInUnit site).levels, directive ∉ level.usings)) =
        true := by
      decide +kernel
    obtain ⟨program, built, found⟩ := except_any_returns found
    obtain ⟨site, inside, missing⟩ := List.any_eq_true.mp found
    exact ⟨program, unitInUnit, Program.create_returns.mpr built, rfl, by decide +kernel, site,
      inside, of_decide_eq_true missing⟩
  · have found : ((Program.build [globalInBlock] []).toOption.any fun program =>
        globalInBlock.sites.any fun declaration => decide
          (declaration.node.isSpaceDeclaration = true ∧
            ∃ directive ∈ globalInBlock.directivesOf declaration.node, directive.isGlobal = true ∧
              ∀ site ∈ globalInBlock.sites, ∀ level ∈ (program.scope globalInBlock site).levels,
                directive ∉ level.usings)) =
        true := by
      decide +kernel
    obtain ⟨program, built, found⟩ := except_any_returns found
    obtain ⟨declaration, inside, missing⟩ := List.any_eq_true.mp found
    exact ⟨program, globalInBlock, Program.create_returns.mpr built, by decide +kernel, declaration,
      inside, of_decide_eq_true missing⟩
  · refine misfit (always program _ (.created created) ?_ unit.root unit.named _ ?_)
    · rw [(Program.build_eq built).1]
      exact List.mem_singleton_self _
    · exact Source.mem_sites.mpr .here

end Samples

end PropertyGen
