import Mathlib.Data.List.Forall2
import PropertyGen.Proofs.Containers
import PropertyGen.Proofs.Independence

/-!
The two tree shapes of a file-scoped namespace. What stands behind the declaration may be children
of it, or it may stand beside it in the unit. Both trees are visited node by node in one order, and
what is around a node in one of them is around its counterpart in the other.
-/

namespace PropertyGen

namespace Site

def placed (path : List Step) (site : Site) : Site := { site with path := site.path ++ path }

theorem ancestors_placed (path : List Step) (site : Site) :
    (site.placed path).ancestors = site.ancestors ++ path.map (·.parent) :=
  List.map_append

theorem children_placed (rest : List Step) (site : Site) :
    (site.placed rest).children = site.children.map (placed rest) := by
  have each (nodes earlier : List Node) :
      childrenFrom site.node (site.path ++ rest) earlier nodes =
        (childrenFrom site.node site.path earlier nodes).map (placed rest) := by
    induction nodes generalizing earlier with
    | nil => rfl
    | cons node nodes induction => rw [childrenFrom, childrenFrom, List.map_cons, induction]; rfl
  exact each site.node.children []

theorem walk_placed (path : List Step) (site : Site) :
    (site.placed path).walk = site.walk.map (placed path) := by
  have all (pending : List Site) :
      walkAll (pending.map (placed path)) = (walkAll pending).map (placed path) := by
    induction pending using walkAll.induct with
    | case1 => simp [walkAll]
    | case2 site pending induction =>
        rw [List.map_cons, walkAll, walkAll, List.map_cons, children_placed, ← List.map_append,
          induction]
  exact all [site]

theorem children_from_append (parent : Node) (path : List Step) (earlier first second : List Node) :
    childrenFrom parent path earlier (first ++ second) =
      childrenFrom parent path earlier first ++
        childrenFrom parent path (first.reverse ++ earlier) second := by
  induction first generalizing earlier with
  | nil => rfl
  | cons node first induction =>
      rw [List.cons_append, childrenFrom, childrenFrom, induction, List.cons_append,
        List.reverse_cons, List.append_assoc]
      rfl

def forest (parent : Node) (path : List Step) (earlier nodes : List Node) : List Site :=
  (childrenFrom parent path earlier nodes).flatMap walk

theorem forest_nil (parent : Node) (path : List Step) (earlier : List Node) :
    forest parent path earlier [] = [] := rfl

theorem forest_append (parent : Node) (path : List Step) (earlier first second : List Node) :
    forest parent path earlier (first ++ second) =
      forest parent path earlier first ++
        forest parent path (first.reverse ++ earlier) second := by
  unfold forest
  rw [children_from_append, List.flatMap_append]

theorem forest_cons (parent : Node) (path : List Step) (earlier : List Node) (node : Node)
    (nodes : List Node) :
    forest parent path earlier (node :: nodes) =
      { node, path := { parent, earlier } :: path } ::
        (forest node ({ parent, earlier } :: path) [] node.children ++
          forest parent path (node :: earlier) nodes) := by
  unfold forest
  rw [childrenFrom, List.flatMap_cons, walk_eq]
  rfl

theorem forests_related {relation : Site → Site → Prop} {parent other : Node}
    {path further : List Step} {nodes : List Node}
    (related : ∀ node ∈ nodes, ∀ inner ∈ (root node).walk, ∀ earlier before,
      relation (inner.placed ({ parent, earlier } :: path))
        (inner.placed ({ parent := other, earlier := before } :: further)))
    (earlier before : List Node) :
    List.Forall₂ relation (forest parent path earlier nodes)
      (forest other further before nodes) := by
  induction nodes generalizing earlier before with
  | nil => exact .nil
  | cons node nodes induction =>
      obtain ⟨own, others⟩ := List.forall_mem_cons.mp related
      have walk (path : List Step) : (⟨node, path⟩ : Site).walk =
          (root node).walk.map (placed path) :=
        walk_placed path (root node)
      unfold forest at induction ⊢
      rw [childrenFrom, childrenFrom, List.flatMap_cons, List.flatMap_cons, walk, walk]
      apply List.rel_append _ (induction others _ _)
      rw [List.forall₂_map_left_iff, List.forall₂_map_right_iff, List.forall₂_same]
      exact fun inner inside => own inner inside earlier before

end Site

namespace Source

variable {source : Source}

theorem usings_in_append {node front back : Node}
    (children : node.children = front.children ++ back.children) :
    source.usingsIn node = source.usingsIn front ++ source.usingsIn back := by
  unfold usingsIn Node.namedChildren
  rw [children, List.filter_append, List.filter_append, List.filterMap_append]

theorem usings_in_nil {node : Node}
    (none : ∀ child ∈ node.children, child.kind ≠ "using_directive") :
    source.usingsIn node = [] := by
  unfold usingsIn Node.namedChildren
  rw [List.filter_eq_nil_iff.mpr]
  · rfl
  · intro child listed isDirective
    exact none child (List.mem_filter.mp listed).1 (of_decide_eq_true isDirective)

/-- All that is declared around a site below a unit. -/
theorem surroundings_eq {site : Site} {between : List Node}
    (isUnit : source.root.kind = "compilation_unit")
    (ancestors : site.ancestors = between ++ [source.root])
    (notUnit : ∀ node ∈ between, node.kind ≠ "compilation_unit") :
    Surroundings.ofSite source site =
      { types := (between.filter Node.isTypeDeclaration).map source.typeSegment
        spaces := source.blocksAround site
        unitUsings := source.usingsIn source.root } := by
  obtain ⟨spaces, unitUsings⟩ := surroundings_in_unit isUnit ancestors notUnit
  have types : (Surroundings.ofSite source site).types = _ :=
    Surroundings.types_seen_from site.node.start site
  have notType : source.root.isTypeDeclaration = false := by
    unfold Node.isTypeDeclaration
    rw [isUnit]
    rfl
  rw [ancestors, List.filter_append, List.filter_singleton, notType, cond_false,
    List.append_nil] at types
  rw [← types, ← spaces, ← unitUsings]

end Source

/-- A node that opens neither a unit nor a namespace. -/
def Node.IsPlain (node : Node) : Prop :=
  node.kind ≠ "compilation_unit" ∧ node.isSpaceDeclaration = false

instance (node : Node) : Decidable node.IsPlain := inferInstanceAs (Decidable (_ ∧ _))

namespace Source

variable {source : Source} {site : Site} {between : List Node}
  (isUnit : source.root.kind = "compilation_unit") (plain : ∀ node ∈ between, node.IsPlain)
include isUnit plain

theorem containers_of_plain (ancestors : site.ancestors = between ++ [source.root]) :
    site.containers = [] := by
  rw [containers_in_unit isUnit ancestors]
  exact List.filter_eq_nil_iff.mpr fun node listed => Bool.eq_false_iff.mp (plain node listed).2

theorem surroundings_in_space {space : Node}
    (isSpace : space.kind = "file_scoped_namespace_declaration")
    (ancestors : site.ancestors = between ++ [space, source.root]) :
    site.containers = [space] ∧ Surroundings.ofSite source site =
      { types := (between.filter Node.isTypeDeclaration).map source.typeSegment
        spaces := [(source.declaredName space, source.usingsIn space)]
        unitUsings := source.usingsIn source.root } := by
  have above : site.ancestors = (between ++ [space]) ++ [source.root] := by
    rw [ancestors, List.append_assoc]
    rfl
  have opens : space.isSpaceDeclaration = true := by
    unfold Node.isSpaceDeclaration
    rw [isSpace]
    rfl
  have notType : space.isTypeDeclaration = false := by
    unfold Node.isTypeDeclaration
    rw [isSpace]
    rfl
  have notBlock : ¬ space.kind = "namespace_declaration" := by
    rw [isSpace]
    decide
  have notUnit : ∀ node ∈ between ++ [space], node.kind ≠ "compilation_unit" := by
    refine List.forall_mem_append.mpr ⟨fun node listed => (plain node listed).1, ?_⟩
    rw [List.forall_mem_singleton, isSpace]
    decide
  have containers : site.containers = [space] := by
    rw [containers_in_unit isUnit above, List.filter_append, List.filter_singleton, opens,
      cond_true, List.filter_eq_nil_iff.mpr fun node listed =>
        Bool.eq_false_iff.mp (plain node listed).2]
    rfl
  refine ⟨containers, ?_⟩
  rw [surroundings_eq isUnit above notUnit, List.filter_append, List.filter_singleton, notType,
    cond_false, List.append_nil]
  unfold blocksAround
  rw [containers, if_neg (List.cons_ne_nil _ _), List.map_singleton]
  unfold blockOf directivesOf
  rw [if_neg notBlock]

end Source

/-- A unit all of whose members follow the declaration of one file-scoped namespace. -/
structure FileScoped where
  path : String
  bytes : List UInt8
  /-- The unit with what stands in front of the declaration. -/
  unit : Node
  /-- The declaration by itself. -/
  declaration : Node
  /-- What stands behind the declaration. -/
  members : List Node
  /-- Where the declaration ends if it contains its members. -/
  stop : Nat

namespace FileScoped

variable (file : FileScoped)

def container : Node :=
  { file.declaration with
    stop := file.stop, children := file.declaration.children ++ file.members }

def contained : Source :=
  { path := file.path
    bytes := file.bytes
    root := { file.unit with children := file.unit.children ++ [file.container] } }

def beside : Source :=
  { path := file.path
    bytes := file.bytes
    root := { file.unit with children := file.unit.children ++ file.declaration :: file.members } }

def before : List Using := file.beside.usingsIn file.unit

def behind : List Using := file.beside.usingsIn { file.unit with children := file.members }

/-- The declaration has a name and stands apart from what is in front of it and behind it. There is
no other namespace in the unit, and no global directive behind the declaration. -/
structure Regular : Prop where
  isUnit : file.unit.kind = "compilation_unit"
  isSpace : file.declaration.kind = "file_scoped_namespace_declaration"
  isNamed : file.declaration.named = true
  title : file.beside.declaredName file.declaration ≠ ""
  untitled : ∀ member ∈ file.members, member.field? ≠ some "name"
  bare : ∀ child ∈ file.declaration.children, child.kind ≠ "using_directive"
  plain : ∀ node ∈ file.unit.children ++ file.declaration.children ++ file.members,
    ∀ inner ∈ (Site.root node).walk, inner.node.IsPlain
  covering : file.declaration.start < file.declaration.stop
  longer : file.declaration.stop ≤ file.stop
  early : ∀ node ∈ file.unit.children, ∀ inner ∈ (Site.root node).walk,
    inner.node.start < file.declaration.stop
  late : ∀ member ∈ file.members, ∀ inner ∈ (Site.root member).walk,
    file.declaration.stop ≤ inner.node.start
  isLocal : ∀ directive ∈ file.behind, directive.isGlobal = false

instance : Decidable file.Regular :=
  decidable_of_iff (_ ∧ _ ∧ _ ∧ _ ∧ _ ∧ _ ∧ _ ∧ _ ∧ _ ∧ _ ∧ _ ∧ _)
    ⟨fun ⟨isUnit, isSpace, isNamed, title, untitled, bare, plain, covering, longer, early, late,
        isLocal⟩ =>
      ⟨isUnit, isSpace, isNamed, title, untitled, bare, plain, covering, longer, early, late,
        isLocal⟩,
    fun regular => ⟨regular.isUnit, regular.isSpace, regular.isNamed, regular.title,
      regular.untitled, regular.bare, regular.plain, regular.covering, regular.longer,
      regular.early, regular.late, regular.isLocal⟩⟩

/-- The nodes of the two trees that stand for each other, with what is around them. -/
inductive Counterpart : Site → Site → Prop
  | root : Counterpart (Site.root file.contained.root) (Site.root file.beside.root)
  | declaration {site other : Site} (node : site.node = file.container)
      (otherNode : other.node = file.declaration)
      (ancestors : site.ancestors = [file.contained.root])
      (otherAncestors : other.ancestors = [file.beside.root]) : Counterpart site other
  | front {site other : Site} {between : List Node} (same : other.node = site.node)
      (plain : ∀ node ∈ site.node :: between, node.IsPlain)
      (early : site.node.start < file.declaration.stop)
      (ancestors : site.ancestors = between ++ [file.contained.root])
      (otherAncestors : other.ancestors = between ++ [file.beside.root]) : Counterpart site other
  | header {site other : Site} {between : List Node} (same : other.node = site.node)
      (plain : ∀ node ∈ site.node :: between, node.IsPlain)
      (ancestors : site.ancestors = between ++ [file.container, file.contained.root])
      (otherAncestors : other.ancestors = between ++ [file.declaration, file.beside.root]) :
      Counterpart site other
  | member {site other : Site} {between : List Node} (same : other.node = site.node)
      (plain : ∀ node ∈ site.node :: between, node.IsPlain)
      (late : file.declaration.stop ≤ site.node.start)
      (ancestors : site.ancestors = between ++ [file.container, file.contained.root])
      (otherAncestors : other.ancestors = between ++ [file.beside.root]) : Counterpart site other

section Counterparts

variable {file : FileScoped} (regular : file.Regular)
include regular

theorem Regular.inner_plain {node : Node}
    (listed : node ∈ file.unit.children ++ file.declaration.children ++ file.members) {inner : Site}
    (inside : inner ∈ (Site.root node).walk) : ∀ other ∈ inner.node :: inner.ancestors,
      other.IsPlain := by
  have each := regular.plain node listed
  refine List.forall_mem_cons.mpr ⟨each inner inside, fun ancestor above => ?_⟩
  let tree : Source := { path := file.path, bytes := file.bytes, root := node }
  obtain ⟨site, reached, same⟩ := @Source.ancestor_site tree inner inside ancestor above
  rw [← same]
  exact each site reached

theorem Regular.front_counterparts (earlier before : List Node) :
    List.Forall₂ file.Counterpart
      (Site.forest file.contained.root [] earlier file.unit.children)
      (Site.forest file.beside.root [] before file.unit.children) := by
  apply Site.forests_related
  intro node listed inner inside earlier before
  have plain := regular.inner_plain
    (List.mem_append_left _ (List.mem_append_left _ listed)) inside
  exact .front rfl plain (regular.early node listed inner inside)
    (Site.ancestors_placed _ inner) (Site.ancestors_placed _ inner)

theorem Regular.header_counterparts (siblings others earlier before : List Node) :
    List.Forall₂ file.Counterpart
      (Site.forest file.container [⟨file.contained.root, siblings⟩] earlier
        file.declaration.children)
      (Site.forest file.declaration [⟨file.beside.root, others⟩] before
        file.declaration.children) := by
  apply Site.forests_related
  intro node listed inner inside earlier before
  have plain := regular.inner_plain
    (List.mem_append_left _ (List.mem_append_right _ listed)) inside
  exact .header rfl plain (Site.ancestors_placed _ inner) (Site.ancestors_placed _ inner)

theorem Regular.member_counterparts (siblings earlier before : List Node) :
    List.Forall₂ file.Counterpart
      (Site.forest file.container [⟨file.contained.root, siblings⟩] earlier file.members)
      (Site.forest file.beside.root [] before file.members) := by
  apply Site.forests_related
  intro node listed inner inside earlier before
  have plain := regular.inner_plain (List.mem_append_right _ listed) inside
  exact .member rfl plain (regular.late node listed inner inside)
    (Site.ancestors_placed _ inner) (Site.ancestors_placed _ inner)

/-- The two trees are visited in one order. -/
theorem Regular.counterparts :
    List.Forall₂ file.Counterpart file.contained.sites file.beside.sites := by
  have sitesOf (source : Source) : source.sites =
      Site.root source.root :: Site.forest source.root [] [] source.root.children :=
    Site.walk_eq _
  have contained : file.contained.root.children = file.unit.children ++ [file.container] := rfl
  have beside : file.beside.root.children =
      file.unit.children ++ file.declaration :: file.members := rfl
  have container : file.container.children = file.declaration.children ++ file.members := rfl
  rw [sitesOf, sitesOf, contained, beside, Site.forest_append, Site.forest_append,
    Site.forest_cons, Site.forest_cons, container, Site.forest_append, Site.forest_nil]
  simp only [List.append_nil]
  refine .cons .root (List.rel_append (regular.front_counterparts _ _) ?_)
  refine .cons (.declaration rfl rfl rfl rfl) ?_
  exact List.rel_append (regular.header_counterparts _ _ _ _)
    (regular.member_counterparts _ _ _)

theorem Regular.title_kept :
    file.contained.declaredName file.container = file.beside.declaredName file.declaration := by
  have title := regular.title
  unfold Source.declaredName at title ⊢
  suffices same : file.container.childOr? "name" ["identifier", "qualified_name"] =
      file.declaration.childOr? "name" ["identifier", "qualified_name"] by
    rw [same]
    rfl
  have container : file.container.children = file.declaration.children ++ file.members := rfl
  have untitled : (file.members.find? fun child => child.field? = some "name") = none :=
    List.find?_eq_none.mpr fun member listed filled =>
      regular.untitled member listed (of_decide_eq_true filled)
  have field : file.container.child? "name" = file.declaration.child? "name" := by
    unfold Node.child?
    rw [container, List.find?_append, untitled, Option.or_none]
  unfold Node.childOr? at title ⊢
  rw [field]
  cases own : file.declaration.child? "name" with
  | some name => rfl
  | none =>
      rw [own] at title
      cases listed : file.declaration.childOf? ["identifier", "qualified_name"] with
      | none =>
          rw [listed] at title
          exact absurd rfl title
      | some name =>
          unfold Node.childOf? Node.namedChildren at listed ⊢
          rw [container, List.filter_append, List.find?_append, listed]
          rfl

/-- The directives behind the declaration are its own in one tree and those of the unit in the
other one. -/
theorem Regular.usings_of_trees :
    file.contained.usingsIn file.container = file.behind ∧
      file.beside.usingsIn file.declaration = [] ∧
      file.contained.usingsIn file.contained.root = file.before ∧
      file.beside.usingsIn file.beside.root = file.before ++ file.behind := by
  have alone {node : Node} (isSpace : node.kind = "file_scoped_namespace_declaration") :
      file.beside.usingsIn { file.unit with children := [node] } = [] := by
    apply Source.usings_in_nil
    intro child listed
    rw [List.mem_singleton.mp listed, isSpace]
    decide
  have header : file.beside.usingsIn file.declaration = [] := Source.usings_in_nil regular.bare
  refine ⟨?_, header, ?_, ?_⟩
  · have split := @Source.usings_in_append file.beside file.container file.declaration
      { file.unit with children := file.members } rfl
    rw [header] at split
    exact split
  · have split := @Source.usings_in_append file.beside file.contained.root file.unit
      { file.unit with children := [file.container] } rfl
    rw [alone (show file.container.kind = _ from regular.isSpace), List.append_nil] at split
    exact split
  · have split := @Source.usings_in_append file.beside file.beside.root file.unit
      { file.unit with children := file.declaration :: file.members } rfl
    have others := @Source.usings_in_append file.beside
      { file.unit with children := file.declaration :: file.members }
      { file.unit with children := [file.declaration] }
      { file.unit with children := file.members } rfl
    rw [others, alone regular.isSpace] at split
    exact split

theorem Regular.no_further_space {node : Node}
    (listed : node ∈ file.unit.children ++ file.declaration.children ++ file.members) :
    node.kind ≠ "file_scoped_namespace_declaration" := by
  intro isSpace
  have inside : Site.root node ∈ (Site.root node).walk := by
    rw [Site.walk_eq]
    exact List.mem_cons_self
  obtain ⟨-, notSpace⟩ := regular.plain node listed _ inside
  unfold Node.isSpaceDeclaration at notSpace
  rw [show (Site.root node).node.kind = _ from isSpace] at notSpace
  exact absurd notSpace (by decide)

theorem Regular.file_scoped_before {space : Node} {rest : List Node}
    (isSpace : space.kind = "file_scoped_namespace_declaration") (isNamed : space.named = true)
    (others : ∀ child ∈ rest, child.kind ≠ "file_scoped_namespace_declaration") (offset : Nat) :
    Surroundings.fileScopedBefore?
        { file.unit with children := file.unit.children ++ space :: rest } offset =
      if space.stop ≤ offset then some space else none := by
  have absent {nodes : List Node}
      (others : ∀ child ∈ nodes, child.kind ≠ "file_scoped_namespace_declaration") :
      ((nodes.filter (·.named)).find? fun child =>
        child.kind = "file_scoped_namespace_declaration" && child.stop ≤ offset) = none := by
    apply List.find?_eq_none.mpr
    intro child listed found
    have isSpace := ((Bool.and_eq_true _ _).mp found).1
    exact others child (List.mem_filter.mp listed).1 (of_decide_eq_true isSpace)
  have front := absent fun child listed => regular.no_further_space
    (List.mem_append_left _ (List.mem_append_left _ listed))
  unfold Surroundings.fileScopedBefore? Node.namedChildren
  rw [List.filter_append, List.find?_append, front, List.filter_cons_of_pos isNamed,
    Option.none_or, List.find?_cons, isSpace, decide_eq_true rfl, Bool.true_and]
  by_cases before : space.stop ≤ offset
  · rw [decide_eq_true before, if_pos before]
  · rw [decide_eq_false before, if_neg before]
    exact absent others

theorem Regular.surroundings_beside {other : Site} {between : List Node}
    (plain : ∀ node ∈ between, node.IsPlain)
    (ancestors : other.ancestors = between ++ [file.beside.root]) :
    Surroundings.ofSite file.beside other =
      { types := (between.filter Node.isTypeDeclaration).map file.beside.typeSegment
        spaces :=
          if file.declaration.stop ≤ other.node.start then
            [(file.beside.declaredName file.declaration, [])]
          else []
        unitUsings := file.before ++ file.behind } := by
  obtain ⟨-, -, -, usings⟩ := regular.usings_of_trees
  have follows : file.beside.fileScoped? other =
      if file.declaration.stop ≤ other.node.start then some file.declaration else none :=
    regular.file_scoped_before regular.isSpace regular.isNamed
      (fun child listed => regular.no_further_space (List.mem_append_right _ listed))
      other.node.start
  rw [Source.surroundings_eq regular.isUnit ancestors fun node listed => (plain node listed).1,
    usings]
  unfold Source.blocksAround
  rw [if_pos (Source.containers_of_plain regular.isUnit plain ancestors), follows]
  by_cases late : file.declaration.stop ≤ other.node.start
  · rw [if_pos late, if_pos late]
    rfl
  · rw [if_neg late, if_neg late]
    rfl

theorem Regular.surroundings_front {site other : Site} {between : List Node}
    (plain : ∀ node ∈ between, node.IsPlain) (start : other.node.start = site.node.start)
    (early : site.node.start < file.declaration.stop)
    (ancestors : site.ancestors = between ++ [file.contained.root])
    (otherAncestors : other.ancestors = between ++ [file.beside.root]) :
    site.path ≠ [] ∧ site.containers = [] ∧ ∃ types,
      Surroundings.ofSite file.contained site = ⟨types, [], file.before⟩ ∧
      Surroundings.ofSite file.beside other = ⟨types, [], file.before ++ file.behind⟩ := by
  obtain ⟨-, -, usings, -⟩ := regular.usings_of_trees
  have longer : file.declaration.stop ≤ file.container.stop := regular.longer
  have isSpace : file.container.kind = "file_scoped_namespace_declaration" := regular.isSpace
  have follows : file.contained.fileScoped? site =
      if file.container.stop ≤ site.node.start then some file.container else none :=
    regular.file_scoped_before isSpace regular.isNamed
      (fun _ none => absurd none List.not_mem_nil) site.node.start
  have none := Source.containers_of_plain regular.isUnit plain ancestors
  have deeper : site.path ≠ [] := by
    intro noPath
    unfold Site.ancestors at ancestors
    rw [noPath] at ancestors
    exact List.append_ne_nil_of_right_ne_nil _ (List.cons_ne_nil _ _) ancestors.symm
  refine ⟨deeper, none, (between.filter Node.isTypeDeclaration).map file.beside.typeSegment, ?_, ?_⟩
  · rw [Source.surroundings_eq regular.isUnit ancestors fun node listed => (plain node listed).1,
      usings]
    unfold Source.blocksAround
    rw [if_pos none, follows, if_neg (by omega)]
    rfl
  · rw [regular.surroundings_beside plain otherAncestors, if_neg (by omega)]

theorem Regular.surroundings_inside {site other : Site} {between : List Node}
    (plain : ∀ node ∈ between, node.IsPlain)
    (ancestors : site.ancestors = between ++ [file.container, file.contained.root])
    (otherAncestors : other.ancestors = between ++ [file.declaration, file.beside.root] ∨
      other.ancestors = between ++ [file.beside.root] ∧
        file.declaration.stop ≤ other.node.start) :
    site.containers = [file.container] ∧ ∃ types,
      Surroundings.ofSite file.contained site =
        ⟨types, [(file.beside.declaredName file.declaration, file.behind)], file.before⟩ ∧
      Surroundings.ofSite file.beside other =
        ⟨types, [(file.beside.declaredName file.declaration, [])],
          file.before ++ file.behind⟩ := by
  obtain ⟨own, header, usings, otherUsings⟩ := regular.usings_of_trees
  have isSpace : file.container.kind = "file_scoped_namespace_declaration" := regular.isSpace
  obtain ⟨containers, surroundings⟩ :=
    Source.surroundings_in_space regular.isUnit plain isSpace ancestors
  rw [regular.title_kept, own, usings] at surroundings
  refine ⟨containers, _, surroundings, ?_⟩
  rcases otherAncestors with otherAncestors | ⟨otherAncestors, late⟩
  · obtain ⟨-, others⟩ :=
      Source.surroundings_in_space regular.isUnit plain regular.isSpace otherAncestors
    rw [header, otherUsings] at others
    exact others
  · rw [regular.surroundings_beside plain otherAncestors, if_pos late]
    rfl

/-- What the namespace and the unit declare around two counterparts. -/
theorem Regular.surroundings {site other : Site} (pair : file.Counterpart site other) :
    (site.path = [] ∧ other.path = []) ∨
    (site.path ≠ [] ∧ site.containers = [] ∧ ∃ types,
      Surroundings.ofSite file.contained site = ⟨types, [], file.before⟩ ∧
      Surroundings.ofSite file.beside other = ⟨types, [], file.before ++ file.behind⟩) ∨
    (site.containers = [file.container] ∧ ∃ types,
      Surroundings.ofSite file.contained site =
        ⟨types, [(file.beside.declaredName file.declaration, file.behind)], file.before⟩ ∧
      Surroundings.ofSite file.beside other =
        ⟨types, [(file.beside.declaredName file.declaration, [])],
          file.before ++ file.behind⟩) := by
  cases pair with
  | root => exact .inl ⟨rfl, rfl⟩
  | declaration node otherNode ancestors otherAncestors =>
      have start : other.node.start = site.node.start := by
        rw [node, otherNode]
        rfl
      have early : site.node.start < file.declaration.stop := by
        rw [← start, otherNode]
        exact regular.covering
      exact .inr (.inl (regular.surroundings_front (fun _ none => absurd none List.not_mem_nil)
        start early ancestors otherAncestors))
  | front same plain early ancestors otherAncestors =>
      exact .inr (.inl (regular.surroundings_front (List.forall_mem_cons.mp plain).2
        (congrArg Node.start same) early ancestors otherAncestors))
  | header same plain ancestors otherAncestors =>
      exact .inr (.inr (regular.surroundings_inside (List.forall_mem_cons.mp plain).2 ancestors
        (.inl otherAncestors)))
  | member same plain late ancestors otherAncestors =>
      rw [← congrArg Node.start same] at late
      exact .inr (.inr (regular.surroundings_inside (List.forall_mem_cons.mp plain).2 ancestors
        (.inr ⟨otherAncestors, late⟩)))

end Counterparts

end FileScoped

end PropertyGen
