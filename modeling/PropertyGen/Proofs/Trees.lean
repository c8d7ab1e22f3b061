import Mathlib.Data.List.Find
import PropertyGen.Program.TypeSymbol
import PropertyGen.Proofs.Spaces

/-!
The sites of a tree, and well-formed sources: their ranges are nested, their names are simple,
and no namespace stands inside a type. In a well-formed source the type around a site is declared
at a site of its own, which has the other surroundings of the first one.
-/

namespace PropertyGen

namespace Site

/-- A site and all sites under it, by steps down to children. -/
inductive Below (root : Site) : Site → Prop
  | here : Below root root
  | down {above child : Site} (reached : Below root above) (step : child ∈ above.children) :
      Below root child

theorem below_of_child {root child site : Site} (step : child ∈ root.children)
    (below : Below child site) : Below root site := by
  induction below with
  | here => exact .down .here step
  | down _ next induction => exact .down induction next

theorem below_cases {root site : Site} (below : Below root site) :
    site = root ∨ ∃ child ∈ root.children, Below child site := by
  induction below with
  | here => exact .inl rfl
  | @down above child reached step induction =>
      rcases induction with same | ⟨first, inside, under⟩
      · rw [same] at step
        exact .inr ⟨child, step, .here⟩
      · exact .inr ⟨first, inside, .down under step⟩

theorem mem_walk_all (pending : List Site) (site : Site) :
    site ∈ walkAll pending ↔ ∃ root ∈ pending, Below root site := by
  induction pending using walkAll.induct with
  | case1 => simp [walkAll]
  | case2 first pending induction =>
      rw [walkAll, List.mem_cons, induction]
      constructor
      · intro visited
        rcases visited with same | ⟨root, listed, below⟩
        · exact ⟨first, List.mem_cons_self, same ▸ .here⟩
        · rcases List.mem_append.mp listed with child | waiting
          · exact ⟨first, List.mem_cons_self, below_of_child child below⟩
          · exact ⟨root, List.mem_cons_of_mem _ waiting, below⟩
      · intro found
        rcases found with ⟨root, listed, below⟩
        rcases List.mem_cons.mp listed with same | waiting
        · rw [same] at below
          rcases below_cases below with here | ⟨child, inside, under⟩
          · exact .inl here
          · exact .inr ⟨child, List.mem_append_left _ inside, under⟩
        · exact .inr ⟨root, List.mem_append_right _ waiting, below⟩

/-- The walk visits the sites below its start, and no others. -/
theorem mem_walk (root site : Site) : site ∈ root.walk ↔ Below root site := by
  unfold walk
  rw [mem_walk_all]
  simp

theorem mem_children_from {parent : Node} {path : List Step} {earlier nodes : List Node}
    {child : Site} (member : child ∈ childrenFrom parent path earlier nodes) :
    ∃ before later, nodes = before ++ child.node :: later ∧
      child.path = { parent, earlier := before.reverse ++ earlier } :: path := by
  induction nodes generalizing earlier with
  | nil => cases member
  | cons node rest induction =>
      rcases List.mem_cons.mp member with same | later
      · rw [same]
        exact ⟨[], rest, rfl, rfl⟩
      · obtain ⟨before, after, split, path⟩ := induction later
        refine ⟨node :: before, after, by rw [split]; rfl, ?_⟩
        rw [path, List.reverse_cons, List.append_assoc]
        rfl

theorem child_step {above child : Site} (step : child ∈ above.children) :
    ∃ before later, above.node.children = before ++ child.node :: later ∧
      child.path = { parent := above.node, earlier := before.reverse } :: above.path := by
  obtain ⟨before, later, split, path⟩ := mem_children_from step
  rw [List.append_nil] at path
  exact ⟨before, later, split, path⟩

theorem ancestors_of_child {above child : Site} (step : child ∈ above.children) :
    child.ancestors = above.node :: above.ancestors := by
  obtain ⟨before, later, -, path⟩ := child_step step
  rw [ancestors, path]
  rfl

theorem parent_of_child {above child : Site} (step : child ∈ above.children) :
    child.parent? = some above := by
  obtain ⟨before, later, -, path⟩ := child_step step
  rw [parent?, path]

def aboveFrom : List Step → List Site
  | [] => []
  | step :: path => { node := step.parent, path } :: aboveFrom path

def above (site : Site) : List Site := aboveFrom site.path

def typesAround (site : Site) : List Site := site.above.filter (·.node.isTypeDeclaration)

def typesFrom (site : Site) : List Site :=
  (site :: site.above).filter (·.node.isTypeDeclaration)

theorem types_from_eq (site : Site) :
    site.typesFrom =
      if site.node.isTypeDeclaration = true then site :: site.typesAround
      else site.typesAround := by
  unfold typesFrom typesAround
  rw [List.filter_cons]

theorem map_node_above (site : Site) : site.above.map (·.node) = site.ancestors := by
  unfold above ancestors
  induction site.path with
  | nil => rfl
  | cons step path induction => rw [aboveFrom, List.map_cons, List.map_cons, induction]

theorem above_of_child {outer child : Site} (step : child ∈ outer.children) :
    child.above = outer :: outer.above := by
  obtain ⟨before, later, -, path⟩ := child_step step
  unfold above
  rw [path, aboveFrom]

theorem types_around_child {outer child : Site} (step : child ∈ outer.children) :
    child.typesAround = outer.typesFrom := by
  unfold typesAround typesFrom
  rw [above_of_child step]

theorem path_of_below {root site : Site} (below : Below root site) : root.path <:+ site.path := by
  induction below with
  | here => exact List.suffix_refl _
  | down _ step induction =>
      obtain ⟨before, later, -, path⟩ := child_step step
      rw [path]
      exact induction.trans (List.suffix_cons _ _)

theorem children_from_pairwise (parent : Node) (path : List Step) (earlier nodes : List Node) :
    (childrenFrom parent path earlier nodes).Pairwise fun first second =>
      first.path ≠ second.path ∧ first.path.length = second.path.length := by
  induction nodes generalizing earlier with
  | nil => exact .nil
  | cons node rest induction =>
      refine List.pairwise_cons.mpr ⟨fun child member => ?_, induction (node :: earlier)⟩
      obtain ⟨before, later, -, childPath⟩ := mem_children_from member
      rw [childPath]
      refine ⟨fun same => ?_, rfl⟩
      have lengths := congrArg (fun path : List Step => path.head?.map (·.earlier.length)) same
      simp at lengths
      omega

theorem walk_all_nodup (pending : List Site)
    (apart : pending.Pairwise fun first second => ∀ site, Below first site → ¬ Below second site) :
    (walkAll pending).Nodup := by
  induction pending using walkAll.induct with
  | case1 =>
      rw [walkAll]
      exact .nil
  | case2 first pending induction =>
      rw [walkAll]
      obtain ⟨outside, others⟩ := List.pairwise_cons.mp apart
      refine List.nodup_cons.mpr ⟨fun member => ?once,
        induction (List.pairwise_append.mpr ⟨?children, others, ?waiting⟩)⟩
      case once =>
        obtain ⟨root, listed, below⟩ := (mem_walk_all _ _).mp member
        rcases List.mem_append.mp listed with child | waiting
        · obtain ⟨before, later, -, path⟩ := child_step child
          have longer := (path_of_below below).length_le
          rw [path, List.length_cons] at longer
          omega
        · exact outside root waiting first .here below
      case children =>
        apply (children_from_pairwise first.node first.path [] first.node.children).imp
        intro child other paths site below otherBelow
        have suffix := List.suffix_of_suffix_length_le (path_of_below below)
          (path_of_below otherBelow) paths.2.le
        exact paths.1 (suffix.eq_of_length paths.2)
      case waiting =>
        intro child step other waiting site below
        exact outside other waiting site (below_of_child step below)

theorem walk_nodup (root : Site) : root.walk.Nodup :=
  walk_all_nodup [root] (List.pairwise_singleton _ _)

theorem site_of_child {above : Site} {node : Node} (member : node ∈ above.node.children) :
    ∃ child ∈ above.children, child.node = node := by
  rw [← above.map_node_children] at member
  exact List.mem_map.mp member

end Site

namespace Source

variable {source : Source}

theorem mem_sites {site : Site} : site ∈ source.sites ↔ (Site.root source.root).Below site :=
  Site.mem_walk _ _

theorem child_mem_sites {above child : Site} (inside : above ∈ source.sites)
    (step : child ∈ above.children) : child ∈ source.sites :=
  mem_sites.mpr (.down (mem_sites.mp inside) step)

theorem above_mem_sites {site : Site} (inside : site ∈ source.sites) :
    ∀ outer ∈ site.above, outer ∈ source.sites := by
  have below := mem_sites.mp inside
  clear inside
  induction below with
  | here => simp [Site.above, Site.root, Site.aboveFrom]
  | @down above child reached step induction =>
      rw [Site.above_of_child step]
      exact List.forall_mem_cons.mpr ⟨mem_sites.mpr reached, induction⟩

theorem ancestor_site {site : Site} (inside : site ∈ source.sites) :
    ∀ node ∈ site.ancestors, ∃ above ∈ source.sites, above.node = node := by
  intro node member
  rw [← site.map_node_above] at member
  obtain ⟨above, listed, same⟩ := List.mem_map.mp member
  exact ⟨above, above_mem_sites inside above listed, same⟩

end Source

def Node.isSpaceDeclaration (node : Node) : Bool :=
  node.kind = "namespace_declaration" || node.kind = "file_scoped_namespace_declaration"

/-- The ranges of the children lie inside the range of the node, apart from each other. -/
def Node.Nested (node : Node) : Prop :=
  (∀ child ∈ node.children,
      node.start ≤ child.start ∧ child.start ≤ child.stop ∧ child.stop ≤ node.stop) ∧
    node.children.Pairwise fun first second =>
      first.stop ≤ second.start ∨ second.stop ≤ first.start

instance (node : Node) : Decidable node.Nested := inferInstanceAs (Decidable (_ ∧ _))

theorem Node.child_or_listed {node child : Node} {field : String} {kinds : List String}
    (found : node.childOr? field kinds = some child) : child ∈ node.children := by
  unfold childOr? at found
  cases filled : node.child? field with
  | some other =>
      rw [filled] at found
      obtain rfl := Option.some.inj found
      exact List.mem_of_find?_eq_some filled
  | none =>
      rw [filled] at found
      exact (List.mem_filter.mp (List.mem_of_find?_eq_some found)).1

def Names.Simple (name : String) : Prop := name ≠ "" ∧ '.' ∉ name.toList ∧ '+' ∉ name.toList

instance (name : String) : Decidable (Names.Simple name) := inferInstanceAs (Decidable (_ ∧ _))

/-- What the tree of a text without errors is like, as far as scopes depend on it. -/
structure Source.WellFormed (source : Source) : Prop where
  nested : ∀ site ∈ source.sites, site.node.Nested
  covering : ∀ site ∈ source.sites,
    site.node.isTypeDeclaration = true ∨ site.node.isSpaceDeclaration = true ∨
      site.node.kind = "field_declaration" → site.node.start < site.node.stop
  types : ∀ site ∈ source.sites, site.node.isTypeDeclaration = true →
    Names.Simple (source.declaredName site.node)
  spaces : ∀ site ∈ source.sites, site.node.isSpaceDeclaration = true →
    '+' ∉ (source.declaredName site.node).toList ∧
      ∀ ancestor ∈ site.ancestors, ancestor.isTypeDeclaration = false
  units : ∀ site ∈ source.sites, site.node.kind = "compilation_unit" → site.ancestors = []

instance (source : Source) : Decidable source.WellFormed :=
  decidable_of_iff
    ((∀ site ∈ source.sites, site.node.Nested) ∧
      (∀ site ∈ source.sites,
        site.node.isTypeDeclaration = true ∨ site.node.isSpaceDeclaration = true ∨
          site.node.kind = "field_declaration" → site.node.start < site.node.stop) ∧
      (∀ site ∈ source.sites, site.node.isTypeDeclaration = true →
        Names.Simple (source.declaredName site.node)) ∧
      (∀ site ∈ source.sites, site.node.isSpaceDeclaration = true →
        '+' ∉ (source.declaredName site.node).toList ∧
          ∀ ancestor ∈ site.ancestors, ancestor.isTypeDeclaration = false) ∧
      ∀ site ∈ source.sites, site.node.kind = "compilation_unit" → site.ancestors.isEmpty = true)
    ⟨fun all => ⟨all.1, all.2.1, all.2.2.1, all.2.2.2.1, fun site inside isUnit =>
        List.isEmpty_iff.mp (all.2.2.2.2 site inside isUnit)⟩,
      fun all => ⟨all.nested, all.covering, all.types, all.spaces, fun site inside isUnit =>
        List.isEmpty_iff.mpr (all.units site inside isUnit)⟩⟩

/-- The part of it that tells the type around a site: ranges are nested, types have names, and no
namespace is declared inside a type. -/
structure Source.Ordered (source : Source) : Prop where
  nested : ∀ site ∈ source.sites, site.node.Nested
  named : ∀ site ∈ source.sites, site.node.isTypeDeclaration = true →
    source.declaredName site.node ≠ ""
  spaces : ∀ site ∈ source.sites, site.node.isSpaceDeclaration = true →
    ∀ ancestor ∈ site.ancestors, ancestor.isTypeDeclaration = false

instance (source : Source) : Decidable source.Ordered :=
  decidable_of_iff
    ((∀ site ∈ source.sites, site.node.Nested) ∧
      (∀ site ∈ source.sites, site.node.isTypeDeclaration = true →
        source.declaredName site.node ≠ "") ∧
      ∀ site ∈ source.sites, site.node.isSpaceDeclaration = true →
        ∀ ancestor ∈ site.ancestors, ancestor.isTypeDeclaration = false)
    ⟨fun all => ⟨all.1, all.2.1, all.2.2⟩, fun all => ⟨all.nested, all.named, all.spaces⟩⟩

theorem Source.WellFormed.ordered {source : Source} (formed : source.WellFormed) :
    source.Ordered :=
  ⟨formed.nested, fun site inside isType => (formed.types site inside isType).1,
    fun site inside isSpace => (formed.spaces site inside isSpace).2⟩

namespace Surroundings

variable {source : Source}

def inside (surroundings : Surroundings) (types : List String) : Surroundings :=
  { surroundings with types := types ++ surroundings.types }

/-- The surroundings of a site as a node at some offset below it has them. -/
def seenFrom (source : Source) (offset : Nat) (site : Site) : Surroundings :=
  site.ancestors.foldl (addAncestor source offset) none

theorem add_ancestor_cases (source : Source) (offset : Nat) (surroundings : Surroundings)
    (ancestor : Node) :
    (ancestor.isTypeDeclaration = true ∧
        ∀ types, addAncestor source offset { surroundings with types } ancestor =
          { surroundings with types := types ++ [source.typeSegment ancestor] }) ∨
      (ancestor.isTypeDeclaration = false ∧ ∃ spaces unitUsings,
        ∀ types, addAncestor source offset { surroundings with types } ancestor =
          { types, spaces, unitUsings }) := by
  unfold addAncestor
  by_cases isType : ancestor.isTypeDeclaration = true
  · refine .inl ⟨isType, fun types => ?_⟩
    rw [if_pos isType]
    rfl
  · refine .inr ⟨Bool.eq_false_iff.mpr isType, ?_⟩
    simp only [if_neg isType]
    by_cases isSpace : ancestor.kind = "namespace_declaration"
    · simp only [if_pos isSpace]
      exact ⟨(surroundings.addSpace _ _).spaces, surroundings.unitUsings, fun types => rfl⟩
    · simp only [if_neg isSpace]
      by_cases isFile : ancestor.kind = "file_scoped_namespace_declaration"
      · simp only [if_pos isFile]
        exact ⟨(surroundings.addSpace _ _).spaces, surroundings.unitUsings, fun types => rfl⟩
      · simp only [if_neg isFile]
        by_cases isUnit : ancestor.kind = "compilation_unit"
        · simp only [if_pos isUnit]
          by_cases none : surroundings.spaces.isEmpty = true
          · simp only [if_pos none]
            cases fileScopedBefore? ancestor offset with
            | none => exact ⟨_, _, fun types => rfl⟩
            | some declaration =>
                exact ⟨(surroundings.addSpace _ _).spaces, source.usingsIn ancestor,
                  fun types => rfl⟩
          · simp only [if_neg none]
            exact ⟨_, _, fun types => rfl⟩
        · simp only [if_neg isUnit]
          exact ⟨_, _, fun types => rfl⟩

theorem add_ancestor_inside (offset : Nat) (surroundings : Surroundings) (types : List String)
    (ancestor : Node) :
    addAncestor source offset (surroundings.inside types) ancestor =
      (addAncestor source offset surroundings ancestor).inside types := by
  rcases add_ancestor_cases source offset surroundings ancestor with
    ⟨-, added⟩ | ⟨-, spaces, unitUsings, added⟩
  · have outer := added surroundings.types
    have inner := added (types ++ surroundings.types)
    rw [List.append_assoc] at inner
    exact inner.trans (congrArg (inside · types) outer).symm
  · have outer := added surroundings.types
    have inner := added (types ++ surroundings.types)
    exact inner.trans (congrArg (inside · types) outer).symm

theorem fold_inside (offset : Nat) (surroundings : Surroundings) (types : List String)
    (ancestors : List Node) :
    ancestors.foldl (addAncestor source offset) (surroundings.inside types) =
      (ancestors.foldl (addAncestor source offset) surroundings).inside types := by
  induction ancestors generalizing surroundings with
  | nil => rfl
  | cons ancestor rest induction =>
      rw [List.foldl_cons, List.foldl_cons, add_ancestor_inside, induction]

theorem fold_unit_usings (source : Source) (offset : Nat) (surroundings : Surroundings)
    (unitUsings : List Using) (ancestors : List Node) :
    (ancestors.foldl (addAncestor source offset) { surroundings with unitUsings }).types =
        (ancestors.foldl (addAncestor source offset) surroundings).types ∧
      (ancestors.foldl (addAncestor source offset) { surroundings with unitUsings }).spaces =
        (ancestors.foldl (addAncestor source offset) surroundings).spaces := by
  induction ancestors generalizing surroundings unitUsings with
  | nil => exact ⟨rfl, rfl⟩
  | cons ancestor rest induction =>
      obtain ⟨others, added⟩ : ∃ others,
          addAncestor source offset { surroundings with unitUsings } ancestor =
            { addAncestor source offset surroundings ancestor with unitUsings := others } := by
        unfold addAncestor
        split
        · exact ⟨_, rfl⟩
        split
        · exact ⟨_, rfl⟩
        split
        · exact ⟨_, rfl⟩
        split
        · dsimp only
          split
          · cases fileScopedBefore? ancestor offset with
            | none => exact ⟨_, rfl⟩
            | some declaration => exact ⟨_, rfl⟩
          · exact ⟨_, rfl⟩
        · exact ⟨_, rfl⟩
      rw [List.foldl_cons, List.foldl_cons, added]
      exact induction _ others

theorem types_seen_from (offset : Nat) (site : Site) :
    (seenFrom source offset site).types =
      (site.ancestors.filter Node.isTypeDeclaration).map source.typeSegment := by
  have folded (ancestors : List Node) (surroundings : Surroundings) :
      (ancestors.foldl (addAncestor source offset) surroundings).types =
        surroundings.types ++
          (ancestors.filter Node.isTypeDeclaration).map source.typeSegment := by
    induction ancestors generalizing surroundings with
    | nil => simp
    | cons ancestor rest induction =>
        rw [List.foldl_cons, induction]
        rcases add_ancestor_cases source offset surroundings ancestor with
          ⟨isType, added⟩ | ⟨isOther, spaces, unitUsings, added⟩
        · have own := congrArg Surroundings.types (added surroundings.types)
          rw [show (addAncestor source offset surroundings ancestor).types = _ from own,
            List.append_assoc, List.filter_cons_of_pos isType]
          rfl
        · have own := congrArg Surroundings.types (added surroundings.types)
          rw [show (addAncestor source offset surroundings ancestor).types = _ from own,
            List.filter_cons_of_neg (Bool.eq_false_iff.mp isOther)]
  exact folded site.ancestors none

end Surroundings

namespace Source

variable {source : Source}

theorem child_range (ordered : source.Ordered) {above child : Site}
    (inside : above ∈ source.sites) (step : child ∈ above.children) :
    above.node.start ≤ child.node.start ∧ child.node.stop ≤ above.node.stop := by
  obtain ⟨before, later, split, -⟩ := Site.child_step step
  have listed : child.node ∈ above.node.children := by
    rw [split]
    exact List.mem_append_right _ List.mem_cons_self
  have range := (ordered.nested above inside).1 child.node listed
  exact ⟨range.1, range.2.2⟩

theorem covering_of_text {node : Node} (written : source.text node ≠ "") :
    node.start < node.stop := by
  by_contra empty
  apply written
  unfold text
  rw [Nat.sub_eq_zero_of_le (Nat.le_of_not_lt empty), List.take_zero]
  rfl

theorem covering_of_compact {node : Node} (written : source.compactText node ≠ "") :
    node.start < node.stop := by
  apply source.covering_of_text
  intro empty
  apply written
  unfold compactText
  rw [empty]
  rfl

theorem covering_of_child (ordered : source.Ordered) {site : Site} (inside : site ∈ source.sites)
    {child : Node} (listed : child ∈ site.node.children) (covering : child.start < child.stop) :
    site.node.start < site.node.stop := by
  obtain ⟨least, -, most⟩ := (ordered.nested site inside).1 child listed
  omega

theorem covering_of_named (ordered : source.Ordered) {site : Site} (inside : site ∈ source.sites)
    (named : source.declaredName site.node ≠ "") : site.node.start < site.node.stop := by
  unfold declaredName at named
  cases found : site.node.childOr? "name" ["identifier", "qualified_name"] with
  | none =>
      rw [found] at named
      exact absurd rfl named
  | some name =>
      rw [found] at named
      exact covering_of_child ordered inside (Node.child_or_listed found)
        (covering_of_compact named)

def FileSpacesCover (source : Source) : Prop :=
  ∀ site ∈ source.sites, site.node.kind = "file_scoped_namespace_declaration" →
    site.node.start < site.node.stop

instance (source : Source) : Decidable source.FileSpacesCover :=
  inferInstanceAs (Decidable (∀ site ∈ source.sites, _ → _))

/-- An offset lies in the range of a node, and before its end unless no file-scoped namespace is
empty. -/
def Within (source : Source) (node : Node) (offset : Nat) : Prop :=
  node.start ≤ offset ∧ (offset < node.stop ∨ offset ≤ node.stop ∧ source.FileSpacesCover)

theorem within_above (ordered : source.Ordered) {above child : Site}
    (inside : above ∈ source.sites) (step : child ∈ above.children) {offset : Nat}
    (within : source.Within child.node offset) : source.Within above.node offset := by
  obtain ⟨lower, upper⟩ := child_range ordered inside step
  obtain ⟨least, most⟩ := within
  refine ⟨by omega, ?_⟩
  rcases most with before | ⟨upTo, cover⟩
  · exact .inl (by omega)
  · exact .inr ⟨by omega, cover⟩

theorem within_earlier {node : Node} {offset earlier : Nat} (within : source.Within node offset)
    (least : node.start ≤ earlier) (before : earlier ≤ offset) : source.Within node earlier := by
  refine ⟨least, ?_⟩
  rcases within.2 with inner | ⟨upTo, cover⟩
  · exact .inl (by omega)
  · exact .inr ⟨by omega, cover⟩

theorem within_start {node : Node} (covering : node.start < node.stop) :
    source.Within node node.start := ⟨le_refl _, .inl covering⟩

/-- A node inside of a type has its own start in its range, unless a file-scoped namespace is
empty. -/
theorem within_of_cover (ordered : source.Ordered) (cover : source.FileSpacesCover) {site : Site}
    (inside : site ∈ source.sites) (around : site.typesAround ≠ []) :
    source.Within site.node site.node.start := by
  cases mem_sites.mp inside with
  | here => exact absurd rfl around
  | @down above _ reached step =>
      obtain ⟨before, later, split, -⟩ := Site.child_step step
      have listed : site.node ∈ above.node.children := by simp [split]
      have range := (ordered.nested above (mem_sites.mpr reached)).1 site.node listed
      exact ⟨le_refl _, .inr ⟨range.2.1, cover⟩⟩

/-- Whether a file-scoped namespace ends before a child of the node above it is read alike from
everywhere in the child, unless the namespace is the child and one reads from its end. -/
theorem sibling_ends_before (ordered : source.Ordered) {above child : Site}
    (inside : above ∈ source.sites) (step : child ∈ above.children) {sibling : Node}
    (listed : sibling ∈ above.node.children)
    (isFile : sibling.kind = "file_scoped_namespace_declaration") {offset : Nat}
    (within : source.Within child.node offset)
    (apart : child.node.kind ≠ "file_scoped_namespace_declaration" ∨ offset < child.node.stop) :
    sibling.stop ≤ offset ↔ sibling.stop ≤ child.node.start := by
  obtain ⟨before, later, split, -⟩ := Site.child_step step
  obtain ⟨ranges, pairwise⟩ := ordered.nested above inside
  have range := (ranges sibling listed).2.1
  obtain ⟨least, most⟩ := within
  have filled : offset < child.node.stop ∨ offset ≤ child.node.stop ∧ sibling.start < sibling.stop := by
    rcases most with before | ⟨upTo, cover⟩
    · exact .inl before
    · obtain ⟨site, siteStep, own⟩ := Site.site_of_child listed
      rw [← own] at isFile ⊢
      exact .inr ⟨upTo, cover site (child_mem_sites inside siteStep) isFile⟩
  rw [split] at listed pairwise
  obtain ⟨-, laterApart, beforeApart⟩ := List.pairwise_append.mp pairwise
  have disjoint : sibling = child.node ∨ sibling.stop ≤ child.node.start ∨
      child.node.stop ≤ sibling.start := by
    rcases List.mem_append.mp listed with earlier | rest
    · exact .inr (beforeApart sibling earlier child.node List.mem_cons_self)
    · rcases List.mem_cons.mp rest with same | after
      · exact .inl same
      · have others := (List.pairwise_cons.mp laterApart).1 sibling after
        exact .inr (or_comm.mp others)
  rcases disjoint with same | outside
  · rw [same] at isFile ⊢
    have early := apart.resolve_left (not_not_intro isFile)
    omega
  · omega

/-- One ancestor is read alike from everywhere in a child of it that is not a file-scoped namespace
itself, or where a namespace has been read before. -/
theorem add_ancestor_eq (ordered : source.Ordered) {above child : Site}
    (inside : above ∈ source.sites) (step : child ∈ above.children) {offset : Nat}
    (within : source.Within child.node offset) {surroundings : Surroundings}
    (placed : surroundings.spaces ≠ [] ∨
      child.node.kind ≠ "file_scoped_namespace_declaration" ∨ offset < child.node.stop) :
    Surroundings.addAncestor source offset surroundings above.node =
      Surroundings.addAncestor source child.node.start surroundings above.node := by
  unfold Surroundings.addAncestor
  by_cases read : surroundings.spaces = []
  · have same : Surroundings.fileScopedBefore? above.node offset =
        Surroundings.fileScopedBefore? above.node child.node.start := by
      unfold Surroundings.fileScopedBefore?
      apply List.find?_congr
      intro sibling named
      by_cases isFile : sibling.kind = "file_scoped_namespace_declaration"
      · have listed := (List.mem_filter.mp named).1
        have ends := sibling_ends_before ordered inside step listed isFile within
          (placed.resolve_left (not_not_intro read))
        rw [decide_eq_decide.mpr ends]
      · rw [decide_eq_false isFile, Bool.false_and, Bool.false_and]
    rw [same]
  · have none : surroundings.spaces.isEmpty = false := by simpa using read
    simp only [none]
    rfl

/-- The surroundings of a site look the same from everywhere in it, unless it is a file-scoped
namespace and one looks from its end. -/
theorem fold_ancestors_eq (ordered : source.Ordered) {site : Site} (inside : site ∈ source.sites)
    {offset : Nat} (within : source.Within site.node offset) {surroundings : Surroundings}
    (placed : surroundings.spaces ≠ [] ∨
      site.node.kind ≠ "file_scoped_namespace_declaration" ∨ offset < site.node.stop) :
    site.ancestors.foldl (Surroundings.addAncestor source offset) surroundings =
      site.ancestors.foldl (Surroundings.addAncestor source site.node.start) surroundings := by
  have reached := mem_sites.mp inside
  clear inside
  -- On the way up ranges only grow, and a file-scoped namespace is read before its unit is.
  induction reached generalizing offset surroundings with
  | here => rfl
  | @down above child reached step induction =>
      have aboveInside : above ∈ source.sites := mem_sites.mpr reached
      have first := add_ancestor_eq ordered aboveInside step within placed
      have fromOffset := within_above ordered aboveInside step within
      have fromStart := within_earlier fromOffset (child_range ordered aboveInside step).1 within.1
      have readBefore : (Surroundings.addAncestor source child.node.start surroundings
          above.node).spaces ≠ [] ∨ above.node.kind ≠ "file_scoped_namespace_declaration" := by
        by_cases isFile : above.node.kind = "file_scoped_namespace_declaration"
        · left
          unfold Surroundings.addAncestor Node.isTypeDeclaration
          rw [isFile, if_neg (by decide), if_neg (by decide), if_pos rfl]
          exact List.append_ne_nil_of_right_ne_nil _ (List.cons_ne_nil _ _)
        · exact .inr isFile
      rw [Site.ancestors_of_child step, List.foldl_cons, List.foldl_cons, first,
        induction fromOffset (readBefore.imp_right Or.inl),
        induction fromStart (readBefore.imp_right Or.inl)]

theorem types_of_site (site : Site) :
    (Surroundings.ofSite source site).types =
      site.typesAround.map fun outer => source.typeSegment outer.node := by
  have folded : (Surroundings.ofSite source site).types = _ :=
    Surroundings.types_seen_from site.node.start site
  rw [folded, ← site.map_node_above, List.filter_map, List.map_map]
  rfl

/-- The innermost type around a site is a site itself, with the other types around it. -/
theorem outer_of_types_around (ordered : source.Ordered) {site : Site}
    (inside : site ∈ source.sites) (within : source.Within site.node site.node.start)
    {outer : Site} {more : List Site} (around : site.typesAround = outer :: more) :
    outer ∈ source.sites ∧ outer.node.isTypeDeclaration = true ∧ outer.typesAround = more ∧
      source.Within outer.node outer.node.start := by
  have reached := mem_sites.mp inside
  clear inside
  induction reached with
  | here => cases around
  | @down above child reached step induction =>
      have aboveInside : above ∈ source.sites := mem_sites.mpr reached
      have fromChild := within_above ordered aboveInside step within
      have fromAbove := within_earlier fromChild (le_refl _) fromChild.1
      rw [Site.types_around_child step, Site.types_from_eq] at around
      by_cases isType : above.node.isTypeDeclaration = true
      · rw [if_pos isType] at around
        obtain ⟨rfl, same⟩ := List.cons.inj around
        exact ⟨aboveInside, isType, same, fromAbove⟩
      · rw [if_neg isType] at around
        exact induction fromAbove around

/-- Inside of a type a node that is not a type declares no namespace, and none stands beside what is
below it. -/
theorem unit_in_type (ordered : source.Ordered) {above : Site} (inside : above ∈ source.sites)
    (offset : Nat) (isOther : ¬ above.node.isTypeDeclaration = true)
    (around : above.typesAround ≠ []) :
    ∃ unitUsings, Surroundings.addAncestor source offset Surroundings.none above.node =
      { Surroundings.none with unitUsings } := by
  obtain ⟨outer, listed⟩ := List.exists_mem_of_ne_nil _ around
  obtain ⟨isAbove, isType⟩ := List.mem_filter.mp listed
  have inType (site : Site) (below : ∀ node ∈ above.ancestors, node ∈ site.ancestors)
      (siteInside : site ∈ source.sites) : ¬ site.node.isSpaceDeclaration = true := by
    intro isSpace
    have ancestor : outer.node ∈ above.ancestors := by
      rw [← above.map_node_above]
      exact List.mem_map_of_mem isAbove
    have noType := ordered.spaces site siteInside isSpace outer.node (below _ ancestor)
    rw [isType] at noType
    cases noType
  have notSpace := inType above (fun _ member => member) inside
  unfold Node.isSpaceDeclaration at notSpace
  rw [Bool.or_eq_true, decide_eq_true_eq, decide_eq_true_eq, not_or] at notSpace
  unfold Surroundings.addAncestor
  rw [if_neg isOther, if_neg notSpace.1, if_neg notSpace.2]
  by_cases isUnit : above.node.kind = "compilation_unit"
  · rw [if_pos isUnit]
    cases beside : Surroundings.fileScopedBefore? above.node offset with
    | none => exact ⟨_, rfl⟩
    | some declaration =>
        exfalso
        have listed := (List.mem_filter.mp (List.mem_of_find?_eq_some beside)).1
        obtain ⟨below, belowStep, own⟩ := Site.site_of_child listed
        have isFile := (Bool.and_eq_true _ _ ▸ List.find?_some beside).1
        apply inType below _ (child_mem_sites inside belowStep)
        · unfold Node.isSpaceDeclaration
          rw [own, isFile, Bool.or_true]
        · intro node member
          rw [Site.ancestors_of_child belowStep]
          exact List.mem_cons_of_mem _ member
  · rw [if_neg isUnit]
    exact ⟨[], rfl⟩

theorem spaces_of_site (ordered : source.Ordered) {site : Site} (inside : site ∈ source.sites)
    (within : source.Within site.node site.node.start) {outer : Site} {more : List Site}
    (around : site.typesAround = outer :: more) :
    (Surroundings.ofSite source site).spaces = (Surroundings.ofSite source outer).spaces := by
  have reached := mem_sites.mp inside
  clear inside
  induction reached with
  | here => cases around
  | @down above child reached step induction =>
      have aboveInside : above ∈ source.sites := mem_sites.mpr reached
      have fromChild := within_above ordered aboveInside step within
      have folded : Surroundings.ofSite source child =
          above.ancestors.foldl (Surroundings.addAncestor source child.node.start)
            (Surroundings.addAncestor source child.node.start Surroundings.none above.node) := by
        unfold Surroundings.ofSite
        rw [Site.ancestors_of_child step, List.foldl_cons]
      have seen (isOther : above.node.kind ≠ "file_scoped_namespace_declaration") :
          above.ancestors.foldl (Surroundings.addAncestor source child.node.start)
            Surroundings.none = Surroundings.ofSite source above :=
        fold_ancestors_eq ordered aboveInside fromChild (.inr (.inl isOther))
      rw [Site.types_around_child step, Site.types_from_eq] at around
      by_cases isType : above.node.isTypeDeclaration = true
      · rw [if_pos isType] at around
        obtain ⟨rfl, -⟩ := List.cons.inj around
        have first : Surroundings.addAncestor source child.node.start Surroundings.none above.node =
            Surroundings.none.inside [source.typeSegment above.node] := by
          unfold Surroundings.addAncestor
          rw [if_pos isType]
          rfl
        have notFile : above.node.kind ≠ "file_scoped_namespace_declaration" := by
          intro isFile
          unfold Node.isTypeDeclaration at isType
          rw [isFile] at isType
          exact absurd isType (by decide)
        rw [folded, first, Surroundings.fold_inside, seen notFile]
        rfl
      · rw [if_neg isType] at around
        have inType : above.typesAround ≠ [] := by
          rw [around]
          exact List.cons_ne_nil _ _
        obtain ⟨unitUsings, first⟩ :=
          unit_in_type ordered aboveInside child.node.start isType inType
        have notFile : above.node.kind ≠ "file_scoped_namespace_declaration" := by
          intro isFile
          have none := congrArg Surroundings.spaces first
          unfold Surroundings.addAncestor Node.isTypeDeclaration at none
          rw [isFile, if_neg (by decide), if_neg (by decide), if_pos rfl] at none
          cases none
        rw [folded, first, (Surroundings.fold_unit_usings source child.node.start
          Surroundings.none unitUsings above.ancestors).2, seen notFile]
        exact induction (within_earlier fromChild (le_refl _) fromChild.1) around

end Source

end PropertyGen
