import Mathlib.Data.List.Flatten
import Mathlib.Data.Nat.Init
import Mathlib.Logic.Function.Iterate
import PropertyGen.Proofs.Independence
import PropertyGen.Proofs.Outline

/-!
The order of a walk. A walk keeps the sites that wait for their visit on a stack, takes the last of
them, and leaves its children there, the last child first. What it has visited and what the stack
still stands for make up the preorder of the tree at every step, and each step takes one node off
the stack; so a walk ends, with every site visited once and in preorder. The candidates of sources
are in that order.
-/

namespace PropertyGen

theorem Node.size_all_reverse (nodes : List Node) :
    Node.sizeAll nodes.reverse = Node.sizeAll nodes := by
  induction nodes with
  | nil => rfl
  | cons node rest induction =>
      rw [List.reverse_cons, Node.sizeAll_append, induction, Node.sizeAll, Node.sizeAll,
        Node.sizeAll]
      omega

namespace Site

theorem size_child {site child : Site} (step : child ∈ site.children) :
    child.node.size < site.node.size := by
  obtain ⟨before, later, split, -⟩ := child_step step
  rw [Node.size_eq site.node, split, Node.sizeAll_append, Node.sizeAll]
  omega

def preorder (site : Site) : List Site :=
  site :: site.children.attach.flatMap fun child => preorder child.1
termination_by site.node.size
decreasing_by exact size_child child.2

theorem preorder_eq (site : Site) :
    site.preorder = site :: site.children.flatMap preorder := by
  rw [preorder, List.flatMap_subtype (fun _ _ => rfl), List.unattach_attach]

end Site

structure Walk where
  stack : List Site
  visited : List Site

namespace Walk

def start (site : Site) : Walk := { stack := [site], visited := [] }

/-- Visits the last site of the stack and leaves its children in its place, the first one last. A
walk with an empty stack has ended. -/
def step (walk : Walk) : Walk :=
  match walk.stack.getLast? with
  | none => walk
  | some site =>
      { stack := walk.stack.dropLast ++ site.children.reverse
        visited := walk.visited ++ [site] }

/-- What a walk has visited, and what its stack stands for. -/
def trace (walk : Walk) : List Site := walk.visited ++ walk.stack.reverse.flatMap Site.preorder

theorem step_concat (rest : List Site) (site : Site) (visited : List Site) :
    step { stack := rest ++ [site], visited } =
      { stack := rest ++ site.children.reverse, visited := visited ++ [site] } := by
  unfold step
  rw [List.getLast?_concat, List.dropLast_concat]

theorem trace_step (walk : Walk) : walk.step.trace = walk.trace := by
  obtain ⟨stack, visited⟩ := walk
  rcases List.eq_nil_or_concat' stack with rfl | ⟨rest, site, rfl⟩
  · rfl
  · unfold trace
    rw [step_concat, List.reverse_append, List.reverse_append, List.reverse_reverse,
      List.reverse_singleton, List.flatMap_append, List.flatMap_append, List.flatMap_singleton,
      Site.preorder_eq site, List.append_assoc]
    rfl

/-- A step takes one node off the stack; those under it stay there. -/
theorem total_step {walk : Walk} (waiting : walk.stack ≠ []) :
    Site.total walk.step.stack + 1 = Site.total walk.stack := by
  obtain ⟨stack, visited⟩ := walk
  rcases List.eq_nil_or_concat' stack with rfl | ⟨rest, site, rfl⟩
  · exact absurd rfl waiting
  · rw [step_concat]
    unfold Site.total
    rw [List.map_append, List.map_append, List.map_reverse, Site.map_node_children,
      List.map_singleton, Node.sizeAll_append, Node.sizeAll_append, Node.size_all_reverse,
      Node.sizeAll, Node.sizeAll, Node.size_eq]
    omega

theorem trace_steps (walk : Walk) (count : Nat) : (step^[count] walk).trace = walk.trace := by
  induction count generalizing walk with
  | zero => rfl
  | succ count induction => rw [Function.iterate_succ_apply, induction, trace_step]

theorem total_steps (walk : Walk) {count : Nat} (within : count ≤ Site.total walk.stack) :
    Site.total (step^[count] walk).stack + count = Site.total walk.stack := by
  induction count generalizing walk with
  | zero => rfl
  | succ count induction =>
      have waiting : walk.stack ≠ [] := by
        intro ended
        rw [ended] at within
        cases within
      have left := total_step waiting
      rw [Function.iterate_succ_apply]
      have later := induction walk.step (by omega)
      omega

theorem total_start (site : Site) : Site.total (start site).stack = site.node.size := by
  show Node.sizeAll [site.node] = site.node.size
  rw [Node.sizeAll, Node.sizeAll, Nat.add_zero]

theorem trace_start (site : Site) : (start site).trace = site.preorder :=
  List.append_nil site.preorder

theorem goes_on {site : Site} {count : Nat} (within : count < site.node.size) :
    (step^[count] (start site)).stack ≠ [] := by
  intro ended
  have left := total_steps (start site) (within.le.trans_eq (total_start site).symm)
  rw [ended, total_start, Site.total, List.map_nil, Node.sizeAll] at left
  omega

theorem ends (site : Site) :
    step^[site.node.size] (start site) = { stack := [], visited := site.preorder } := by
  have left := total_steps (start site) (total_start site).ge
  have trace := trace_steps (start site) site.node.size
  generalize step^[site.node.size] (start site) = final at left trace
  obtain ⟨stack, visited⟩ := final
  have ended : stack = [] := by
    cases stack with
    | nil => rfl
    | cons first rest =>
        rw [total_start, Site.total, List.map_cons, Node.sizeAll, Node.size_eq] at left
        omega
  rw [ended, trace_start] at trace
  rw [ended, ← trace]
  exact congrArg (Walk.mk []) (List.append_nil visited).symm

end Walk

namespace Site

theorem walk_all_preorder (pending : List Site) :
    walkAll pending = pending.flatMap preorder := by
  induction pending using walkAll.induct with
  | case1 => rw [walkAll, List.flatMap_nil]
  | case2 site pending induction =>
      rw [walkAll, induction, List.flatMap_append, List.flatMap_cons, preorder_eq, List.cons_append]

theorem walk_eq_preorder (site : Site) : site.walk = site.preorder := by
  rw [walk, walk_all_preorder, List.flatMap_singleton]

/-- What is below a site is visited in one run. -/
theorem walk_inside {root site : Site} (below : Below root site) : site.walk <:+: root.walk := by
  induction below with
  | here => exact List.infix_refl _
  | @down above child _ step induction =>
      obtain ⟨before, later, split⟩ := List.append_of_mem step
      refine List.IsInfix.trans ?_ induction
      rw [above.walk_eq, split, List.flatMap_append, List.flatMap_cons]
      exact ⟨above :: before.flatMap walk, later.flatMap walk, by simp⟩

theorem above_before {root above child below : Site} (reached : Below root above)
    (step : child ∈ above.children) (under : Below child below) :
    [above, below].Sublist root.walk := by
  have later : below ∈ above.children.flatMap walk :=
    List.mem_flatMap.mpr ⟨child, step, (mem_walk child below).mpr under⟩
  have inOrder : [above, below].Sublist above.walk := by
    rw [above.walk_eq]
    exact (List.singleton_sublist.mpr later).cons_cons above
  exact inOrder.trans (walk_inside reached).sublist

theorem siblings_before {root above first second one other : Site} (reached : Below root above)
    (order : [first, second].Sublist above.children) (underFirst : Below first one)
    (underSecond : Below second other) : [one, other].Sublist root.walk := by
  have parts : [one, other].Sublist ([first, second].flatMap walk) := by
    rw [List.flatMap_cons, List.flatMap_singleton]
    exact (List.singleton_sublist.mpr ((mem_walk first one).mpr underFirst)).append
      (List.singleton_sublist.mpr ((mem_walk second other).mpr underSecond))
  have inOrder : [one, other].Sublist above.walk := by
    rw [above.walk_eq]
    exact (parts.trans (order.flatMap walk)).cons above
  exact inOrder.trans (walk_inside reached).sublist

/-- A walk over the sites below a site: it takes one step for each node and ends with their
preorder, in which each of them stands once, behind all above it and behind all that is below an
earlier sibling. -/
structure WalksInPreorder (site : Site) : Prop where
  goesOn : ∀ count < site.node.size, (Walk.step^[count] (Walk.start site)).stack ≠ []
  ends : Walk.step^[site.node.size] (Walk.start site) = { stack := [], visited := site.walk }
  recursive : site.walk = site.preorder
  children : site.preorder = site :: site.children.flatMap preorder
  every : ∀ other, other ∈ site.walk ↔ Below site other
  once : site.walk.Nodup
  aboveFirst : ∀ above child below, Below site above → child ∈ above.children →
    Below child below → [above, below].Sublist site.walk
  siblingsFirst : ∀ above first second below, Below site above →
    [first, second].Sublist above.children → Below first below →
      [below, second].Sublist site.walk

theorem walks_in_preorder (site : Site) : site.WalksInPreorder := by
  constructor
  case goesOn =>
    intro count within
    exact Walk.goes_on within
  case ends => rw [Walk.ends, walk_eq_preorder]
  case recursive => exact walk_eq_preorder site
  case children => exact preorder_eq site
  case every => exact mem_walk site
  case once => exact walk_nodup site
  case aboveFirst =>
    intro above child below reached step under
    exact above_before reached step under
  case siblingsFirst =>
    intro above first second below reached order under
    exact siblings_before reached order under .here

end Site

def Node.IsAnnotatedField (node : Node) : Prop :=
  node.kind = "field_declaration" ∧ ∃ child ∈ node.children, child.kind = "attribute_list"

instance (node : Node) : Decidable node.IsAnnotatedField := inferInstanceAs (Decidable (_ ∧ _))

theorem Node.is_candidate_iff (node : Node) :
    node.isCandidate = decide node.IsAnnotatedField := by
  unfold isCandidate hasChild
  rw [Bool.eq_iff_iff, decide_eq_true_iff]
  simp [IsAnnotatedField]

/-- A walk visits a tree in preorder, whatever the tree. So the candidates of a source are its
annotated fields in preorder, and a receiver that is given some sources holds the candidates of
each of them in turn. -/
theorem candidates_in_preorder :
    (∀ site : Site, site.WalksInPreorder) ∧
      (∀ source : Source, source.candidates =
        ((Site.root source.root).preorder.filter fun site => site.node.IsAnnotatedField).map
          (Candidate.mk source)) ∧
      ∀ sources : List Source,
        candidateReceiver.collect sources = some (sources.flatMap Source.candidates) := by
  refine ⟨Site.walks_in_preorder, fun source => ?_, collect_candidates⟩
  rw [candidates_eq, Source.sites, Site.walk_eq_preorder]
  simp only [Node.is_candidate_iff]

end PropertyGen
