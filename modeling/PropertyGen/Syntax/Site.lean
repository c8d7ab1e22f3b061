import PropertyGen.Syntax.Node

/-!
A node together with the way to it from the root: its ancestors, and at each step the
siblings before it. `walk` visits the sites of a tree in document order.
-/

namespace PropertyGen

structure Step where
  parent : Node
  earlier : List Node
deriving Repr

/-- The path begins with the step to the node itself. -/
structure Site where
  node : Node
  path : List Step
deriving Repr

namespace Site

def root (node : Node) : Site := { node, path := [] }

def parent? (site : Site) : Option Site :=
  match site.path with
  | [] => none
  | step :: path => some { node := step.parent, path }

def ancestors (site : Site) : List Node := site.path.map (·.parent)

def earlier (site : Site) : List Node :=
  match site.path with
  | [] => []
  | step :: _ => step.earlier

def childrenFrom (parent : Node) (path : List Step) : List Node → List Node → List Site
  | _, [] => []
  | earlier, child :: rest =>
      { node := child, path := { parent, earlier } :: path }
        :: childrenFrom parent path (child :: earlier) rest

def children (site : Site) : List Site := childrenFrom site.node site.path [] site.node.children

def namedChildren (site : Site) : List Site := site.children.filter (·.node.named)

def total (sites : List Site) : Nat := Node.sizeAll (sites.map (·.node))

theorem map_node_childrenFrom (parent : Node) (path : List Step) (earlier nodes : List Node) :
    (childrenFrom parent path earlier nodes).map (·.node) = nodes := by
  induction nodes generalizing earlier with
  | nil => rfl
  | cons child rest induction => simp [childrenFrom, induction]

theorem map_node_children (site : Site) : site.children.map (·.node) = site.node.children :=
  map_node_childrenFrom ..

/-- Visits the pending sites and all below them: the first one, then its children, then the rest. -/
def walkAll : List Site → List Site
  | [] => []
  | site :: pending => site :: walkAll (site.children ++ pending)
termination_by pending => total pending
decreasing_by
  simp only [total, List.map_append, List.map_cons, Node.sizeAll, Node.sizeAll_append,
    map_node_children, Node.size_eq]
  omega

def walk (site : Site) : List Site := walkAll [site]

end Site

end PropertyGen
