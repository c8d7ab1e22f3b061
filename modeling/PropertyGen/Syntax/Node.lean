/-!
Syntax trees. A node knows its kind, the byte range it covers, the field it fills in its
parent, and its children; tokens are nodes that are not named.
-/

namespace PropertyGen

structure Node where
  kind : String
  named : Bool
  field? : Option String
  start : Nat
  stop : Nat
  children : List Node
deriving Repr, Inhabited

namespace Node

def namedChildren (node : Node) : List Node := node.children.filter (·.named)

def child? (node : Node) (field : String) : Option Node :=
  node.children.find? fun child => child.field? = some field

def childOf? (node : Node) (kinds : List String) : Option Node :=
  node.namedChildren.find? fun child => kinds.contains child.kind

/-- The child that fills a field, or else the first named child of one of the kinds. -/
def childOr? (node : Node) (field : String) (kinds : List String) : Option Node :=
  node.child? field <|> node.childOf? kinds

def hasChild (node : Node) (kind : String) : Bool :=
  node.children.any fun child => child.kind = kind

mutual

def size : Node → Nat
  | ⟨_, _, _, _, _, children⟩ => sizeAll children + 1

def sizeAll : List Node → Nat
  | [] => 0
  | child :: rest => child.size + sizeAll rest

end

theorem size_eq (node : Node) : node.size = sizeAll node.children + 1 := by
  cases node
  simp [size]

theorem sizeAll_append (first second : List Node) :
    sizeAll (first ++ second) = sizeAll first + sizeAll second := by
  induction first with
  | nil => simp [sizeAll]
  | cons child rest induction =>
      simp only [List.cons_append, sizeAll, induction]
      omega

end Node

end PropertyGen
