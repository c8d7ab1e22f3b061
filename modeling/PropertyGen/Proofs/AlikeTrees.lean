import Mathlib.Data.List.Forall2
import PropertyGen.Program.Scope

/-!
Trees that differ only where a scope does not look: inside of fields and lists of attributes, and in
directives that are read alike. Whatever the shapes of these are, the scopes of the trees are the
same.
-/

namespace PropertyGen

namespace Node

structure SameHead (one other : Node) : Prop where
  kind : one.kind = other.kind
  named : one.named = other.named
  field : one.field? = other.field?
  start : one.start = other.start
  stop : one.stop = other.stop

theorem SameHead.refl (node : Node) : node.SameHead node := ⟨rfl, rfl, rfl, rfl, rfl⟩

theorem SameHead.text {source : Source} {one other : Node} (head : one.SameHead other) :
    source.text one = source.text other := by
  unfold Source.text
  rw [head.start, head.stop]

/-- The kinds of the nodes whose children have no part in a scope, but for what a directive says. -/
def closedKinds : List String := ["field_declaration", "attribute_list", "using_directive"]

/-- The same trees, but for what is inside of closed nodes. -/
inductive Alike (source : Source) : Node → Node → Prop
  | same (node : Node) : Alike source node node
  | closed {one other : Node} (head : one.SameHead other) (kind : one.kind ∈ closedKinds)
      (fieldless : one.field? = none)
      (directive : one.kind = "using_directive" →
        Using.ofNode? source one = Using.ofNode? source other) : Alike source one other
  | inside {one other : Node} (head : one.SameHead other) (kind : one.kind ≠ "using_directive")
      (children : List.Forall₂ (Alike source) one.children other.children) :
      Alike source one other

structure OpenAlike (source : Source) (one other : Node) : Prop where
  head : one.SameHead other
  children : List.Forall₂ (Alike source) one.children other.children

variable {source : Source} {one other : Node}

namespace Alike

theorem head (alike : one.Alike source other) : one.SameHead other := by
  cases alike with
  | same => exact .refl one
  | closed head => exact head
  | inside head => exact head

theorem opened (alike : one.Alike source other)
    (seen : one.field? ≠ none ∨ one.kind ∉ closedKinds) : one.OpenAlike source other := by
  cases alike with
  | same => exact ⟨.refl one, List.forall₂_same.mpr fun node _ => .same node⟩
  | closed head kind fieldless =>
      rcases seen with filled | apart
      · exact absurd fieldless filled
      · exact absurd kind apart
  | inside head _ children => exact ⟨head, children⟩

theorem directive (alike : one.Alike source other) (isDirective : one.kind = "using_directive") :
    Using.ofNode? source one = Using.ofNode? source other := by
  cases alike with
  | same => rfl
  | closed _ _ _ directive => exact directive isDirective
  | inside _ kind => exact absurd isDirective kind

end Alike

/-- A search by the heads finds nodes that are alike, and open if it passes over closed ones. -/
theorem find_alike {test : Node → Bool} {nodes others : List Node}
    (heads : ∀ node other : Node, node.SameHead other → test node = test other)
    (seen : ∀ node, test node = true → node.field? ≠ none ∨ node.kind ∉ closedKinds)
    (alike : List.Forall₂ (Alike source) nodes others) :
    Option.Rel (OpenAlike source) (nodes.find? test) (others.find? test) := by
  induction alike with
  | nil => exact .none
  | @cons node other _ _ first _ induction =>
      rw [List.find?_cons, List.find?_cons, ← heads node other first.head]
      cases found : test node with
      | true => exact .some (first.opened (seen node found))
      | false => exact induction

namespace OpenAlike

theorem child_or (alike : one.OpenAlike source other) (field : String) {kinds : List String}
    (apart : ∀ kind ∈ kinds, kind ∉ closedKinds) :
    Option.Rel (OpenAlike source) (one.childOr? field kinds) (other.childOr? field kinds) := by
  have filled : Option.Rel (OpenAlike source) (one.child? field) (other.child? field) := by
    refine find_alike (fun node other head => ?_) (fun node found => .inl ?_) alike.children
    · rw [head.field]
    · rw [of_decide_eq_true found]
      exact Option.some_ne_none field
  have listed : Option.Rel (OpenAlike source) (one.childOf? kinds) (other.childOf? kinds) := by
    unfold childOf? namedChildren
    rw [List.find?_filter, List.find?_filter]
    refine find_alike (fun node other head => ?_) (fun node found => .inr ?_) alike.children
    · rw [head.named, head.kind]
    · have kind := (of_decide_eq_true found).2
      exact apart node.kind (List.contains_iff_mem.mp kind)
  unfold childOr?
  generalize one.child? field = first, other.child? field = second at filled
  cases filled with
  | none => exact listed
  | some alike => exact .some alike

theorem declared_name (alike : one.OpenAlike source other) :
    source.declaredName one = source.declaredName other := by
  have names := alike.child_or "name" (by decide : ∀ kind ∈ ["identifier", "qualified_name"], _)
  unfold Source.declaredName
  generalize one.childOr? "name" _ = first, other.childOr? "name" _ = second at names
  cases names with
  | none => rfl
  | some name =>
      show Text.compact (source.text _) = Text.compact (source.text _)
      rw [name.head.text]

theorem usings (alike : one.OpenAlike source other) :
    source.usingsIn one = source.usingsIn other := by
  unfold Source.usingsIn namedChildren
  rw [List.filter_filter, List.filter_filter]
  have children := alike.children
  generalize one.children = nodes, other.children = others at children
  induction children with
  | nil => rfl
  | @cons node other _ _ first _ induction =>
      have test : (decide (node.kind = "using_directive") && node.named) =
          (decide (other.kind = "using_directive") && other.named) := by
        rw [first.head.kind, first.head.named]
      rw [List.filter_cons, List.filter_cons, ← test]
      split
      case isFalse => exact induction
      case isTrue found =>
        have isDirective := of_decide_eq_true (Bool.and_eq_true_iff.mp found).1
        rw [List.filterMap_cons, List.filterMap_cons, ← first.directive isDirective, induction]

theorem type_segment (alike : one.OpenAlike source other) :
    source.typeSegment one = source.typeSegment other := by
  have lists := alike.child_or "type_parameters"
    (by decide : ∀ kind ∈ ["type_parameter_list"], _)
  unfold Source.typeSegment
  dsimp only
  rw [alike.declared_name]
  generalize one.childOr? "type_parameters" _ = first,
    other.childOr? "type_parameters" _ = second at lists
  cases lists with
  | none => rfl
  | @some parameters others list =>
      have arity : (parameters.namedChildren.filter fun child =>
            child.kind = "type_parameter").length =
          (others.namedChildren.filter fun child => child.kind = "type_parameter").length := by
        unfold namedChildren
        rw [List.filter_filter, List.filter_filter]
        refine (List.rel_filter (fun node other alike => ?_) list.children).length_eq
        show _ = true ↔ _ = true
        rw [alike.head.kind, alike.head.named]
      dsimp only
      rw [arity]

theorem body_usings (alike : one.OpenAlike source other) :
    (one.body?.map source.usingsIn).getD [] = (other.body?.map source.usingsIn).getD [] := by
  have bodies := alike.child_or "body" (by decide : ∀ kind ∈ ["declaration_list"], _)
  unfold body?
  generalize one.childOr? "body" _ = first, other.childOr? "body" _ = second at bodies
  cases bodies with
  | none => rfl
  | some body => exact body.usings

theorem file_scoped (alike : one.OpenAlike source other) (offset : Nat) :
    Option.Rel (OpenAlike source) (Surroundings.fileScopedBefore? one offset)
      (Surroundings.fileScopedBefore? other offset) := by
  unfold Surroundings.fileScopedBefore? namedChildren
  rw [List.find?_filter, List.find?_filter]
  refine find_alike (fun node other head => ?_) (fun node found => .inr ?_) alike.children
  · rw [head.named, head.kind, head.stop]
  · have kind := of_decide_eq_true (Bool.and_eq_true_iff.mp (of_decide_eq_true found).2).1
    rw [kind]
    decide

end OpenAlike

end Node

open Node (Alike)

variable {source : Source}

/-- What a node declares is not inside of the closed nodes below it. -/
theorem Surroundings.add_alike {one other : Node} (alike : one.Alike source other) (offset : Nat)
    (surroundings : Surroundings) :
    surroundings.addAncestor source offset one = surroundings.addAncestor source offset other := by
  unfold addAncestor Node.isTypeDeclaration
  rw [← alike.head.kind]
  split
  case isTrue isType =>
    have apart : ∀ kind ∈ typeDeclarationKinds, kind ∉ Node.closedKinds := by decide
    have opened := alike.opened (.inr (apart one.kind (List.contains_iff_mem.mp isType)))
    rw [opened.type_segment]
  case isFalse =>
    split
    case isTrue isSpace =>
      have opened := alike.opened (.inr (isSpace ▸ by decide))
      rw [opened.declared_name, opened.body_usings]
    case isFalse =>
      split
      case isTrue isFileScoped =>
        have opened := alike.opened (.inr (isFileScoped ▸ by decide))
        rw [opened.declared_name, opened.usings]
      case isFalse =>
        split
        case isFalse => rfl
        case isTrue isUnit =>
          have opened := alike.opened (.inr (isUnit ▸ by decide))
          have declarations := opened.file_scoped offset
          dsimp only
          rw [opened.usings]
          generalize fileScopedBefore? one offset = first,
            fileScopedBefore? other offset = second at declarations
          cases declarations with
          | none => rfl
          | some declaration =>
              dsimp only
              rw [declaration.declared_name]

theorem Source.scope_alike (globals : List Using) {one other : Site}
    (ancestors : List.Forall₂ (Alike source) one.ancestors other.ancestors)
    (start : one.node.start = other.node.start) :
    source.scope globals one = source.scope globals other := by
  unfold Source.scope Surroundings.ofSite
  rw [start]
  generalize Surroundings.none = surroundings
  generalize one.ancestors = nodes, other.ancestors = others at ancestors
  induction ancestors generalizing surroundings with
  | nil => rfl
  | cons first _ induction =>
      rw [List.foldl_cons, List.foldl_cons, Surroundings.add_alike first, induction]

end PropertyGen
