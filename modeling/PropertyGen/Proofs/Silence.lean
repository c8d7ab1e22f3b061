import PropertyGen.Generation.Run
import PropertyGen.Proofs.Runs

/-!
Steps that only make notes. Building a program, binding the marker and reading a field with its
attributes report nothing, whether they return or not.
-/

namespace PropertyGen

namespace Logged

variable {α β : Type}

def Silent (logged : Logged α) : Prop := logged.diagnostics = []

theorem silent_pure (value : α) : Silent (Pure.pure value : Logged α) := rfl

theorem silent_fail (fault : Fault) : Silent (Logged.fail fault : Logged α) := rfl

theorem silent_of_except (outcome : Except Fault α) : Silent (Logged.ofExcept outcome) := rfl

theorem silent_notes (notes : List Note) : Silent (Logged.emit (notes.map .note)) :=
  diagnostics_notes notes

theorem silent_bind {first : Logged α} {next : α → Logged β} (firstSilent : Silent first)
    (nextSilent : ∀ value, Silent (next value)) : Silent (first >>= next) := by
  unfold Silent diagnostics at *
  cases outcome : first.outcome with
  | error fault => rw [events_bind_error outcome, firstSilent]
  | ok value =>
      rw [events_bind_ok outcome, diagnostics_append, firstSilent, nextSilent value]
      rfl

theorem silent_for_each {action : α → Logged β} (silent : ∀ element, Silent (action element))
    (elements : List α) : Silent (forEach action elements) := by
  induction elements with
  | nil => exact silent_pure []
  | cons element rest induction =>
      rw [for_each_cons]
      apply silent_bind (silent element)
      intro result
      exact silent_bind induction fun results => silent_pure _

end Logged

open Logged

theorem Expression.fold_silent {lookup : String → Logged Folding}
    (silent : ∀ name, Silent (lookup name)) (expression : Expression) :
    Silent (expression.fold lookup) := by
  induction expression with
  | leaf folding => exact silent_of_except folding
  | name text => exact silent text
  | parenthesized inner induction => exact induction
  | negated operand induction =>
      rw [fold]
      exact silent_bind induction fun folding => silent_pure _
  | joined left right leftInduction rightInduction =>
      rw [fold]
      apply silent_bind leftInduction
      intro first
      exact silent_bind rightInduction fun second => silent_pure _

/-- On the constants that are not in use yet: each step down takes one of them away. -/
theorem ConstantDeclaration.fold_name_silent {constants : List ConstantDeclaration}
    {find : String → Scope → Logged (Option { constant // constant ∈ constants })}
    (silent : ∀ name scope, Silent (find name scope)) (globals : List Using) (used : List String)
    (name : String) (scope : Scope) : Silent (foldName find globals used name scope) := by
  induction steps : (unused constants used).length using Nat.strongRecOn
    generalizing used name scope with
  | ind steps induction =>
      rw [foldName]
      apply silent_bind (silent name scope)
      intro found
      match found with
      | none => exact silent_pure none
      | some ⟨constant, declared⟩ =>
          by_cases inUse : constant.key ∈ used
          · simp only [inUse, dite_true]
            exact silent_bind (silent_notes [.circularConstant constant.key]) fun _ => silent_pure _
          · simp only [inUse, dite_false]
            refine Expression.fold_silent (fun inner => ?_) constant.expression
            have fewer := length_unused_lt declared inUse
            exact induction _ (steps ▸ fewer) (constant.key :: used) inner _ rfl

namespace Program

variable (program : Program)

theorem constant_value_silent (name : String) (scope : Scope) :
    Silent (program.constantValue name scope) := by
  refine ConstantDeclaration.fold_name_silent (fun name scope => ?_) ..
  exact silent_bind (silent_notes _) fun _ => silent_pure _

theorem argument_value_silent (source : Source) (scope : Scope) (argument : Argument) :
    Silent (program.argumentValue source scope argument) := by
  unfold argumentValue
  refine silent_bind (Expression.fold_silent (fun name => ?_) _) fun folding => silent_pure _
  exact program.constant_value_silent name scope

theorem attribute_use_silent (source : Source) (scope : Scope) (node : Node) :
    Silent (program.attributeUse? source scope node) := by
  unfold attributeUse?
  cases node.childOr? "name" ["identifier", "qualified_name", "alias_qualified_name"] with
  | none => exact silent_pure none
  | some nameNode =>
      apply silent_bind (silent_notes _)
      intro _
      refine silent_bind (silent_for_each (fun argument => ?_) _) fun arguments => silent_pure _
      exact program.argument_value_silent source scope argument

theorem field_symbol_silent (source : Source) (declarator : Site) :
    Silent (program.fieldSymbol? source declarator) := by
  unfold fieldSymbol?
  split
  · exact silent_pure none
  · dsimp only
    split
    · exact silent_pure none
    · refine silent_bind ?_ fun attributes => silent_pure _
      refine silent_bind (silent_for_each (fun node => ?_) _) fun attributes => silent_pure _
      exact program.attribute_use_silent source _ node

theorem create_silent (sources : List Source) (references : References) :
    Silent (create sources references) := by
  apply silent_bind (silent_of_except _)
  intro program
  exact silent_bind (silent_notes program.buildNotes) fun _ => silent_pure program

def complete (options : Options) : Logged Program := do
  let marked ← program.addSources [Marker.source]
  if options.extraReferences.isEmpty then Pure.pure marked
  else marked.addReferences (referenceTable options.extraReferences)

def lookUp (complete : Program) : Logged Bound :=
  match complete.type? Marker.metadataName, complete.type? notificationName with
  | some marker, some notification => Pure.pure { program := complete, marker, notification }
  | _, _ => Logged.fail (.unboundTypes Marker.metadataName notificationName)

theorem bind_eq (options : Options) : program.bind options = program.complete options >>= lookUp := by
  unfold complete
  rw [bind_assoc]
  refine congrArg (program.addSources [Marker.source] >>= ·) (funext fun marked => ?_)
  by_cases plain : options.extraReferences.isEmpty
  · rw [if_pos plain, if_pos plain]
    rfl
  · rw [if_neg plain, if_neg plain]
    rfl

theorem complete_silent (options : Options) : Silent (program.complete options) := by
  apply silent_bind (create_silent _ _)
  intro marked
  split
  · exact silent_pure marked
  · exact create_silent _ _

theorem bind_silent (options : Options) : Silent (program.bind options) := by
  rw [bind_eq]
  apply silent_bind (program.complete_silent options)
  intro complete
  unfold lookUp
  split
  · exact silent_pure _
  · exact silent_fail _

end Program

end PropertyGen
