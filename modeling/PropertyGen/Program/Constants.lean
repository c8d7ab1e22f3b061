import PropertyGen.Program.Basic

/-!
The value of a constant by its name. Each constant on the way is used at most once, so folding
ends on every program, and a constant that needs its own value has none.
-/

namespace PropertyGen.Program

variable (program : Program)

/-- The types in which a name is looked up, and the name within them: the enclosing types for a
plain name, the type before the last dot otherwise. -/
def constantOwners (name : String) (scope : Scope) : List String × String :=
  let compact := (Text.compact name).toList
  let owner := String.ofList (Text.beforeLast '.' compact)
  let member := String.ofList (Text.afterLast '.' compact)
  if owner = "" then (scope.enclosing, member)
  else ((program.resolveName? .type owner scope).toList, member)

def ownerNotes (name : String) (scope : Scope) : List Note :=
  let owner := String.ofList (Text.beforeLast '.' (Text.compact name).toList)
  if owner = "" then [] else program.known.resolveNotes .type owner scope

def constant? (name : String) (scope : Scope) : Option ConstantDeclaration :=
  let (owners, member) := program.constantOwners name scope
  owners.findSome? fun owner =>
    program.constants.find? fun constant => constant.key = Names.member owner member

theorem mem_of_constant? {name : String} {scope : Scope} {constant : ConstantDeclaration}
    (found : program.constant? name scope = some constant) : constant ∈ program.constants := by
  obtain ⟨owner, -, foundIn⟩ := List.exists_of_findSome?_eq_some found
  exact List.mem_of_find?_eq_some foundIn

def findConstant (name : String) (scope : Scope) :
    Logged (Option { constant : ConstantDeclaration // constant ∈ program.constants }) := do
  Logged.emit ((program.ownerNotes name scope).map .note)
  pure (match found : program.constant? name scope with
    | none => none
    | some constant => some ⟨constant, program.mem_of_constant? found⟩)

end PropertyGen.Program

namespace PropertyGen.ConstantDeclaration

def unused (constants : List ConstantDeclaration) (used : List String) :
    List ConstantDeclaration :=
  constants.filter fun constant => !used.contains constant.key

theorem length_unused_lt {constants : List ConstantDeclaration} {used : List String}
    {constant : ConstantDeclaration} (declared : constant ∈ constants)
    (fresh : constant.key ∉ used) :
    (unused constants (constant.key :: used)).length < (unused constants used).length := by
  have fewer : unused constants (constant.key :: used) =
      (unused constants used).filter fun other => other.key ≠ constant.key := by
    simp only [unused, List.filter_filter]
    congr 1
    funext other
    simp [Bool.not_or]
  rw [fewer]
  refine List.length_filter_lt_length_iff_exists.mpr ⟨constant, ?_, by simp⟩
  simp [unused, declared, fresh]

/-- Folds the constant that a name means in a scope, given how constants are found and the keys
of those in use. -/
def foldName {constants : List ConstantDeclaration}
    (find : String → Scope → Logged (Option { constant // constant ∈ constants }))
    (globals : List Using) (used : List String) (name : String) (scope : Scope) : Logged Folding :=
  find name scope >>= fun
    | none => pure none
    | some ⟨constant, _⟩ =>
        if _ : constant.key ∈ used then do
          Logged.emit [.note (.circularConstant constant.key)]
          pure none
        else
          constant.expression.fold fun inner =>
            foldName find globals (constant.key :: used) inner (constant.scope globals)
termination_by (unused constants used).length
decreasing_by exact length_unused_lt (by assumption) (by assumption)

end PropertyGen.ConstantDeclaration

namespace PropertyGen.Program

def constantValue (program : Program) (name : String) (scope : Scope) : Logged Folding :=
  ConstantDeclaration.foldName program.findConstant program.globals [] name scope

end PropertyGen.Program
