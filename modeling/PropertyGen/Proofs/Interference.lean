import Mathlib.Data.List.Basic
import Mathlib.Data.List.Find
import PropertyGen.Proofs.Lookup

/-!
What a lookup depends on. It asks whether certain names are known, and each of them is made of the
names around a site and the segments that are written there; known names that agree on all of these
give the same answer.
-/

namespace PropertyGen

namespace KnownNames

/-- Known names that agree on native names. What is native stays so on the way inwards. -/
structure AgreeOn (native : String → Prop) (first second : KnownNames) : Prop where
  types : ∀ name, native name → second.types.contains name = first.types.contains name
  spaces : ∀ name, native name → second.spaces.contains name = first.spaces.contains name
  nested : ∀ outer name, native outer → native (Names.nest outer name)
  qualified : ∀ space name, space ≠ "" → native space → native (Names.qualify space name)

/-- A segment that cannot tell two sets of known names apart at the global level: it is native, or
it is the last one and names a type in neither of them. -/
def Neutral (native : String → Prop) (first second : KnownNames) (segment : String)
    (rest : List String) : Prop :=
  native segment ∨
    (rest = [] ∧ first.types.contains segment = false ∧ second.types.contains segment = false)

def Clear (native : String → Prop) (first second : KnownNames) : List String → Prop
  | [] => True
  | segment :: rest => Neutral native first second segment rest ∧ Clear native first second rest

section Inwards

variable {native : String → Prop} {first second : KnownNames}

theorem clear_append {outer rest : List String} (own : ∀ segment ∈ outer, native segment)
    (clear : Clear native first second rest) : Clear native first second (outer ++ rest) := by
  induction outer with
  | nil => exact clear
  | cons segment outer induction =>
      obtain ⟨head, others⟩ := List.forall_mem_cons.mp own
      exact ⟨.inl head, induction others⟩

theorem clear_of_native {segments : List String} (own : ∀ segment ∈ segments, native segment) :
    Clear native first second segments := by
  rw [← List.append_nil segments]
  exact clear_append own trivial

variable (agree : AgreeOn native first second)
include agree

theorem in_type_eq {current : String} (own : native current) (segments : List String) :
    second.inType? current segments = first.inType? current segments := by
  induction segments generalizing current with
  | nil => rfl
  | cons segment rest induction =>
      have nested := agree.nested current segment own
      unfold inType?
      dsimp only
      rw [agree.types _ nested, induction nested]

theorem candidate_cases {space segment : String} {rest : List String}
    (own : space ≠ "" → native space)
    (neutral : Neutral native first second segment rest) :
    native (Names.qualify space segment) ∨
      (rest = [] ∧ first.types.contains (Names.qualify space segment) = false ∧
        second.types.contains (Names.qualify space segment) = false) := by
  by_cases isGlobal : space = ""
  · unfold Names.qualify
    rw [if_pos isGlobal]
    exact neutral
  · exact .inl (agree.qualified space segment isGlobal (own isGlobal))

theorem in_space_eq {current : String} {segments : List String}
    (own : current ≠ "" → native current) (clear : Clear native first second segments) :
    second.inSpace? current segments = first.inSpace? current segments := by
  induction segments generalizing current with
  | nil => rfl
  | cons segment rest induction =>
      unfold inSpace?
      dsimp only
      rcases candidate_cases agree own clear.1 with inside | ⟨last, firstNone, secondNone⟩
      · rw [agree.types _ inside, agree.spaces _ inside, in_type_eq agree inside,
          induction (fun _ => inside) clear.2]
      · rw [firstNone, secondNone, last]
        simp [inSpace?]

theorem absolute_eq {segments : List String} (clear : Clear native first second segments) :
    second.absolute? segments = first.absolute? segments :=
  in_space_eq agree (fun isNamed => absurd rfl isNamed) clear

end Inwards

/-- A directive whose target is native, as a whole and segment by segment. -/
def NativeTarget (native : String → Prop) (directive : Using) : Prop :=
  (directive.target ≠ "" → native directive.target) ∧
    ∀ segment ∈ Names.segments directive.target, native segment

section Levels

variable {native : String → Prop} {first second : KnownNames}
  (agree : AgreeOn native first second) {head : String} {rest : List String}
include agree

theorem via_alias_eq {usings : List Using}
    (targets : ∀ directive ∈ usings, NativeTarget native directive)
    (clear : Clear native first second rest) :
    second.viaAlias? usings head rest = first.viaAlias? usings head rest := by
  unfold viaAlias?
  induction usings with
  | nil => rfl
  | cons directive others induction =>
      obtain ⟨own, later⟩ := List.forall_mem_cons.mp targets
      rw [List.findSome?_cons, List.findSome?_cons, induction later,
        absolute_eq agree (clear_append own.2 clear)]

theorem imported_types_eq {usings : List Using}
    (targets : ∀ directive ∈ usings, NativeTarget native directive)
    (neutral : Neutral native first second head rest) :
    second.importedTypes usings head = first.importedTypes usings head := by
  unfold importedTypes
  apply List.filterMap_congr
  intro directive member
  have own := (targets directive (List.mem_filter.mp member).1).1
  dsimp only
  rcases candidate_cases agree own neutral with inside | ⟨-, firstNone, secondNone⟩
  · rw [agree.types _ inside]
  · rw [firstNone, secondNone]

/-- The imported types are native: those that are not are types in neither of the two. -/
theorem imported_type_native {usings : List Using}
    (targets : ∀ directive ∈ usings, NativeTarget native directive)
    (neutral : Neutral native first second head rest) :
    ∀ type ∈ first.importedTypes usings head, native type := by
  intro type member
  unfold importedTypes at member
  obtain ⟨directive, listed, found⟩ := List.mem_filterMap.mp member
  have own := (targets directive (List.mem_filter.mp listed).1).1
  dsimp only at found
  rcases candidate_cases agree own neutral with inside | ⟨-, firstNone, -⟩
  · split at found
    · rw [← Option.some.inj found]
      exact inside
    · cases found
  · rw [firstNone] at found
    cases found

theorem members_eq {space : String} (own : space ≠ "" → native space)
    (clear : Clear native first second (head :: rest)) :
    second.members space head rest = first.members space head rest := by
  unfold members
  dsimp only
  rcases candidate_cases agree own clear.1 with inside | ⟨last, firstNone, secondNone⟩
  · rw [agree.types _ inside, agree.spaces _ inside, in_type_eq agree inside,
      in_space_eq agree (fun _ => inside) clear.2]
  · rw [firstNone, secondNone, last]
    simp [inSpace?]

theorem directives_eq {usings : List Using}
    (targets : ∀ directive ∈ usings, NativeTarget native directive)
    (clear : Clear native first second (head :: rest)) :
    second.directives usings head rest = first.directives usings head rest := by
  have natives := imported_type_native agree targets clear.1
  unfold directives
  rw [via_alias_eq agree targets clear.2, imported_types_eq agree targets clear.1]
  cases first.viaAlias? usings head rest with
  | some type => rfl
  | none =>
      cases imported : first.importedTypes usings head with
      | nil => rfl
      | cons type more =>
          rw [imported] at natives
          dsimp only
          rw [in_type_eq agree (natives type List.mem_cons_self)]

end Levels

end KnownNames

structure Scope.Native (native : String → Prop) (scope : Scope) : Prop where
  enclosing : ∀ type ∈ scope.enclosing, native type
  spaces : ∀ level ∈ scope.levels, level.space ≠ "" → native level.space
  targets : ∀ level ∈ scope.levels, ∀ directive ∈ level.usings,
    KnownNames.NativeTarget native directive

namespace KnownNames

section Scopes

variable {native : String → Prop} {first second : KnownNames}
  (agree : AgreeOn native first second) {scope : Scope} (own : scope.Native native)
include agree own

theorem search_eq {segments : List String} (clear : Clear native first second segments) :
    second.search scope segments = first.search scope segments := by
  cases segments with
  | nil => rfl
  | cons head rest =>
      have enclosing : scope.enclosing.find?
            (fun type => second.types.contains (Names.nest type head)) =
          scope.enclosing.find? fun type => first.types.contains (Names.nest type head) := by
        apply List.find?_congr
        intro type member
        rw [agree.types _ (agree.nested type head (own.enclosing type member))]
      have levels (levels : List Level) (spaces : ∀ level ∈ levels, level.space ≠ "" →
            native level.space)
          (targets : ∀ level ∈ levels, ∀ directive ∈ level.usings, NativeTarget native directive) :
          second.atLevels head rest levels = first.atLevels head rest levels := by
        induction levels with
        | nil => rfl
        | cons level outer induction =>
            obtain ⟨ownSpace, otherSpaces⟩ := List.forall_mem_cons.mp spaces
            obtain ⟨ownTargets, otherTargets⟩ := List.forall_mem_cons.mp targets
            rw [at_levels_cons, at_levels_cons, members_eq agree ownSpace clear,
              directives_eq agree ownTargets clear, induction otherSpaces otherTargets]
      rw [search, search, enclosing, levels scope.levels own.spaces own.targets]
      cases found : scope.enclosing.find? fun type => first.types.contains (Names.nest type head) with
      | none => rfl
      | some type =>
          have inside := own.enclosing type (List.mem_of_find?_eq_some found)
          dsimp only
          rw [in_type_eq agree (agree.nested type head inside)]

theorem resolve_eq {use : NameUse} {name : String}
    (clear : ∀ request ∈ requests use name scope, Clear native first second request.segments) :
    second.resolve? use name scope = first.resolve? use name scope := by
  unfold resolve?
  generalize requests use name scope = asked at clear ⊢
  induction asked with
  | nil => rfl
  | cons request others induction =>
      obtain ⟨head, later⟩ := List.forall_mem_cons.mp clear
      have answers : second.answer scope request = first.answer scope request := by
        cases request with
        | absolute segments => exact congrArg Outcome.settled (absolute_eq agree head)
        | relative segments => exact search_eq agree own head
      rw [List.findSome?_cons, List.findSome?_cons, answers, induction later]

end Scopes

section Known

variable {known : KnownNames}

theorem followed_by_type {first second : Outcome} {type : String}
    (found : (first.followedBy second).type? = some type) :
    first.type? = some type ∨ second.type? = some type := by
  cases first with
  | undecided => exact .inr found
  | settled type? => exact .inl found
  | imported candidates type? => exact .inl found

theorem in_type_known {current type : String} (inside : known.types.contains current = true)
    {segments : List String} (found : known.inType? current segments = some type) :
    known.types.contains type = true := by
  induction segments generalizing current with
  | nil =>
      rw [← Option.some.inj found]
      exact inside
  | cons segment rest induction =>
      unfold inType? at found
      dsimp only at found
      split at found
      · next nested => exact induction nested found
      · cases found

theorem in_space_known {current type : String} {segments : List String}
    (found : known.inSpace? current segments = some type) : known.types.contains type = true := by
  induction segments generalizing current with
  | nil => cases found
  | cons segment rest induction =>
      unfold inSpace? at found
      dsimp only at found
      split at found
      · next isType => exact in_type_known isType found
      · split at found
        · exact induction found
        · cases found

theorem members_known {space head type : String} {rest : List String}
    (found : (known.members space head rest).type? = some type) :
    known.types.contains type = true := by
  unfold members at found
  dsimp only at found
  split at found
  · next isType => exact in_type_known isType found
  · split at found
    · next viaSpace =>
        rw [Option.some.inj found] at viaSpace
        split at viaSpace
        · exact in_space_known viaSpace
        · cases viaSpace
    · cases found

theorem directives_known {usings : List Using} {head type : String} {rest : List String}
    (found : (known.directives usings head rest).type? = some type) :
    known.types.contains type = true := by
  unfold directives at found
  cases viaAlias : known.viaAlias? usings head rest with
  | some target =>
      rw [viaAlias] at found
      rw [Option.some.inj found] at viaAlias
      obtain ⟨directive, -, named⟩ := List.exists_of_findSome?_eq_some viaAlias
      split at named
      · exact in_space_known named
      · cases named
  | none =>
      rw [viaAlias] at found
      cases imported : known.importedTypes usings head with
      | nil =>
          rw [imported] at found
          cases found
      | cons first more =>
          rw [imported] at found
          have member : first ∈ known.importedTypes usings head := by
            rw [imported]
            exact List.mem_cons_self
          obtain ⟨directive, -, own⟩ := List.mem_filterMap.mp member
          dsimp only at own
          split at own
          · next isType =>
              rw [Option.some.inj own] at isType
              exact in_type_known isType found
          · cases own

theorem search_known {scope : Scope} {segments : List String} {type : String}
    (found : (known.search scope segments).type? = some type) :
    known.types.contains type = true := by
  have levels (head : String) (rest : List String) (levels : List Level)
      (found : (known.atLevels head rest levels).type? = some type) :
      known.types.contains type = true := by
    induction levels with
    | nil => cases found
    | cons level outer induction =>
        rw [at_levels_cons] at found
        rcases followed_by_type found with inner | later
        · exact members_known inner
        · rcases followed_by_type later with directed | outermost
          · exact directives_known directed
          · exact induction outermost
  cases segments with
  | nil => cases found
  | cons head rest =>
      rw [search] at found
      cases enclosing : scope.enclosing.find? fun type =>
          known.types.contains (Names.nest type head) with
      | none =>
          rw [enclosing] at found
          exact levels head rest scope.levels found
      | some outer =>
          rw [enclosing] at found
          have nested := List.find?_some enclosing
          exact in_type_known nested found

theorem resolve_known {use : NameUse} {name type : String} {scope : Scope}
    (found : known.resolve? use name scope = some type) : known.types.contains type = true := by
  obtain ⟨request, -, answered⟩ := List.exists_of_findSome?_eq_some found
  cases request with
  | absolute segments => exact in_space_known answered
  | relative segments => exact search_known answered

end Known

/-- If the same names are known, every name binds alike. -/
theorem resolve_same {first second : KnownNames}
    (types : ∀ name, second.types.contains name = first.types.contains name)
    (spaces : ∀ name, second.spaces.contains name = first.spaces.contains name) :
    second.resolve? = first.resolve? := by
  funext use name scope
  have agree : AgreeOn (fun _ => True) first second :=
    ⟨fun name _ => types name, fun name _ => spaces name, fun _ _ _ => trivial,
      fun _ _ _ _ => trivial⟩
  apply resolve_eq agree
  · exact ⟨fun _ _ => trivial, fun _ _ _ => trivial,
      fun _ _ _ _ => ⟨fun _ => trivial, fun _ _ => trivial⟩⟩
  · intro request _
    exact clear_of_native fun _ _ => trivial

end KnownNames

end PropertyGen
