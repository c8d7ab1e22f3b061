import PropertyGen.Program.Basic
import PropertyGen.Proofs.Fragments

/-!
Scopes from the inside out. A name that binds to a type in the inner levels of a scope binds to
that type in the whole scope: neither what stands further out nor an import that is added behind
the other directives has a say in it.
-/

namespace PropertyGen

def Level.adding (directive : Using) (level : Level) : Level :=
  { level with usings := level.usings ++ [directive] }

namespace Scope

/-- A scope that ends after some of its levels. -/
def inner (count : Nat) (scope : Scope) : Scope :=
  { scope with levels := scope.levels.take count }

def adding (directive : Using) (index : Nat) (scope : Scope) : Scope :=
  { scope with levels := scope.levels.modify index (Level.adding directive) }

variable {scope : Scope} {count index : Nat} {directive : Using}

theorem inner_inner (further : count ≤ index) :
    (scope.inner index).inner count = scope.inner count := by
  unfold inner
  rw [List.take_take, Nat.min_eq_left further]

theorem inner_levels (inside : index < scope.levels.length) :
    (scope.inner (index + 1)).levels = scope.levels.take index ++ [scope.levels[index]] :=
  List.take_succ_eq_append_getElem inside

theorem inner_adding (inside : index < scope.levels.length) :
    (scope.adding directive index).inner (index + 1) =
      { scope.inner (index + 1) with
        levels := scope.levels.take index ++ [scope.levels[index].adding directive] } := by
  have upTo : (scope.levels.take index ++ [scope.levels[index].adding directive]).length =
      index + 1 := by
    rw [List.length_append, List.length_take, Nat.min_eq_left (Nat.le_of_lt inside),
      List.length_singleton]
  unfold inner adding
  dsimp only
  rw [List.modify_eq_take_cons_drop inside, List.append_cons, List.take_left' upTo]

end Scope

namespace Outcome

theorem followed_by_bound {first : Outcome} {type : String} (bound : first.type? = some type)
    (second : Outcome) : (first.followedBy second).type? = some type := by
  cases first with
  | undecided => cases bound
  | settled type? => exact bound
  | imported candidates type? => exact bound

theorem followed_by_kept {first second other : Outcome} {type : String}
    (kept : second.type? = some type → other.type? = some type)
    (bound : (first.followedBy second).type? = some type) :
    (first.followedBy other).type? = some type := by
  cases first with
  | undecided => exact kept bound
  | settled type? => exact bound
  | imported candidates type? => exact bound

end Outcome

namespace KnownNames

variable {known : KnownNames} {head : String} {rest : List String} {directive : Using}
  {type : String}

theorem directives_concat (plain : directive.alias? = none) {usings : List Using}
    (bound : (known.directives usings head rest).type? = some type) :
    (known.directives (usings ++ [directive]) head rest).type? = some type := by
  have aliases : known.viaAlias? (usings ++ [directive]) head rest =
      known.viaAlias? usings head rest := by
    unfold viaAlias?
    rw [List.findSome?_append, List.findSome?_singleton, plain, if_neg (Option.some_ne_none _).symm,
      Option.or_none]
  have imports : ∃ more, known.importedTypes (usings ++ [directive]) head =
      known.importedTypes usings head ++ more := by
    unfold importedTypes
    rw [List.filter_append, List.filterMap_append]
    exact ⟨_, rfl⟩
  obtain ⟨more, candidates⟩ := imports
  unfold directives at bound ⊢
  rw [aliases, candidates]
  cases viaAlias : known.viaAlias? usings head rest with
  | some aliased =>
      rw [viaAlias] at bound
      exact bound
  | none =>
      rw [viaAlias] at bound
      cases offered : known.importedTypes usings head with
      | nil =>
          rw [offered] at bound
          cases bound
      | cons first others =>
          rw [offered] at bound
          exact bound

variable {first second : Scope} {name : String}

/-- What a scope binds is bound in another one with the same enclosing types that keeps the aliases
and all that is found level by level. -/
theorem resolve_kept (enclosing : second.enclosing = first.enclosing)
    (aliases : ∀ label target, first.aliasTarget? label = some target →
      second.aliasTarget? label = some target)
    (levels : ∀ head rest, (known.atLevels head rest first.levels).type? = some type →
      (known.atLevels head rest second.levels).type? = some type)
    (bound : known.resolve? .type name first = some type) :
    known.resolve? .type name second = some type := by
  rw [resolve_eq_meaning] at bound ⊢
  obtain ⟨request, asked, answered⟩ := Option.bind_eq_some_iff.mp bound
  refine Option.bind_eq_some_iff.mpr ⟨request, ?same, ?found⟩
  case same =>
    generalize WrittenName.ofText name = written at asked ⊢
    cases written with
    | bare own => exact asked
    | labelled label rest =>
        obtain ⟨target, labelled, own⟩ := Option.map_eq_some_iff.mp asked
        exact Option.map_eq_some_iff.mpr ⟨target, aliases label target labelled, own⟩
  case found =>
    match request with
    | .absolute segments => exact answered
    | .relative [] => cases answered
    | .relative (head :: rest) =>
        have inFirst : (known.search first (head :: rest)).type? = some type := answered
        show (known.search second (head :: rest)).type? = some type
        cases enclosed : first.enclosing.find? fun type =>
            known.types.contains (Names.nest type head) with
        | some around =>
            rw [search_enclosed enclosed] at inFirst
            rw [← enclosing] at enclosed
            rw [search_enclosed enclosed]
            exact inFirst
        | none =>
            rw [search_outside enclosed] at inFirst
            rw [← enclosing] at enclosed
            rw [search_outside enclosed]
            exact levels head rest inFirst

variable {scope : Scope}

theorem resolve_of_inner {count : Nat}
    (bound : known.resolve? .type name (scope.inner count) = some type) :
    known.resolve? .type name scope = some type := by
  have whole : (scope.inner count).levels ++ scope.levels.drop count = scope.levels :=
    List.take_append_drop count scope.levels
  refine resolve_kept ?enclosing ?aliases ?levels bound
  case enclosing => rfl
  case aliases =>
    intro label target found
    obtain ⟨directive, first, own⟩ := Option.map_eq_some_iff.mp found
    unfold Scope.aliasTarget?
    rw [← whole, List.flatMap_append, List.find?_append, first, Option.some_or, Option.map_some,
      own]
  case levels =>
    intro head rest found
    rw [← whole, at_levels_append]
    exact Outcome.followed_by_bound found _

/-- An import behind the directives of the outermost level leaves all that is bound as it is. -/
theorem resolve_importing (plain : directive.alias? = none) {inner : List Level} {last : Level}
    (levels : scope.levels = inner ++ [last])
    (bound : known.resolve? .type name scope = some type) :
    known.resolve? .type name { scope with levels := inner ++ [last.adding directive] } =
      some type := by
  refine resolve_kept ?enclosing ?aliases ?levels bound
  case enclosing => rfl
  case aliases =>
    intro label target found
    have unnamed : ¬ decide (directive.alias? = some label) = true := by
      rw [plain]
      exact Bool.false_ne_true
    unfold Scope.aliasTarget? at found ⊢
    rw [levels] at found
    rw [List.flatMap_append, List.flatMap_singleton] at found ⊢
    show Option.map _ (List.find? _ (_ ++ (last.usings ++ [directive]))) = _
    rw [← List.append_assoc, List.find?_append, List.find?_singleton, if_neg unnamed,
      Option.or_none]
    exact found
  case levels =>
    intro head rest found
    rw [levels] at found
    rw [at_levels_append, at_levels_cons, atLevels, Outcome.followed_by_undecided] at found ⊢
    exact Outcome.followed_by_kept (Outcome.followed_by_kept (directives_concat plain)) found

end KnownNames

/-- A name that binds to a type in the inner levels of a scope binds to it in the whole scope,
whatever the outer levels hold, and also with an import added behind the directives of the last one
of these inner levels or of a level further out. -/
theorem inner_binding_stays {known : KnownNames} {name type : String} {scope : Scope} {count : Nat}
    (bound : known.resolve? .type name (scope.inner count) = some type) :
    known.resolve? .type name scope = some type ∧
      ∀ (directive : Using) (index : Nat), directive.alias? = none → count ≤ index + 1 →
        known.resolve? .type name (scope.adding directive index) = some type := by
  refine ⟨KnownNames.resolve_of_inner bound, fun directive index plain further => ?_⟩
  -- up to the level that gets the directive the name is bound, and that level is the last one there
  have upTo : known.resolve? .type name (scope.inner (index + 1)) = some type := by
    apply KnownNames.resolve_of_inner
    rw [Scope.inner_inner further]
    exact bound
  by_cases inside : index < scope.levels.length
  · apply KnownNames.resolve_of_inner
    rw [Scope.inner_adding inside]
    exact KnownNames.resolve_importing plain (Scope.inner_levels inside) upTo
  · have same : scope.adding directive index = scope := by
      unfold Scope.adding
      rw [List.modify_eq_self (Nat.le_of_not_lt inside)]
    rw [same]
    exact KnownNames.resolve_of_inner bound

section Samples

/-- An alias in a block of a namespace, inside of a global namespace with a type of its name. -/
def aliasInside : Scope :=
  { enclosing := ["N.T"]
    levels := [
      ⟨"N", [⟨"X", some "V", false, false, "using V = X;"⟩]⟩,
      ⟨"", []⟩] }

def importOfY : Using := ⟨"Y", none, false, false, "using Y;"⟩

def hiddenNames : KnownNames :=
  knownNames [] [("X.Foo", "class"), ("V", "class"), ("Y.V", "class"), ("Y.V+Foo", "class")]

theorem inner_binding_stays_aliased :
    hiddenNames.resolve? .type "V.Foo" (aliasInside.inner 1) = some "X.Foo" ∧
      hiddenNames.resolve? .type "V.Foo" aliasInside = some "X.Foo" ∧
      hiddenNames.resolve? .type "V.Foo" (aliasInside.adding importOfY 0) = some "X.Foo" := by
  have bound : hiddenNames.resolve? .type "V.Foo" (aliasInside.inner 1) = some "X.Foo" := by
    decide +kernel
  have stays := inner_binding_stays bound
  exact ⟨bound, stays.1, stays.2 importOfY 0 rfl (Nat.le_refl 1)⟩

end Samples

end PropertyGen
