import PropertyGen.Program.Lookup

/-!
Looking a name up level by level. A level asks its members first and then its directives; a
level whose directives leave the name open answers as if it had none.
-/

namespace PropertyGen

namespace Outcome

/-- The first outcome, or the second one if the first leaves the name open. -/
def followedBy (first second : Outcome) : Outcome :=
  match first with
  | .undecided => second
  | outcome => outcome

theorem undecided_followed_by (second : Outcome) : undecided.followedBy second = second := rfl

theorem followed_by_assoc (first second third : Outcome) :
    (first.followedBy second).followedBy third = first.followedBy (second.followedBy third) := by
  cases first <;> rfl

theorem followed_by_decided {first : Outcome} (decided : first ≠ .undecided) (second : Outcome) :
    first.followedBy second = first := by
  cases first with
  | undecided => exact absurd rfl decided
  | settled type? => rfl
  | imported candidates type? => rfl

theorem followed_by_undecided (first : Outcome) : first.followedBy .undecided = first := by
  cases first <;> rfl

end Outcome

namespace KnownNames

variable (known : KnownNames)

def members (space head : String) (rest : List String) : Outcome :=
  let qualified := Names.qualify space head
  if known.types.contains qualified then .settled (known.inType? qualified rest)
  else
    match if known.spaces.contains qualified then known.inSpace? qualified rest else none with
    | some type => .settled (some type)
    | none => .undecided

/-- What some directives say about a name: the aliases first, then the imports. -/
def directives (usings : List Using) (head : String) (rest : List String) : Outcome :=
  match known.viaAlias? usings head rest with
  | some type => .settled (some type)
  | none =>
      match known.importedTypes usings head with
      | [] => .undecided
      | first :: more => .imported (first :: more) (known.inType? first rest)

variable {known} {head : String} {rest : List String}

theorem at_level_eq (level : Level) :
    known.atLevel level head rest =
      (known.members level.space head rest).followedBy
        (known.directives level.usings head rest) := by
  unfold atLevel members directives
  dsimp only
  by_cases isType : known.types.contains (Names.qualify level.space head) = true
  · rw [if_pos isType, if_pos isType]
    rfl
  · rw [if_neg isType, if_neg isType]
    generalize (if known.spaces.contains (Names.qualify level.space head) then
      known.inSpace? (Names.qualify level.space head) rest else none) = viaSpace
    cases viaSpace with
    | some type => rfl
    | none =>
        cases known.viaAlias? level.usings head rest with
        | some type => rfl
        | none => rfl

theorem at_levels_cons (level : Level) (outer : List Level) :
    known.atLevels head rest (level :: outer) =
      (known.members level.space head rest).followedBy
        ((known.directives level.usings head rest).followedBy
          (known.atLevels head rest outer)) := by
  rw [← Outcome.followed_by_assoc, ← at_level_eq, atLevels]
  cases known.atLevel level head rest <;> rfl

theorem at_levels_append (rest : List String) (inner outer : List Level) :
    known.atLevels head rest (inner ++ outer) =
      (known.atLevels head rest inner).followedBy (known.atLevels head rest outer) := by
  induction inner with
  | nil => rfl
  | cons level inner induction =>
      rw [List.cons_append, at_levels_cons, at_levels_cons, induction, Outcome.followed_by_assoc,
        Outcome.followed_by_assoc]

theorem directives_undecided {usings : List Using} :
    known.directives usings head rest = .undecided ↔
      known.viaAlias? usings head rest = none ∧ known.importedTypes usings head = [] := by
  unfold directives
  cases known.viaAlias? usings head rest with
  | some type => simp
  | none =>
      cases known.importedTypes usings head with
      | nil => simp
      | cons first more => simp

theorem directives_nil : known.directives [] head rest = .undecided := rfl

theorem directives_between (front : List Using) {between back : List Using}
    (undecided : known.directives between head rest = .undecided) :
    known.directives (front ++ (between ++ back)) head rest =
      known.directives (front ++ back) head rest := by
  have none := directives_undecided.mp undecided
  have aliases : known.viaAlias? (front ++ (between ++ back)) head rest =
      known.viaAlias? (front ++ back) head rest := by
    have viaBetween := none.1
    unfold viaAlias? at viaBetween ⊢
    rw [List.findSome?_append, List.findSome?_append, viaBetween, Option.none_or,
      List.findSome?_append]
  have imports : known.importedTypes (front ++ (between ++ back)) head =
      known.importedTypes (front ++ back) head := by
    have fromBetween := none.2
    unfold importedTypes at fromBetween ⊢
    rw [List.filter_append, List.filter_append, List.filterMap_append, List.filterMap_append,
      fromBetween, List.nil_append, List.filter_append, List.filterMap_append]
  unfold directives
  rw [aliases, imports]

theorem directives_append {first second : List Using}
    (undecided : known.directives first head rest = .undecided) :
    known.directives (first ++ second) head rest = known.directives second head rest :=
  directives_between [] undecided

end KnownNames

def bareLevels (spaces : List String) (globals : List Using) : List Level :=
  spaces.map (fun space => { space, usings := [] }) ++ [{ space := "", usings := globals }]

theorem bare_levels_usings (spaces : List String) (globals : List Using) :
    (bareLevels spaces globals).flatMap (·.usings) = globals := by
  unfold bareLevels
  rw [List.flatMap_append, List.flatMap_map, List.flatMap_singleton,
    List.flatMap_eq_nil_iff.mpr fun _ _ => rfl, List.nil_append]

/-- Each directive of a list has one with its alias and its target among the directives of a
space. -/
def Covers (space usings : List Using) : Prop :=
  ∀ directive ∈ usings, ∃ present ∈ space,
    present.alias? = directive.alias? ∧ present.target = directive.target

namespace KnownNames

variable {known : KnownNames} {head : String} {rest : List String}

theorem undecided_of_covers {space usings : List Using} (covers : Covers space usings)
    (undecided : known.directives space head rest = .undecided) :
    known.directives usings head rest = .undecided := by
  have none := directives_undecided.mp undecided
  apply directives_undecided.mpr
  constructor
  · have viaSpace := none.1
    unfold viaAlias? at viaSpace ⊢
    rw [List.findSome?_eq_none_iff] at viaSpace ⊢
    intro directive member
    obtain ⟨present, inside, sameAlias, sameTarget⟩ := covers directive member
    have silent := viaSpace present inside
    rw [sameAlias, sameTarget] at silent
    exact silent
  · have fromSpace := none.2
    unfold importedTypes at fromSpace ⊢
    rw [List.filterMap_eq_nil_iff] at fromSpace ⊢
    intro directive member
    have listed := List.mem_filter.mp member
    obtain ⟨present, inside, sameAlias, sameTarget⟩ := covers directive listed.1
    have plain : present ∈ space.filter fun directive => directive.alias?.isNone := by
      apply List.mem_filter.mpr
      rw [sameAlias]
      exact ⟨inside, listed.2⟩
    have silent := fromSpace present plain
    rw [sameTarget] at silent
    exact silent

/-- If all local directives leave a name open, the levels answer as the bare ones. -/
theorem at_levels_without_locals (spaces : List String) (usings : String → List Using)
    (unit globals : List Using)
    (inner : ∀ space ∈ spaces, known.directives (usings space) head rest = .undecided)
    (outermost : known.directives unit head rest = .undecided) :
    known.atLevels head rest
        (spaces.map (fun space => { space, usings := usings space }) ++
          [{ space := "", usings := unit ++ globals }]) =
      known.atLevels head rest (bareLevels spaces globals) := by
  unfold bareLevels
  induction spaces with
  | nil =>
      rw [List.map_nil, List.map_nil, List.nil_append, List.nil_append, at_levels_cons,
        at_levels_cons, directives_append outermost]
  | cons space outer induction =>
      have first := inner space List.mem_cons_self
      have others := induction fun other member => inner other (List.mem_cons_of_mem _ member)
      rw [List.map_cons, List.map_cons, List.cons_append, List.cons_append, at_levels_cons,
        at_levels_cons, first, directives_nil, others]

/-- Members of the innermost namespace come before all directives. -/
theorem at_levels_members {scope : Scope} (levels : scope.levels ≠ [])
    (decided : known.members scope.space head rest ≠ .undecided) :
    known.atLevels head rest scope.levels = known.members scope.space head rest := by
  unfold Scope.space at decided ⊢
  cases same : scope.levels with
  | nil => exact absurd same levels
  | cons level outer =>
      rw [same] at decided
      rw [at_levels_cons]
      exact Outcome.followed_by_decided decided _

theorem search_enclosed {scope : Scope} {type : String}
    (found : (scope.enclosing.find? fun type => known.types.contains (Names.nest type head)) =
      some type) :
    known.search scope (head :: rest) = .settled (known.inType? (Names.nest type head) rest) := by
  rw [search, found]

theorem search_outside {scope : Scope}
    (outside : (scope.enclosing.find? fun type => known.types.contains (Names.nest type head)) =
      none) :
    known.search scope (head :: rest) = known.atLevels head rest scope.levels := by
  rw [search, outside]

theorem search_nested {scope : Scope} {type : String} (enclosing : scope.enclosing = [type])
    (nested : known.types.contains (Names.nest type head) = true) :
    known.search scope (head :: rest) = .settled (known.inType? (Names.nest type head) rest) := by
  apply search_enclosed
  rw [enclosing]
  exact List.find?_cons_of_pos (p := fun type => known.types.contains (Names.nest type head)) nested

theorem search_levels {scope : Scope} {type : String} (enclosing : scope.enclosing = [type])
    (absent : ¬ known.types.contains (Names.nest type head) = true) :
    known.search scope (head :: rest) = known.atLevels head rest scope.levels := by
  apply search_outside
  rw [enclosing]
  exact List.find?_cons_of_neg (p := fun type => known.types.contains (Names.nest type head)) absent

theorem resolve_type_eq (known : KnownNames) (name : String) (scope : Scope) :
    known.resolve? .type name scope =
      (scope.request? name).bind fun request => (known.answer scope request).type? := by
  unfold resolve? requests
  cases scope.request? name with
  | none => rfl
  | some request =>
      show (NameUse.type.variants request).findSome?
        (fun request => (known.answer scope request).type?) = (known.answer scope request).type?
      unfold NameUse.variants
      by_cases empty : request.segments.isEmpty = true
      · rw [if_pos empty]
        have none : request.segments = [] := List.isEmpty_iff.mp empty
        cases request with
        | absolute segments =>
            rw [show segments = [] from none]
            rfl
        | relative segments =>
            rw [show segments = [] from none]
            rfl
      · rw [if_neg empty]
        exact List.findSome?_singleton

end KnownNames

end PropertyGen
