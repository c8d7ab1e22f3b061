import PropertyGen.Proofs.Grouping
import PropertyGen.Proofs.Lookup
import PropertyGen.Proofs.Spaces

/-!
What names mean in a fragment. A fragment puts the merged directives of its group into the block
of the innermost namespace, so they answer before the directives and members of the namespaces
further out; what they leave open keeps the meaning it has at the field.
-/

namespace PropertyGen

theorem Using.alias_of_key {first second : Using} (same : first.key = second.key) :
    first.alias? = second.alias? := by
  unfold Using.key at same
  cases one : first.alias? with
  | some label =>
      cases other : second.alias? with
      | some another =>
          rw [one, other] at same
          rw [ImportKey.named.inj same]
      | none =>
          rw [one, other] at same
          cases isStatic : second.isStatic <;> simp [isStatic] at same
  | none =>
      cases other : second.alias? with
      | some another =>
          rw [one, other] at same
          cases isStatic : first.isStatic <;> simp [isStatic] at same
      | none => rfl

namespace Grouping

theorem merge_keeps {present : Using} {space : List Using} (inside : present ∈ space)
    (usings : List Using) : present ∈ usings.foldl mergeUsing space := by
  induction usings generalizing space with
  | nil => exact inside
  | cons directive rest induction =>
      apply induction
      unfold mergeUsing
      by_cases known : (space.any fun present => present.key = directive.key) = true
      · rw [if_pos known]
        exact inside
      · rw [if_neg known]
        exact List.mem_append_left _ inside

theorem merge_covers_own {space : List Using} {directive : Using}
    (clear : conflict? space directive = none) :
    ∃ present ∈ mergeUsing space directive,
      present.alias? = directive.alias? ∧ present.target = directive.target := by
  unfold conflict? at clear
  unfold mergeUsing
  cases found : space.find? fun present => present.key = directive.key with
  | none =>
      have fresh : ¬ (space.any fun present => present.key = directive.key) = true := by
        intro known
        have present := List.find?_isSome.mpr (List.any_eq_true.mp known)
        rw [found] at present
        cases present
      rw [if_neg fresh]
      exact ⟨directive, List.mem_append_right _ List.mem_cons_self, rfl, rfl⟩
  | some present =>
      have inside := List.mem_of_find?_eq_some found
      have sameKey := List.find?_some found
      have known : (space.any fun present => present.key = directive.key) = true :=
        List.any_eq_true.mpr ⟨present, inside, sameKey⟩
      rw [found, Option.filter_eq_none_iff] at clear
      have sameTarget : present.target = directive.target := by
        by_contra differs
        exact clear present rfl (decide_eq_true differs)
      rw [if_pos known]
      exact ⟨present, inside, Using.alias_of_key (of_decide_eq_true sameKey), sameTarget⟩

theorem merge_covers {space usings : List Using} (clear : firstConflict? space usings = none) :
    Covers (usings.foldl mergeUsing space) usings := by
  induction usings generalizing space with
  | nil =>
      intro directive member
      cases member
  | cons directive rest induction =>
      rw [firstConflict?] at clear
      cases conflict : conflict? space directive with
      | some present =>
          rw [conflict] at clear
          cases clear
      | none =>
          rw [conflict] at clear
          intro other member
          rcases List.mem_cons.mp member with same | later
          · obtain ⟨present, inside, agrees⟩ := merge_covers_own conflict
            rw [same]
            exact ⟨present, merge_keeps inside rest, agrees⟩
          · exact induction clear other later

theorem group_covers {fields : List ResolvedField} {group : TypeGroup}
    (member : group ∈ typeGroups fields) {field : ResolvedField} (inside : field ∈ fields)
    (own : field.typeName = group.containing.metadataName) :
    Covers group.usings field.usings := by
  obtain ⟨draft, listed, same⟩ := List.mem_map.mp member
  obtain ⟨present, free⟩ := List.mem_filter.mp listed
  obtain ⟨usings, conflicting⟩ := draft_state present
  have name : field.typeName = draft.name := by
    rw [own, ← same]
    rfl
  have clear : clash? fields draft.name = none := by
    rw [← Option.not_isSome_iff_eq_none, ← conflicting]
    simpa using free
  have groupUsings : group.usings = (usingsOf fields draft.name).foldl mergeUsing [] := by
    rw [← usings, ← same]
    rfl
  rw [groupUsings]
  intro directive brought
  apply merge_covers clear
  apply List.mem_flatMap.mpr
  exact ⟨field, List.mem_filter.mpr ⟨inside, decide_eq_true name⟩, brought⟩

end Grouping

namespace Surroundings

section Single

variable {surroundings : Surroundings} {space : String} {usings : List Using}
  (single : surroundings.spaces = [(space, usings)])
include single

theorem space_of_single : surroundings.space = space := by
  unfold Surroundings.space
  rw [single]
  show Names.qualify "" space = space
  rw [Names.qualify, if_pos rfl]

theorem directives_of_single :
    surroundings.directivesAt space = usings.filter (fun directive => !directive.isGlobal) ∧
      ∀ outer ∈ (Names.spacesAround space).dropLast, surroundings.directivesAt outer = [] := by
  have declared : surroundings.declaredSpaces = [(space, usings)] := by
    unfold declaredSpaces
    rw [single]
    show [(Names.qualify "" space, usings)] = _
    rw [Names.qualify, if_pos rfl]
  unfold directivesAt usingsOf
  rw [declared]
  constructor
  · simp
  · intro outer around
    have different := Names.outer_space_ne around
    simp [different.symm]

theorem levels_of_single (named : space ≠ "") (globals : List Using) :
    (surroundings.scope globals).levels =
      { space, usings := usings.filter fun directive => !directive.isGlobal } ::
        bareLevels (Names.spacesAround space).dropLast.reverse
          (surroundings.unitDirectives ++ globals) := by
  obtain ⟨own, others⟩ := directives_of_single single
  rw [levels_eq, space_of_single single, Names.spaces_around_named named, List.reverse_append,
    List.dropLast_concat, List.reverse_singleton, List.singleton_append, List.map_cons, own]
  unfold bareLevels
  rw [List.cons_append]
  congr 2
  apply List.map_congr_left
  intro outer around
  rw [others outer (List.mem_reverse.mp around)]

end Single

end Surroundings

/-- The levels inside a block for a namespace that begins with some directives. -/
def fragmentLevels (space : String) (usings globals : List Using) : List Level :=
  if space = "" then [{ space := "", usings := usings ++ globals }]
  else { space, usings } :: bareLevels (Names.spacesAround space).dropLast.reverse globals

/-- The scope that its fragment gives to the properties of a group. -/
def TypeGroup.scope (group : TypeGroup) (globals : List Using) : Scope :=
  { enclosing := [group.containing.metadataName]
    levels := fragmentLevels group.containing.space group.usings globals }

def TypeGroup.surroundings (group : TypeGroup) (segment : String) : Surroundings :=
  { types := [segment]
    spaces :=
      if group.containing.space = "" then [] else [(group.containing.space, group.usings)]
    unitUsings := if group.containing.space = "" then group.usings else [] }

theorem scope_of_surroundings {group : TypeGroup} {segment : String}
    (name : group.containing.metadataName = Names.qualify group.containing.space segment)
    (isLocal : ∀ directive ∈ group.usings, directive.isGlobal = false) (globals : List Using) :
    (group.surroundings segment).scope globals = group.scope globals := by
  have kept : group.usings.filter (fun directive => !directive.isGlobal) = group.usings := by
    apply List.filter_eq_self.mpr
    intro directive member
    rw [isLocal directive member]
    rfl
  have space : (group.surroundings segment).space = group.containing.space := by
    by_cases isGlobal : group.containing.space = ""
    · have none : (group.surroundings segment).spaces = [] := if_pos isGlobal
      unfold Surroundings.space
      rw [none, isGlobal]
      rfl
    · exact Surroundings.space_of_single (if_neg isGlobal)
  have enclosing : ((group.surroundings segment).scope globals).enclosing =
      [group.containing.metadataName] := by
    show (Surroundings.nestedNames (group.surroundings segment).space [segment].reverse).reverse = _
    rw [space, name]
    rfl
  have levels : ((group.surroundings segment).scope globals).levels =
      fragmentLevels group.containing.space group.usings globals := by
    by_cases isGlobal : group.containing.space = ""
    · have unit : (group.surroundings segment).unitUsings = group.usings := if_pos isGlobal
      rw [Surroundings.levels_eq, space]
      unfold Surroundings.unitDirectives fragmentLevels
      rw [if_pos isGlobal, isGlobal, Names.spaces_around_global, unit, kept]
      rfl
    · have unit : (group.surroundings segment).unitUsings = [] := if_neg isGlobal
      rw [Surroundings.levels_of_single (if_neg isGlobal) isGlobal, kept]
      unfold Surroundings.unitDirectives fragmentLevels
      rw [if_neg isGlobal, unit]
      rfl
  unfold TypeGroup.scope
  rw [← enclosing, ← levels]

/-- A name as it is written: with a label before a double colon, or as a request of its own. -/
inductive WrittenName where
  | labelled (label rest : String)
  | bare (request : Request)
deriving DecidableEq, Repr

def WrittenName.ofText (name : String) : WrittenName :=
  let compact := Text.compact name
  let text := withoutGlobalMark compact
  match splitQualifier? text.toList with
  | some (label, rest) => .labelled (String.ofList label) (String.ofList rest)
  | none =>
      .bare (if hasGlobalMark compact then .absolute (Names.segments text)
        else .relative (Names.segments text))

def WrittenName.request? (scope : Scope) : WrittenName → Option Request
  | .labelled label rest =>
      (scope.aliasTarget? label).map fun target => .absolute (Names.segments (target ++ "." ++ rest))
  | .bare request => some request

theorem request_eq (scope : Scope) (name : String) :
    scope.request? name = (WrittenName.ofText name).request? scope := by
  unfold Scope.request? WrittenName.ofText
  dsimp only
  cases splitQualifier? (withoutGlobalMark (Text.compact name)).toList with
  | some parts => rfl
  | none => cases hasGlobalMark (Text.compact name) <;> rfl

theorem request_labelled {scope : Scope} {usings : List Using}
    (visible : scope.levels.flatMap (·.usings) = usings) (label rest : String) :
    (WrittenName.labelled label rest).request? scope =
      (usings.find? fun directive => directive.alias? = some label).map fun directive =>
        .absolute (Names.segments (directive.target ++ "." ++ rest)) := by
  show (scope.aliasTarget? label).map _ = _
  unfold Scope.aliasTarget?
  rw [visible, Option.map_map]
  rfl

namespace KnownNames

variable (known : KnownNames)

def meaning? (scope : Scope) (name : WrittenName) : Option String :=
  (name.request? scope).bind fun request => (known.answer scope request).type?

def innermost (group : TypeGroup) (globals : List Using) : List Using :=
  if group.containing.space = "" then group.usings ++ globals else group.usings

/-- In the fragment of a group a relative name gets past the type and its namespace to the merged
directives, and these do not leave it open. -/
def Merges (group : TypeGroup) (head : String) (rest : List String) : Prop :=
  known.types.contains (Names.nest group.containing.metadataName head) = false ∧
    known.members group.containing.space head rest = .undecided ∧
    known.directives group.usings head rest ≠ .undecided

instance (group : TypeGroup) (head : String) (rest : List String) :
    Decidable (known.Merges group head rest) :=
  inferInstanceAs (Decidable (_ ∧ _ ∧ _))

/-- What the merged directives of a group answer to a name in its fragment, if they do. -/
def mergedAnswer? (group : TypeGroup) (globals : List Using) : WrittenName → Option (Option String)
  | .labelled label rest =>
      (group.usings.find? fun directive => directive.alias? = some label).map fun directive =>
        known.absolute? (Names.segments (directive.target ++ "." ++ rest))
  | .bare (.relative (head :: rest)) =>
      if known.Merges group head rest then
        some (known.directives (innermost group globals) head rest).type?
      else none
  | .bare _ => none

theorem resolve_eq_meaning (name : String) (scope : Scope) :
    known.resolve? .type name scope = known.meaning? scope (WrittenName.ofText name) := by
  rw [resolve_type_eq, request_eq]
  rfl

section Fragment

variable {known : KnownNames} {group : TypeGroup} {globals : List Using} {head : String}
  {rest : List String}

theorem fragment_usings (space : String) (usings globals : List Using) :
    (fragmentLevels space usings globals).flatMap (·.usings) = usings ++ globals := by
  unfold fragmentLevels
  by_cases named : space = ""
  · rw [if_pos named]
    exact List.flatMap_singleton _ _
  · rw [if_neg named, List.flatMap_cons, bare_levels_usings]

theorem fragment_space : (group.scope globals).space = group.containing.space := by
  unfold TypeGroup.scope Scope.space fragmentLevels
  by_cases named : group.containing.space = ""
  · rw [if_pos named, named]
  · rw [if_neg named]

theorem fragment_levels_ne_nil : (group.scope globals).levels ≠ [] := by
  unfold TypeGroup.scope fragmentLevels
  by_cases named : group.containing.space = ""
  · rw [if_pos named]
    exact List.cons_ne_nil _ _
  · rw [if_neg named]
    exact List.cons_ne_nil _ _

/-- Where the merged directives leave a name open, the fragment answers as if there were none. -/
theorem fragment_levels_silent
    (silent : known.directives group.usings head rest = .undecided) :
    known.atLevels head rest (group.scope globals).levels =
      known.atLevels head rest
        (bareLevels (Names.spacesAround group.containing.space).reverse globals) := by
  unfold TypeGroup.scope fragmentLevels
  dsimp only
  by_cases named : group.containing.space = ""
  · rw [if_pos named, named, Names.spaces_around_global]
    exact at_levels_without_locals [] (fun _ => []) group.usings globals (by simp) silent
  · rw [if_neg named, Names.spaces_around_named named, List.reverse_append, List.dropLast_concat,
      at_levels_cons, silent]
    unfold bareLevels
    rw [List.reverse_singleton, List.singleton_append, List.map_cons, List.cons_append,
      at_levels_cons, directives_nil]

/-- Where the namespace leaves a name open and the merged directives do not, these answer. -/
theorem fragment_levels_merged
    (outside : known.members group.containing.space head rest = .undecided)
    (decided : known.directives group.usings head rest ≠ .undecided) :
    known.atLevels head rest (group.scope globals).levels =
      known.directives (innermost group globals) head rest := by
  unfold TypeGroup.scope fragmentLevels innermost
  dsimp only
  by_cases named : group.containing.space = ""
  · rw [named] at outside
    rw [if_pos named, if_pos named, at_levels_cons, outside, Outcome.undecided_followed_by]
    exact Outcome.followed_by_undecided _
  · rw [if_neg named, if_neg named, at_levels_cons, outside, Outcome.undecided_followed_by,
      Outcome.followed_by_decided decided]

/-- A field in the namespace of its group, all of whose directives the group covers, answers as if
it had none where the merged ones leave a name open. -/
theorem field_levels_silent {surroundings : Surroundings}
    (covers : Covers group.usings surroundings.localDirectives)
    (silent : known.directives group.usings head rest = .undecided) :
    known.atLevels head rest (surroundings.scope globals).levels =
      known.atLevels head rest
        (bareLevels (Names.spacesAround surroundings.space).reverse globals) := by
  rw [Surroundings.levels_eq]
  apply at_levels_without_locals
  · intro space around
    apply undecided_of_covers _ silent
    intro directive own
    exact covers directive (List.mem_append_left _ (List.mem_flatMap.mpr ⟨space, around, own⟩))
  · apply undecided_of_covers _ silent
    intro directive own
    exact covers directive (List.mem_append_right _ own)

theorem labelled_meaning {scope : Scope} {usings : List Using}
    (visible : scope.levels.flatMap (·.usings) = usings) (label rest : String) :
    known.meaning? scope (.labelled label rest) =
      (usings.find? fun directive => directive.alias? = some label).bind fun directive =>
        known.absolute? (Names.segments (directive.target ++ "." ++ rest)) := by
  rw [meaning?, request_labelled visible]
  cases usings.find? fun directive => directive.alias? = some label with
  | none => rfl
  | some directive => rfl

theorem labelled_meaning_in_fragment {surroundings : Surroundings}
    (covers : Covers group.usings surroundings.localDirectives) (label rest : String) :
    known.meaning? (group.scope globals) (.labelled label rest) =
      (known.mergedAnswer? group globals (.labelled label rest)).getD
        (known.meaning? (surroundings.scope globals) (.labelled label rest)) := by
  have answer : known.mergedAnswer? group globals (.labelled label rest) =
      (group.usings.find? fun directive => directive.alias? = some label).map fun directive =>
        known.absolute? (Names.segments (directive.target ++ "." ++ rest)) := rfl
  have inFragment : (group.scope globals).levels.flatMap (·.usings) = group.usings ++ globals :=
    fragment_usings group.containing.space group.usings globals
  rw [labelled_meaning inFragment, labelled_meaning (surroundings.usings_eq globals), answer,
    List.find?_append, List.find?_append]
  cases merged : group.usings.find? fun directive => directive.alias? = some label with
  | some directive => rfl
  | none =>
      have absent : (surroundings.localDirectives.find? fun directive =>
          directive.alias? = some label) = none := by
        rw [List.find?_eq_none] at merged ⊢
        intro directive member isLabel
        obtain ⟨present, inside, sameAlias, -⟩ := covers directive member
        apply merged present inside
        rw [sameAlias]
        exact isLabel
      rw [absent]
      rfl

theorem unmerged_meaning {surroundings : Surroundings}
    (enclosing : (surroundings.scope globals).enclosing = [group.containing.metadataName])
    (space : surroundings.space = group.containing.space)
    (covers : Covers group.usings surroundings.localDirectives)
    (unmerged : ¬ known.Merges group head rest) :
    known.search (group.scope globals) (head :: rest) =
      known.search (surroundings.scope globals) (head :: rest) := by
  have inFragment : (group.scope globals).enclosing = [group.containing.metadataName] := rfl
  by_cases nested : known.types.contains (Names.nest group.containing.metadataName head) = true
  · rw [search_nested enclosing nested, search_nested inFragment nested]
  · rw [search_levels enclosing nested, search_levels inFragment nested]
    by_cases inside : known.members group.containing.space head rest = .undecided
    · have silent : known.directives group.usings head rest = .undecided := by
        by_contra decided
        exact unmerged ⟨Bool.eq_false_iff.mpr nested, inside, decided⟩
      rw [fragment_levels_silent silent, field_levels_silent covers silent, space]
    · have levels : (surroundings.scope globals).levels ≠ [] := by
        rw [Surroundings.levels_eq]
        exact List.append_ne_nil_of_right_ne_nil _ (List.cons_ne_nil _ _)
      have atField := surroundings.space_eq globals
      rw [space] at atField
      have ownSpace : known.members (group.scope globals).space head rest ≠ .undecided := by
        rw [fragment_space]
        exact inside
      have fieldSpace : known.members (surroundings.scope globals).space head rest ≠
          .undecided := by
        rw [atField]
        exact inside
      rw [at_levels_members fragment_levels_ne_nil ownSpace, at_levels_members levels fieldSpace,
        fragment_space, atField]

theorem merged_meaning (merges : known.Merges group head rest) :
    known.search (group.scope globals) (head :: rest) =
      known.directives (innermost group globals) head rest := by
  rcases merges with ⟨absent, outside, decided⟩
  have inFragment : (group.scope globals).enclosing = [group.containing.metadataName] := rfl
  rw [search_levels inFragment (Bool.eq_false_iff.mp absent),
    fragment_levels_merged outside decided]

theorem relative_meaning_in_fragment {surroundings : Surroundings}
    (enclosing : (surroundings.scope globals).enclosing = [group.containing.metadataName])
    (space : surroundings.space = group.containing.space)
    (covers : Covers group.usings surroundings.localDirectives) (head : String)
    (rest : List String) :
    known.meaning? (group.scope globals) (.bare (.relative (head :: rest))) =
      (known.mergedAnswer? group globals (.bare (.relative (head :: rest)))).getD
        (known.meaning? (surroundings.scope globals) (.bare (.relative (head :: rest)))) := by
  have answer : known.mergedAnswer? group globals (.bare (.relative (head :: rest))) =
      if known.Merges group head rest then
        some (known.directives (innermost group globals) head rest).type?
      else none := rfl
  have meaning (scope : Scope) : known.meaning? scope (.bare (.relative (head :: rest))) =
      (known.search scope (head :: rest)).type? := rfl
  rw [meaning, meaning, answer]
  by_cases merges : known.Merges group head rest
  · rw [if_pos merges, merged_meaning merges]
    rfl
  · rw [if_neg merges, unmerged_meaning enclosing space covers merges]
    rfl

/-- A name means in a fragment what the merged directives answer to it, and otherwise what it
means at a field that lies in the type and in its namespace. -/
theorem meaning_in_fragment (known : KnownNames) {surroundings : Surroundings}
    (enclosing : (surroundings.scope globals).enclosing = [group.containing.metadataName])
    (space : surroundings.space = group.containing.space)
    (covers : Covers group.usings surroundings.localDirectives) (name : WrittenName) :
    known.meaning? (group.scope globals) name =
      (known.mergedAnswer? group globals name).getD
        (known.meaning? (surroundings.scope globals) name) := by
  cases name with
  | labelled label rest => exact labelled_meaning_in_fragment covers label rest
  | bare request =>
      cases request with
      | absolute segments => rfl
      | relative segments =>
          cases segments with
          | nil => rfl
          | cons head rest => exact relative_meaning_in_fragment enclosing space covers head rest

end Fragment

end KnownNames

end PropertyGen
