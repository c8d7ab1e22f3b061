import Mathlib.Data.Option.Basic
import PropertyGen.Proofs.VerbatimUses

/-!
The verbatim mark where a name is declared. It is part of the names of types and namespaces, and no
part of the names they are looked up by: a type is found under its full name exactly if no name on
the way to it is declared with the mark, and offered by an import exactly if the target has the
marks of the namespace.
-/

namespace PropertyGen

namespace Names

def bare (name : String) : String := String.ofList (name.toList.dropWhile (· = '@'))

theorem bare_clean {name : String} (clean : '@' ∉ name.toList) : bare name = name := by
  unfold bare
  cases characters : name.toList with
  | nil => exact String.toList_inj.mp characters.symm
  | cons first rest =>
      have other : first ≠ '@' := by
        rintro rfl
        exact clean (characters ▸ List.mem_cons_self)
      rw [List.dropWhile_cons, if_neg fun mark => other (of_decide_eq_true mark), ← characters,
        String.ofList_toList]

end Names

namespace Part

variable {part : Part}

def keys (part : Part) : List (String × Nat) :=
  part.path.1.map (fun space => (space, 0)) ++ part.path.2

def bareKeys (part : Part) : List (String × Nat) :=
  part.keys.map fun key => (Names.bare key.1, key.2)

/-- Nothing on the way to a type is declared with the mark, and the type itself is not. -/
def Bare (part : Part) : Prop := ∀ key ∈ part.keys, '@' ∉ key.1.toList

theorem Bare.keys (bare : part.Bare) : part.bareKeys = part.keys := by
  refine (List.map_congr_left fun key member => ?_).trans (List.map_id _)
  rw [Names.bare_clean (bare key member), id]

theorem key_segments (part : Part) :
    part.keys.map Names.keySegment = Names.pathSegments part.path := by
  unfold keys Names.pathSegments
  rw [List.map_append, List.map_map]
  exact congrArg (· ++ _) (List.map_id _)

end Part

/-- The full name of a type, with marks anywhere and type arguments of any kind. -/
structure Names.Reference.IsFull (reference : Names.Reference) (part : Part) : Prop where
  label : ∃ label, reference.label? = some label ∧ label.chars = "global".toList
  shown : reference.hides = false
  counts : reference.name.counts = part.bareKeys

section Declared

theorem mem_pieces_at {separator : Char} {text piece : List Char}
    (member : piece ∈ Text.piecesAt separator text) {character : Char}
    (inside : character ∈ piece) :
    character ∈ text := by
  induction text generalizing piece with
  | nil => simp_all [Text.piecesAt]
  | cons first rest induction =>
      rw [Text.piecesAt] at member
      split at member
      · rcases List.mem_cons.mp member with rfl | later
        · cases inside
        · exact List.mem_cons_of_mem _ (induction later inside)
      · cases pieces : Text.piecesAt separator rest with
        | nil => exact absurd pieces (Text.pieces_at_ne_nil separator rest)
        | cons own others =>
            rw [pieces] at member
            rcases List.mem_cons.mp member with rfl | later
            · rcases List.mem_cons.mp inside with rfl | inOwn
              · exact List.mem_cons_self
              · exact List.mem_cons_of_mem _ (induction (pieces ▸ List.mem_cons_self) inOwn)
            · have listed := List.mem_cons_of_mem own later
              exact List.mem_cons_of_mem _ (induction (pieces ▸ listed) inside)

theorem mem_space_segments {space segment : String} (member : segment ∈ Names.spaceSegments space)
    {character : Char} (inside : character ∈ segment.toList) : character ∈ space.toList := by
  unfold Names.spaceSegments at member
  split at member
  · cases member
  · obtain ⟨piece, listed, rfl⟩ := List.mem_map.mp member
    rw [String.toList_ofList] at inside
    exact mem_pieces_at listed inside

theorem mem_key_segment {key : String × Nat} {character : Char}
    (inside : character ∈ key.1.toList) :
    character ∈ (Names.keySegment key).toList := by
  unfold Names.keySegment
  split
  · exact inside
  · rw [String.append_assoc, String.toList_append]
    exact List.mem_append_left _ inside

theorem mem_qualify {space name : String} {character : Char}
    (inside : character ∈ space.toList ∨ character ∈ name.toList) :
    character ∈ (Names.qualify space name).toList := by
  rw [Names.to_list_qualify]
  split
  · next isGlobal =>
      rcases inside with inSpace | inName
      · rw [isGlobal] at inSpace
        cases inSpace
      · exact inName
  · rcases inside with inSpace | inName
    · exact List.mem_append_left _ inSpace
    · exact List.mem_append_right _ (List.mem_cons_of_mem _ inName)

theorem mem_nest {outer name : String} {character : Char} :
    character ∈ (Names.nest outer name).toList ↔
      character ∈ outer.toList ∨ character = '+' ∨ character ∈ name.toList := by
  rw [Names.to_list_nest, List.mem_append, List.mem_cons]

theorem Source.mem_declared_type {source : Source} (unmarked : source.Unmarked) {site : Site}
    (inside : site ∈ source.sites) (isType : site.node.isTypeDeclaration = true) {character : Char}
    (given : (∃ segment ∈ source.spacePath site, character ∈ segment.toList) ∨
      ∃ key ∈ site.typesFrom.map source.typeKey, character ∈ key.1.toList) :
    character ∈ (source.declaredType site).toList := by
  have own {place : Site} (named : character ∈ (source.typeKey place).1.toList) :
      character ∈ (source.typeSegment place.node).toList := by
    rw [source.type_segment_key]
    exact mem_key_segment named
  generalize around : site.typesAround = outers
  induction outers generalizing site with
  | nil =>
      rw [Source.keys_of_type source isType, around, List.map_nil,
        Source.space_path_eq unmarked inside] at given
      rw [Source.declared_type_of_no_type unmarked.ordered inside around]
      apply mem_qualify
      rcases given with ⟨segment, member, inSegment⟩ | ⟨key, member, inKey⟩
      · exact .inl (mem_space_segments member inSegment)
      · rw [List.mem_singleton.mp member] at inKey
        exact .inr (own inKey)
  | cons outer more induction =>
      obtain ⟨outerInside, outerIsType, outwards, -⟩ :=
        Source.outer_of_types_around unmarked.ordered inside (unmarked.within inside isType) around
      obtain ⟨name, space⟩ := Source.declared_type_of_type unmarked inside isType around
      rw [Source.keys_of_type source isType, around, Source.space_path_eq unmarked inside, space,
        ← Source.space_path_eq unmarked outerInside] at given
      have outerKeys : source.typeKey outer :: more.map source.typeKey =
          outer.typesFrom.map source.typeKey := by
        rw [Source.keys_of_type source outerIsType, outwards]
      rw [name, mem_nest]
      rcases given with inSpace | ⟨key, member, inKey⟩
      · exact .inl (induction outerInside outerIsType (.inl inSpace) outwards)
      · rcases List.mem_cons.mp member with rfl | later
        · exact .inr (.inr (own inKey))
        · rw [List.map_cons, outerKeys] at later
          exact .inl (induction outerInside outerIsType (.inr ⟨key, later, inKey⟩) outwards)

theorem Part.bare_of_clean {part : Part} (unmarked : part.source.Unmarked)
    (inside : part.site ∈ part.source.sites) (isType : part.site.node.isTypeDeclaration = true)
    (clean : '@' ∉ part.type.toList) : part.Bare := by
  intro key member mark
  refine clean (Source.mem_declared_type unmarked inside isType ?_)
  rcases List.mem_append.mp member with isSpace | isKey
  · obtain ⟨space, listed, rfl⟩ := List.mem_map.mp isSpace
    exact .inl ⟨space, listed, mark⟩
  · exact .inr ⟨key, List.mem_reverse.mp isKey, mark⟩

end Declared

section Looked

variable {known : KnownNames} {mark : Char}

theorem in_type_clean (notPlus : mark ≠ '+') {current type : String} {segments : List String}
    (own : mark ∉ current.toList) (each : ∀ segment ∈ segments, mark ∉ segment.toList)
    (found : known.inType? current segments = some type) : mark ∉ type.toList := by
  rw [in_type_result found]
  clear found
  induction segments generalizing current with
  | nil => exact own
  | cons segment rest induction =>
      obtain ⟨clean, others⟩ := List.forall_mem_cons.mp each
      apply induction _ others
      rw [mem_nest]
      rintro (inOuter | plus | inSegment)
      · exact own inOuter
      · exact notPlus plus
      · exact clean inSegment

theorem in_space_clean (notPlus : mark ≠ '+') (notDot : mark ≠ '.') {current type : String}
    {segments : List String} (own : mark ∉ current.toList)
    (each : ∀ segment ∈ segments, mark ∉ segment.toList)
    (found : known.inSpace? current segments = some type) : mark ∉ type.toList := by
  induction segments generalizing current with
  | nil => cases found
  | cons segment rest induction =>
      obtain ⟨clean, others⟩ := List.forall_mem_cons.mp each
      have candidate : mark ∉ (Names.qualify current segment).toList := by
        rw [Names.to_list_qualify]
        split
        · exact clean
        · rw [List.mem_append, List.mem_cons]
          rintro (inSpace | dot | inSegment)
          · exact own inSpace
          · exact notDot dot
          · exact clean inSegment
      rw [KnownNames.inSpace?] at found
      split at found
      · exact in_type_clean notPlus candidate others found
      · split at found
        · exact induction candidate others found
        · cases found

end Looked

section Ends

def Ends (type segment : String) : Prop :=
  ∃ front, type.toList = front ++ segment.toList ∧ ∀ last ∈ front.getLast?, last = '.' ∨ last = '+'

theorem ends_qualify (space name : String) : Ends (Names.qualify space name) name := by
  unfold Ends
  rw [Names.to_list_qualify]
  split
  · exact ⟨[], rfl, by simp⟩
  · exact ⟨space.toList ++ ['.'], by simp, by simp⟩

theorem ends_nest (outer name : String) : Ends (Names.nest outer name) name :=
  ⟨outer.toList ++ ['+'], by simp [Names.to_list_nest], by simp⟩

theorem mem_of_ends {type own segment : String} (ends : Ends type own) (other : Ends type segment)
    (dotless : '.' ∉ own.toList) (plusless : '+' ∉ own.toList) {character : Char}
    (inside : character ∈ own.toList) : character ∈ segment.toList := by
  obtain ⟨front, whole, -⟩ := ends
  obtain ⟨before, split, last⟩ := other
  rcases List.append_eq_append_iff.mp (whole.symm.trans split) with
    ⟨between, rest, parts⟩ | ⟨between, -, parts⟩
  · rcases List.eq_nil_or_concat between with rfl | ⟨start, stop, rfl⟩
    · rwa [parts, List.nil_append] at inside
    · rw [List.concat_eq_append] at rest parts
      have separator := last stop (by rw [rest, ← List.append_assoc, List.getLast?_concat]; rfl)
      have member : stop ∈ own.toList := by simp [parts]
      rcases separator with rfl | rfl
      · exact absurd member dotless
      · exact absurd member plusless
  · rw [parts]
    exact List.mem_append_right _ inside

def EndsBare (type : String) : Prop := ∃ segment : String, '@' ∉ segment.toList ∧ Ends type segment

variable {known : KnownNames}

theorem in_type_ends {current type : String} {segments : List String} (own : EndsBare current)
    (each : ∀ segment ∈ segments, '@' ∉ segment.toList)
    (found : known.inType? current segments = some type) : EndsBare type := by
  rw [in_type_result found]
  clear found
  induction segments generalizing current with
  | nil => exact own
  | cons segment rest induction =>
      obtain ⟨clean, others⟩ := List.forall_mem_cons.mp each
      exact induction ⟨segment, clean, ends_nest current segment⟩ others

theorem in_space_ends {current type : String} {segments : List String}
    (each : ∀ segment ∈ segments, '@' ∉ segment.toList)
    (found : known.inSpace? current segments = some type) : EndsBare type := by
  induction segments generalizing current with
  | nil => cases found
  | cons segment rest induction =>
      obtain ⟨clean, others⟩ := List.forall_mem_cons.mp each
      rw [KnownNames.inSpace?] at found
      split at found
      · exact in_type_ends ⟨segment, clean, ends_qualify current segment⟩ others found
      · split at found
        · exact induction others found
        · cases found

/-- The targets of aliases are names, perhaps with marks. -/
def AliasesNamed (usings : List Using) : Prop :=
  ∀ directive ∈ usings, directive.alias? ≠ none →
    ∃ written : Names.QualifiedText, directive.target.toList = written.chars

theorem qualified_bare {target : String} {written : Names.QualifiedText}
    (same : target.toList = written.chars) :
    ∀ segment ∈ Names.segments target, '@' ∉ segment.toList := by
  have cut := written.segments_chars false
  rw [show Names.nullableMark false = [] from rfl, List.append_nil, ← same] at cut
  unfold Names.segments
  rw [cut, List.map_map]
  intro segment member
  obtain ⟨key, isKey, rfl⟩ := List.mem_map.mp member
  rw [Function.comp_apply, String.ofList_toList]
  exact Names.key_segment_clean (by decide) (by decide)
    ((written.counts_plain key isKey).2 '@' (by decide))

theorem at_level_ends {level : Level} (named : AliasesNamed level.usings) {head type : String}
    {rest : List String} (clean : '@' ∉ head.toList)
    (each : ∀ segment ∈ rest, '@' ∉ segment.toList)
    (found : (known.atLevel level head rest).type? = some type) : EndsBare type := by
  have candidate (space : String) : EndsBare (Names.qualify space head) :=
    ⟨head, clean, ends_qualify space head⟩
  unfold KnownNames.atLevel at found
  dsimp only at found
  split at found
  · exact in_type_ends (candidate level.space) each found
  · split at found
    · next other leads =>
        obtain rfl := Option.some.inj found
        rcases (Option.orElse_eq_some _ _ _).mp leads with viaSpace | ⟨-, viaAlias⟩
        · split at viaSpace
          · exact in_space_ends each viaSpace
          · cases viaSpace
        · obtain ⟨directive, member, absolute⟩ := List.exists_of_findSome?_eq_some viaAlias
          split at absolute
          · next labelled =>
              obtain ⟨written, same⟩ := named directive member (by simp [labelled])
              refine in_space_ends (fun segment inside => ?_) absolute
              rcases List.mem_append.mp inside with inTarget | inRest
              · exact qualified_bare same segment inTarget
              · exact each segment inRest
          · cases absolute
    · split at found
      · cases found
      · next first more offered =>
          have member : first ∈ known.importedTypes level.usings head :=
            offered ▸ List.mem_cons_self
          obtain ⟨directive, -, isFirst⟩ := List.mem_filterMap.mp member
          dsimp only at isFirst
          split at isFirst
          · obtain rfl := Option.some.inj isFirst
            exact in_type_ends (candidate directive.target) each found
          · cases isFirst

theorem at_levels_ends {levels : List Level} (named : ∀ level ∈ levels, AliasesNamed level.usings)
    {head type : String} {rest : List String} (clean : '@' ∉ head.toList)
    (each : ∀ segment ∈ rest, '@' ∉ segment.toList)
    (found : (known.atLevels head rest levels).type? = some type) : EndsBare type := by
  induction levels with
  | nil => cases found
  | cons level outer induction =>
      obtain ⟨own, others⟩ := List.forall_mem_cons.mp named
      rw [KnownNames.atLevels] at found
      split at found
      · exact induction others found
      · exact at_level_ends own clean each found

/-- Whatever is found by segments without marks has none in the last segment of its name. -/
theorem answer_ends {scope : Scope} (named : ∀ level ∈ scope.levels, AliasesNamed level.usings)
    {request : Request} (clean : ∀ segment ∈ request.segments, '@' ∉ segment.toList) {type : String}
    (found : (known.answer scope request).type? = some type) : EndsBare type := by
  cases request with
  | absolute segments => exact in_space_ends clean found
  | relative segments =>
      cases segments with
      | nil => cases found
      | cons head rest =>
          obtain ⟨own, others⟩ := List.forall_mem_cons.mp clean
          unfold KnownNames.answer KnownNames.search at found
          dsimp only at found
          split at found
          · next outer _ => exact in_type_ends ⟨head, own, ends_nest outer head⟩ others found
          · exact at_levels_ends named own others found

theorem variants_clean (use : NameUse) {request variant : Request}
    (clean : ∀ segment ∈ request.segments, '@' ∉ segment.toList)
    (member : variant ∈ use.variants request) :
    ∀ segment ∈ variant.segments, '@' ∉ segment.toList := by
  have ending : '@' ∉ attributeSuffix.toList := by decide
  have longer : ∀ segment ∈ suffixed request.segments, '@' ∉ segment.toList := by
    intro segment inside
    unfold suffixed at inside
    split at inside
    · cases inside
    · next last isLast =>
        rcases List.mem_append.mp inside with inFront | own
        · exact clean segment (List.dropLast_subset _ inFront)
        · rw [List.mem_singleton.mp own, String.toList_append, List.mem_append, not_or]
          exact ⟨clean last (List.mem_of_getLast? isLast), ending⟩
  unfold NameUse.variants at member
  split at member
  · cases member
  · cases use with
    | type => exact List.mem_singleton.mp member ▸ clean
    | «attribute» =>
        rcases List.mem_cons.mp member with rfl | plain
        · cases request <;> exact longer
        · exact List.mem_singleton.mp plain ▸ clean

theorem Names.Reference.segments_clean_of_marks (reference : Names.Reference) :
    ∀ segment ∈ reference.segments, '@' ∉ segment.toList := by
  intro segment member
  obtain ⟨key, isKey, rfl⟩ := List.mem_map.mp member
  exact Names.key_segment_clean (by decide) (by decide)
    ((reference.name.counts_plain key isKey).2 '@' (by decide))

theorem resolve_ends {reference : Names.Reference} {name : String} (spells : reference.Spells name)
    {scope : Scope} (readable : scope.Readable)
    (named : ∀ level ∈ scope.levels, AliasesNamed level.usings) {use : NameUse} {type : String}
    (found : known.resolve? use name scope = some type) : EndsBare type := by
  obtain ⟨variant, asked, answered⟩ := List.exists_of_findSome?_eq_some found
  have own := reference.segments_clean_of_marks
  unfold KnownNames.requests at asked
  cases hides : reference.hides with
  | true =>
      rw [Names.Reference.request_hidden readable spells hides] at asked
      cases asked
  | false =>
      rw [Names.Reference.request_shown readable spells hides] at asked
      cases made : reference.request? scope with
      | none =>
          rw [made] at asked
          cases asked
      | some request =>
          rw [made] at asked
          refine answer_ends named (variants_clean use ?_ asked) answered
          unfold Names.Reference.request? at made
          split at made
          · obtain rfl := Option.some.inj made
            exact own
          · split at made
            · obtain rfl := Option.some.inj made
              exact own
            · obtain ⟨target, isTarget, rfl⟩ := Option.map_eq_some_iff.mp made
              obtain ⟨directive, isFirst, rfl⟩ := Option.map_eq_some_iff.mp isTarget
              obtain ⟨level, listed, member⟩ :=
                List.mem_flatMap.mp (List.mem_of_find?_eq_some isFirst)
              have labelled : directive.alias? ≠ none := by
                have given := List.find?_some isFirst
                rw [of_decide_eq_true given]
                exact Option.some_ne_none _
              obtain ⟨written, same⟩ := named level listed directive member labelled
              intro segment inside
              rcases List.mem_append.mp inside with inTarget | inName
              · exact qualified_bare same segment inTarget
              · exact own segment inName

end Ends

namespace Names.Reference.IsFull

variable {reference : Names.Reference} {part : Part}

theorem request (full : reference.IsFull part) {name : String} (spells : reference.Spells name)
    (scope : Scope) :
    scope.request? name = some (.absolute (part.bareKeys.map Names.keySegment)) := by
  obtain ⟨label, labelled, isGlobal⟩ := full.label
  have notAliased : reference.aliased = false := by
    unfold Names.Reference.aliased
    rw [labelled, Option.any_some, decide_eq_false_iff_not, not_not]
    exact isGlobal
  have noColon : ':' ∉ reference.name.chars := by
    have shown := full.shown
    unfold Names.Reference.hides at shown
    rwa [notAliased, Bool.not_false, Bool.true_and, ← Bool.not_eq_true, List.contains_iff_mem]
      at shown
  rw [Names.Reference.request_body notAliased spells scope,
    split_qualifier_none (reference.body_no_colon noColon)]
  dsimp only
  rw [labelled, if_neg (Option.some_ne_none label), ← full.counts]
  rfl

theorem keys_clean (full : reference.IsFull part) :
    ∀ key ∈ part.bareKeys, Names.Plain key.1 := by
  rw [← full.counts]
  exact reference.name.counts_plain

theorem segments_clean (full : reference.IsFull part) :
    ∀ segment ∈ part.bareKeys.map Names.keySegment, '@' ∉ segment.toList := by
  intro segment member
  obtain ⟨key, isKey, rfl⟩ := List.mem_map.mp member
  exact Names.key_segment_clean (by decide) (by decide)
    ((full.keys_clean key isKey).2 '@' (by decide))

theorem resolve (full : reference.IsFull part) {name : String} (spells : reference.Spells name)
    (isType : part.site.node.isTypeDeclaration = true) (known : KnownNames) (scope : Scope) :
    known.resolve? .type name scope =
      known.absolute? (part.bareKeys.map Names.keySegment) := by
  have some : part.bareKeys.map Names.keySegment ≠ [] := by
    unfold Part.bareKeys Part.keys Part.path
    rw [Source.keys_of_type part.source isType]
    simp
  obtain ⟨front, last, split⟩ := (List.eq_nil_or_concat _).resolve_left some
  have request := full.request spells scope
  rw [split, List.concat_eq_append] at request ⊢
  exact KnownNames.resolve_absolute request

end Names.Reference.IsFull

namespace Program

variable {sources : List Source} {references : References} {program : Program}
  (built : build sources references = .ok program)
  (unmarked : ∀ source ∈ sources, source.Unmarked)
include built unmarked

theorem part_declared {part : Part} (listed : part ∈ declaredParts sources) :
    part.type ≠ "" ∧ ∃ symbol, program.type? part.type = some symbol := by
  obtain ⟨source, inside, isType⟩ := mem_declared_parts.mp listed
  have own := unmarked part.source source
  constructor
  · show part.source.declaredType part.site ≠ ""
    rw [← Source.name_beside_self own inside isType]
    apply Source.name_beside_ne_empty
    exact Source.type_segment_ne_empty (own.types part.site inside isType).1.1
  · exact (known_iff_symbol built part.type).mp
      (List.contains_iff_mem.mp (declared_known built source inside isType))

theorem absolute_keys {part : Part} (listed : part ∈ declaredParts sources)
    (named : ∀ key ∈ part.keys, key.1 ≠ "")
    (free : ∀ outer, outer ≠ [] → outer <+: part.path.1 →
      program.type? (".".intercalate outer) = none) :
    program.known.absolute? (part.keys.map Names.keySegment) = some part.type := by
  obtain ⟨source, inside, isType⟩ := mem_declared_parts.mp listed
  have own := unmarked part.source source
  have spaces : ∀ space ∈ part.source.spacePath part.site, space ≠ "" := fun space member =>
    named (space, 0) (List.mem_append_left _ (List.mem_map_of_mem member))
  rw [part.key_segments, Part.path_segments isType,
    absolute_reaches built source own inside isType spaces free,
    Source.name_beside_self own inside isType, if_pos (declared_known built source inside isType)]
  rfl

/-- A type is found under its full name exactly if nothing on the way to it is declared with the
mark. -/
theorem full_name_found_iff {part : Part} (listed : part ∈ declaredParts sources)
    (free : ∀ outer, outer ≠ [] → outer <+: part.path.1 →
      program.type? (".".intercalate outer) = none)
    {reference : Names.Reference} (full : reference.IsFull part) {name : String}
    (spells : reference.Spells name) (source : Source) (site : Site) :
    program.resolveType? .type name source site = program.type? part.type ↔ part.Bare := by
  obtain ⟨own, inside, isType⟩ := mem_declared_parts.mp listed
  obtain ⟨named, symbol, declared⟩ := part_declared built unmarked listed
  have looked := full.resolve spells isType program.known (program.scope source site)
  constructor
  · intro found
    rw [declared] at found
    obtain ⟨type, resolved, typed⟩ := Option.bind_eq_some_iff.mp found
    have reached := (Option.filter_eq_some_iff.mp resolved).1
    rw [looked] at reached
    have clean : '@' ∉ type.toList :=
      in_space_clean (by decide) (by decide) List.not_mem_nil full.segments_clean reached
    rw [← type_name typed, type_name declared] at clean
    exact part.bare_of_clean (unmarked part.source own) inside isType clean
  · intro bare
    apply resolve_type_of_name _ named
    have plain := full.keys_clean
    rw [bare.keys] at looked plain
    rw [looked]
    exact absolute_keys built unmarked listed (fun key member => (plain key member).1) free

/-- Declarations are parts of one type exactly if they have the same names with the same marks. -/
theorem same_type_iff {first second : Part} (firstListed : first ∈ declaredParts sources)
    (secondListed : second ∈ declaredParts sources) :
    program.type? first.type = program.type? second.type ↔ first.path = second.path := by
  obtain ⟨-, symbol, declared⟩ := part_declared built unmarked firstListed
  rw [← part_type_inj unmarked firstListed secondListed]
  refine ⟨fun same => ?_, congrArg program.type?⟩
  rw [declared] at same
  exact (type_name declared).symm.trans (type_name same.symm)

omit built in
theorem outermost_type {part : Part} (listed : part ∈ declaredParts sources)
    {key : String × Nat} (outermost : part.path.2 = [key]) :
    part.type = Names.qualify (".".intercalate part.path.1) (Names.keySegment key) ∧
      '.' ∉ (Names.keySegment key).toList := by
  obtain ⟨source, inside, isType⟩ := mem_declared_parts.mp listed
  have own := unmarked part.source source
  have keys : part.site.typesFrom.map part.source.typeKey = [key] := by
    rw [← List.reverse_inj]
    exact outermost
  rw [Source.keys_of_type part.source isType, List.cons.injEq, List.map_eq_nil_iff] at keys
  have segment : part.source.typeSegment part.site.node = Names.keySegment key := by
    rw [part.source.type_segment_key, keys.1]
  constructor
  · show part.source.declaredType part.site = Names.qualify (".".intercalate
      (part.source.spacePath part.site)) _
    rw [Source.declared_type_of_no_type own.ordered inside keys.2,
      Source.joined_space_path own inside, segment]
  · exact segment ▸ (own.segment inside isType).1

theorem import_offers_iff {part : Part} (listed : part ∈ declaredParts sources)
    {key : String × Nat} (outermost : part.path.2 = [key]) (usings : List Using) {head : String}
    (dotless : '.' ∉ head.toList) :
    part.type ∈ program.known.importedTypes usings head ↔
      head = Names.keySegment key ∧ ∃ directive ∈ usings, directive.alias? = none ∧
        directive.target = ".".intercalate part.path.1 := by
  obtain ⟨source, inside, isType⟩ := mem_declared_parts.mp listed
  obtain ⟨typeName, simple⟩ := outermost_type unmarked listed outermost
  have known : program.known.types.contains part.type = true :=
    declared_known built source inside isType
  have offers (directive : Using) :
      (if program.known.types.contains (Names.qualify directive.target head) = true then
        some (Names.qualify directive.target head) else none) = some part.type ↔
      head = Names.keySegment key ∧ directive.target = ".".intercalate part.path.1 := by
    rw [and_comm, ← Names.qualify_inj dotless simple, ← typeName]
    constructor
    · intro offered
      split at offered
      · exact Option.some.inj offered
      · cases offered
    · intro same
      rw [same, if_pos known]
  unfold KnownNames.importedTypes
  simp only [List.mem_filterMap, List.mem_filter, Option.isNone_iff_eq_none, offers]
  constructor
  · rintro ⟨directive, ⟨member, noAlias⟩, same, target⟩
    exact ⟨same, directive, member, noAlias, target⟩
  · rintro ⟨same, directive, member, noAlias, target⟩
    exact ⟨directive, ⟨member, noAlias⟩, same, target⟩

end Program

/-- A type that is itself declared with the mark is bound to by no name in no scope. -/
theorem Program.marked_type_hidden {sources : List Source}
    (unmarked : ∀ source ∈ sources, source.Unmarked) {part : Part}
    (listed : part ∈ declaredParts sources) {key : String × Nat}
    (last : part.path.2.getLast? = some key) (marked : '@' ∈ key.1.toList)
    {reference : Names.Reference} {name : String} (spells : reference.Spells name) {scope : Scope}
    (readable : scope.Readable) (named : ∀ level ∈ scope.levels, AliasesNamed level.usings)
    (known : KnownNames) (use : NameUse) : known.resolve? use name scope ≠ some part.type := by
  intro found
  obtain ⟨source, inside, isType⟩ := mem_declared_parts.mp listed
  have own := unmarked part.source source
  obtain ⟨segment, clean, ends⟩ := resolve_ends spells readable named found
  have isOwn : key = part.source.typeKey part.site := by
    unfold Part.path at last
    rw [Source.keys_of_type part.source isType, List.reverse_cons, List.getLast?_concat] at last
    exact (Option.some.inj last).symm
  have type : Ends part.type (part.source.typeSegment part.site.node) := by
    show Ends (part.source.declaredType part.site) _
    rw [← Source.name_beside_self own inside isType]
    unfold Source.nameBeside
    split
    · exact ends_qualify _ _
    · exact ends_nest _ _
  obtain ⟨dotless, plusless⟩ := own.segment inside isType
  refine clean (mem_of_ends type ends dotless plusless ?_)
  rw [part.source.type_segment_key, ← isOwn]
  exact mem_key_segment marked

/-- What the verbatim mark does in a program: nothing where a name is used, but it is part of the
names that are declared, and of the targets of imports. -/
structure Program.MarksCount (program : Program) : Prop where
  /-- In base lists, attributes, the types of fields and in front of constants. -/
  uses : ∀ first second : Names.Reference, first.MarkedAlike second →
    ∀ name other, first.Spells name → second.Spells other → BindAlike name other
  /-- In the targets of aliases. -/
  aliases : ∀ first second : Scope, first.MarkedAlike second → ∀ use name,
    program.known.resolve? use name second = program.known.resolve? use name first
  merged : ∀ first ∈ program.parts, ∀ second ∈ program.parts,
    program.type? first.type = program.type? second.type ↔ first.path = second.path
  found : ∀ part ∈ program.parts, (∀ outer, outer ≠ [] → outer <+: part.path.1 →
      program.type? (".".intercalate outer) = none) →
    ∀ reference : Names.Reference, reference.IsFull part → ∀ name, reference.Spells name →
      ∀ source site,
        program.resolveType? .type name source site = program.type? part.type ↔ part.Bare
  hidden : ∀ part ∈ program.parts, ∀ key ∈ part.path.2.getLast?, '@' ∈ key.1.toList →
    ∀ (reference : Names.Reference) (name : String), reference.Spells name →
      ∀ scope : Scope, scope.Readable → (∀ level ∈ scope.levels, AliasesNamed level.usings) →
        ∀ use, program.known.resolve? use name scope ≠ some part.type
  imported : ∀ part ∈ program.parts, ∀ key, part.path.2 = [key] → ∀ usings head,
    '.' ∉ head.toList →
      (part.type ∈ program.known.importedTypes usings head ↔
        head = Names.keySegment key ∧ ∃ directive ∈ usings, directive.alias? = none ∧
          directive.target = ".".intercalate part.path.1)

/-- The mark makes no difference where names are used, and it does where they are declared. -/
theorem verbatim_marks_count {sources : List Source} {references : References} {program : Program}
    (built : Program.build sources references = .ok program)
    (unmarked : ∀ source ∈ sources, source.Unmarked) : program.MarksCount := by
  have parts : program.parts = declaredParts sources :=
    congrArg declaredParts (Program.build_eq built).1
  constructor
  case uses => exact fun first second marked name other => bind_alike_of_marks marked
  case aliases => exact fun first second marked use name => resolve_marked marked _ use name
  case merged =>
    intro first firstListed second secondListed
    rw [parts] at firstListed secondListed
    exact Program.same_type_iff built unmarked firstListed secondListed
  case found =>
    intro part listed free reference full name spells source site
    rw [parts] at listed
    exact Program.full_name_found_iff built unmarked listed free full spells source site
  case hidden =>
    intro part listed key last marked reference name spells scope readable named use
    rw [parts] at listed
    exact Program.marked_type_hidden unmarked listed last marked spells readable named _ use
  case imported =>
    intro part listed key outermost usings head dotless
    rw [parts] at listed
    exact Program.import_offers_iff built unmarked listed outermost usings dotless

section Samples

open Names
open Marker (branch token leaf)

/-- Types of one namespace, some with the mark, behind an import of the namespace with the mark. -/
def markedTypes : Source :=
  { path := "F0.cs"
    bytes := Text.Utf8.encode
      "using @N; namespace N \x7b class @X \x7b \x7d class Y \x7b \x7d class @Y \x7b \x7d \x7d"
    root :=
      branch "compilation_unit" 0 63 [
        branch "using_directive" 0 9 [
          token "using" 0 5,
          leaf "identifier" 6 8,
          token ";" 8 9],
        blockWith 10 1 63 [
          classWith 24 2 36 [],
          classWith 37 1 48 [],
          classWith 49 2 61 []]] }

def fullName (spaceMark typeMark : Bool) (name : String) (plain : Plain name)
    (noComma : ',' ∉ name.toList) : Reference :=
  { label? := some ⟨false, "global", by decide, by decide⟩
    name := .dotted (.plain ⟨spaceMark, "N", by decide, by decide⟩)
      (.single (.plain ⟨typeMark, name, plain, noComma⟩))
    nullable := false }

/-- A type without the mark is found by a name that is written with marks. -/
theorem verbatim_marks_count_beside :
    ∃ program, Program.build [markedTypes] [] = .ok program ∧ program.MarksCount ∧
      (program.type? "N.Y").isSome = true ∧ ∀ source site,
        program.resolveType? .type "global::@N.@Y" source site = program.type? "N.Y" := by
  obtain ⟨program, built⟩ := (Program.build_returns [markedTypes] []).mpr (by decide +kernel)
  have counts := verbatim_marks_count built (by decide +kernel)
  obtain ⟨part, listed, path, type⟩ : ∃ part ∈ declaredParts [markedTypes],
      part.path = (["N"], [("Y", 0)]) ∧ part.type = "N.Y" := by decide +kernel
  have isPart : part ∈ program.parts := by
    rw [show program.parts = declaredParts [markedTypes] from
      congrArg declaredParts (Program.build_eq built).1]
    exact listed
  have bare : part.Bare := by
    unfold Part.Bare Part.keys
    rw [path]
    decide
  have free : ∀ outer, outer ≠ [] → outer <+: part.path.1 →
      program.type? (".".intercalate outer) = none := by
    have notType : program.type? "N" = none := by
      unfold Program.type?
      rw [(Program.build_eq built).2.2.2.2]
      decide +kernel
    intro outer some front
    rw [path, List.prefix_cons_iff] at front
    rcases front with none | ⟨rest, rfl, front⟩
    · exact absurd none some
    · rw [List.prefix_nil.mp front, String.intercalate_singleton]
      exact notType
  have full : (fullName true true "Y" (by decide) (by decide)).IsFull part := by
    refine ⟨⟨_, rfl, by decide⟩, by decide +kernel, ?_⟩
    unfold Part.bareKeys Part.keys
    rw [path]
    decide +kernel
  refine ⟨program, built, counts, ?_, fun source site => ?_⟩
  · unfold Program.type?
    rw [(Program.build_eq built).2.2.2.2]
    decide +kernel
  · rw [← type]
    exact (counts.found part isPart free _ full "global::@N.@Y" (show _ = _ by decide +kernel)
      source site).mpr bare

/-- A type that is declared with the mark is found under no full name from nowhere, it is no part of
the type without the mark, and the import with the mark offers nothing. -/
theorem verbatim_marks_not_ignored :
    ∃ program, Program.build [markedTypes] [] = .ok program ∧
      program.types.map (·.metadataName) = ["N.@X", "N.Y", "N.@Y"] ∧
      (∀ source site, ∀ name ∈ ["global::N.X", "global::N.@X"],
        program.resolveType? .type name source site = none) ∧
      (markedTypes.usingsIn markedTypes.root).map (·.target) = ["@N"] ∧
      program.known.importedTypes (markedTypes.usingsIn markedTypes.root) "Y" = [] := by
  obtain ⟨program, built⟩ := (Program.build_returns [markedTypes] []).mpr (by decide +kernel)
  have known : program.known = knownNames (declarationsOf [markedTypes]) [] :=
    (Program.build_eq built).2.2.2.1
  obtain ⟨part, listed, path⟩ : ∃ part ∈ declaredParts [markedTypes],
      part.path = (["N"], [("@X", 0)]) := by decide +kernel
  have keys : part.bareKeys = [("N", 0), ("X", 0)] := by
    unfold Part.bareKeys Part.keys
    rw [path]
    decide +kernel
  have full (typeMark : Bool) :
      (fullName false typeMark "X" (by decide) (by decide)).IsFull part := by
    refine ⟨⟨_, rfl, by decide⟩, by cases typeMark <;> decide +kernel, ?_⟩
    rw [keys]
    rfl
  have absent : program.known.absolute? ["N", "X"] = none := by
    rw [known]
    decide +kernel
  have missing (typeMark : Bool) {name : String}
      (spells : (fullName false typeMark "X" (by decide) (by decide)).Spells name)
      (source : Source) (site : Site) : program.resolveType? .type name source site = none := by
    have looked := (full typeMark).resolve spells (mem_declared_parts.mp listed).2.2
      program.known (program.scope source site)
    rw [keys] at looked
    unfold Program.resolveType? Program.resolveName?
    rw [looked.trans absent]
    rfl
  refine ⟨program, built, ?_, fun source site => ?_, by decide +kernel, ?_⟩
  · rw [(Program.build_eq built).2.2.2.2]
    decide +kernel
  · exact List.forall_mem_cons.mpr ⟨missing false (show _ = _ by decide +kernel) source site,
      List.forall_mem_singleton.mpr (missing true (show _ = _ by decide +kernel) source site)⟩
  · rw [known]
    decide +kernel

end Samples

end PropertyGen
