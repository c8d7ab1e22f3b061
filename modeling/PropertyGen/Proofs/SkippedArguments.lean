import PropertyGen.Proofs.ArgumentLists

/-!
When the type arguments of a name make no difference. Two names that differ in their arguments only
bind alike exactly if these are skipped alike, and then they give the same interfaces to the types
that have them as bases, and the same owners to the constants behind them.
-/

namespace PropertyGen

def TypeDeclaration.rebased (bases : TypeDeclaration → List String)
    (declaration : TypeDeclaration) : TypeDeclaration :=
  { declaration with bases := bases declaration }

def Replaced (name other base written : String) : Prop :=
  written = base ∨ base = name ∧ written = other

/-- Two names bind to the same types, and it makes no difference to what is built of these types
which of the two is written. -/
structure BindAlike (name other : String) : Prop where
  types : ∀ program : Program, program.Arises → ∀ scope : Scope, scope.Readable → ∀ use,
    program.known.resolve? use other scope = program.known.resolve? use name scope
  /-- Both have the same interfaces as bases, and all symbols are the same. -/
  interfaces : ∀ (declarations : List TypeDeclaration) (references : References)
    (bases : TypeDeclaration → List String),
    (∀ declaration ∈ declarations, declaration.scope.Readable ∧
      List.Forall₂ (Replaced name other) declaration.bases (bases declaration)) →
      let rewritten := declarations.map (TypeDeclaration.rebased bases)
      typeTable rewritten references (knownNames rewritten references) =
        typeTable declarations references (knownNames declarations references)
  /-- A constant behind either of them has the same owner. -/
  owners : ∀ program : Program, program.Arises → ∀ scope : Scope, scope.Readable →
    ∀ member : String, '.' ∉ member.toList →
      program.constantOwners (other ++ "." ++ member) scope =
        program.constantOwners (name ++ "." ++ member) scope

section Rebased

variable {declarations : List TypeDeclaration} {references : References} {known : KnownNames}
  {bases : TypeDeclaration → List String}

theorem known_names_rebased :
    knownNames (declarations.map (TypeDeclaration.rebased bases)) references =
      knownNames declarations references := by
  unfold knownNames
  rw [List.map_map, List.map_map]
  rfl

theorem kind_rebased (name : String) :
    kindOf? (declarations.map (TypeDeclaration.rebased bases)) references name =
      kindOf? declarations references name := by
  have first : (declarations.map (TypeDeclaration.rebased bases)).find?
      (fun declaration => declaration.metadataName = name) =
        (declarations.find? fun declaration => declaration.metadataName = name).map
          (TypeDeclaration.rebased bases) := List.find?_map
  unfold kindOf?
  rw [first]
  cases declarations.find? fun declaration => declaration.metadataName = name <;> rfl

variable (same : ∀ declaration ∈ declarations,
  (bases declaration).filterMap (fun base => known.resolve? .type base declaration.scope) =
    declaration.bases.filterMap fun base => known.resolve? .type base declaration.scope)

include same

theorem add_declared_rebased (table : List TypeSymbol) (name : String) :
    addDeclared (declarations.map (TypeDeclaration.rebased bases)) references known table name =
      addDeclared declarations references known table name := by
  have parts : (declarations.map (TypeDeclaration.rebased bases)).filter
      (fun declaration => declaration.metadataName = name) =
        (declarations.filter fun declaration => declaration.metadataName = name).map
          (TypeDeclaration.rebased bases) := List.filter_map
  unfold addDeclared
  rw [parts]
  cases own : declarations.filter fun declaration => declaration.metadataName = name with
  | nil => rfl
  | cons first more =>
      have interfaces : interfacesOf (declarations.map (TypeDeclaration.rebased bases)) references
          known ((first :: more).map (TypeDeclaration.rebased bases)) =
            interfacesOf declarations references known (first :: more) := by
        unfold interfacesOf
        rw [List.flatMap_map]
        simp only [kind_rebased]
        congr 2
        apply List.flatMap_congr
        intro part listed
        rw [← own] at listed
        exact same part (List.mem_filter.mp listed).1
      rw [List.map_cons] at interfaces ⊢
      dsimp only
      rw [interfaces]
      unfold symbolOf
      rw [List.map_cons, List.map_cons, List.map_map]
      rfl

theorem type_table_rebased :
    typeTable (declarations.map (TypeDeclaration.rebased bases)) references known =
      typeTable declarations references known := by
  have added : addDeclared (declarations.map (TypeDeclaration.rebased bases)) references known =
      addDeclared declarations references known := by
    funext table name
    exact add_declared_rebased same table name
  unfold typeTable
  rw [added, List.map_map]
  rfl

end Rebased

section Binding

variable {name other : String}

theorem resolve_of_request {scope : Scope} (same : scope.request? other = scope.request? name)
    (known : KnownNames) (use : NameUse) :
    known.resolve? use other scope = known.resolve? use name scope := by
  unfold KnownNames.resolve? KnownNames.requests
  rw [same]

theorem to_list_compact (text : String) :
    (Text.compact text).toList = Text.compactChars text.toList := String.toList_ofList

theorem request_compact (scope : Scope) (name : String) :
    scope.request? (Text.compact name) = scope.request? name := by
  have again : Text.compact (Text.compact name) = Text.compact name := by
    unfold Text.compact Text.compactChars
    rw [String.toList_ofList, List.filter_filter]
    simp only [Bool.and_self]
  unfold Scope.request?
  rw [again]

theorem constant_owners_eq (program : Program) (scope : Scope) (some : Text.compact name ≠ "")
    {member : String} (dotless : '.' ∉ member.toList) :
    program.constantOwners (name ++ "." ++ member) scope =
      ((program.resolveName? .type name scope).toList, Text.compact member) := by
  have whole : (Text.compact (name ++ "." ++ member)).toList =
      (Text.compact name).toList ++ '.' :: (Text.compact member).toList := by
    rw [to_list_compact, to_list_compact, to_list_compact, String.toList_append,
      String.toList_append, Text.compact_append, Text.compact_append, List.append_assoc]
    rfl
  have clean : '.' ∉ (Text.compact member).toList := by
    rw [to_list_compact]
    exact fun inside => dotless (List.mem_filter.mp inside).1
  unfold Program.constantOwners
  dsimp only
  rw [whole, Names.before_last_dot _ clean, Text.after_last_dot _ clean, String.ofList_toList,
    String.ofList_toList, if_neg some]
  unfold Program.resolveName?
  rw [resolve_of_request (request_compact scope name)]

theorem filter_map_replaced (resolve : String → Option String) (same : resolve other = resolve name)
    {before after : List String} (replaced : List.Forall₂ (Replaced name other) before after) :
    after.filterMap resolve = before.filterMap resolve := by
  induction replaced with
  | nil => rfl
  | @cons base written before after own later induction =>
      have alike : resolve written = resolve base := by
        rcases own with rfl | ⟨rfl, rfl⟩
        · rfl
        · exact same
      rw [List.filterMap_cons, List.filterMap_cons, alike, induction]

theorem bind_alike_of_requests
    (same : ∀ scope : Scope, scope.Readable → scope.request? other = scope.request? name)
    (some : Text.compact name ≠ "") (otherSome : Text.compact other ≠ "") :
    BindAlike name other := by
  constructor
  case types =>
    intro program _ scope readable use
    exact resolve_of_request (same scope readable) program.known use
  case interfaces =>
    intro declarations references bases replaced
    dsimp only
    rw [known_names_rebased]
    apply type_table_rebased
    intro declaration listed
    obtain ⟨readable, bases⟩ := replaced declaration listed
    exact filter_map_replaced
      (fun base => (knownNames declarations references).resolve? .type base declaration.scope)
      (resolve_of_request (same _ readable) _ .type) bases
  case owners =>
    intro program _ scope readable member dotless
    rw [constant_owners_eq program scope some dotless,
      constant_owners_eq program scope otherSome dotless]
    unfold Program.resolveName?
    rw [resolve_of_request (same scope readable)]

end Binding

namespace Names.Reference

variable {first second : Reference}

theorem SkippedAlike.request (skipped : first.SkippedAlike second) (alike : first.Alike second)
    {name other : String} (spells : first.Spells name) (otherSpells : second.Spells other)
    {scope : Scope} (readable : scope.Readable) : scope.request? other = scope.request? name := by
  cases hides : first.hides with
  | true =>
      rw [request_hidden readable spells hides,
        request_hidden readable otherSpells (skipped.hidden.trans hides)]
  | false =>
      have segments : second.segments = first.segments := by
        unfold Reference.segments QualifiedText.counts
        rw [alike.keys, skipped.counted hides]
      rw [request_shown readable spells hides,
        request_shown readable otherSpells (skipped.hidden.trans hides)]
      unfold Reference.request?
      rw [alike.labels, segments]

theorem Spells.some {reference : Reference} {name : String} (spells : reference.Spells name) :
    Text.compact name ≠ "" := by
  have nonempty : reference.name.chars ≠ [] := by
    cases reference.name with
    | single segment =>
        rw [QualifiedText.chars]
        exact segment.chars_ne_nil
    | dotted segment rest =>
        rw [QualifiedText.chars]
        exact List.append_ne_nil_of_left_ne_nil segment.chars_ne_nil _
  intro empty
  have none : reference.chars = [] := by
    rw [← show (Text.compact name).toList = reference.chars from spells, empty]
    rfl
  exact nonempty (List.append_eq_nil_iff.mp (List.append_eq_nil_iff.mp none).2).1

end Names.Reference

section Chains

def chain (outer : String) : List String → List String
  | [] => [outer]
  | segment :: rest => outer :: chain (Names.nest outer segment) rest

variable {known : KnownNames}

theorem in_type_chain {outer : String} {rest : List String}
    (all : ∀ type ∈ chain outer rest, known.types.contains type = true) :
    known.inType? outer rest = some (rest.foldl Names.nest outer) := by
  induction rest generalizing outer with
  | nil => rfl
  | cons segment rest induction =>
      obtain ⟨-, later⟩ := List.forall_mem_cons.mp all
      have isType : known.types.contains (Names.nest outer segment) = true := by
        apply later
        cases rest <;> exact List.mem_cons_self
      rw [KnownNames.inType?, if_pos isType, induction later, List.foldl_cons]

theorem in_type_result {outer type : String} {rest : List String}
    (found : known.inType? outer rest = some type) : type = rest.foldl Names.nest outer := by
  induction rest generalizing outer with
  | nil => exact (Option.some.inj found).symm
  | cons segment rest induction =>
      rw [KnownNames.inType?] at found
      split at found
      · exact induction found
      · cases found

theorem fold_nest_inj {outer other : String} {rest more : List String}
    (lengths : rest.length = more.length) (plain : ∀ segment ∈ rest, '+' ∉ segment.toList)
    (alsoPlain : ∀ segment ∈ more, '+' ∉ segment.toList)
    (same : rest.foldl Names.nest outer = more.foldl Names.nest other) :
    outer = other ∧ rest = more := by
  induction rest generalizing outer other more with
  | nil =>
      rw [List.length_nil] at lengths
      rw [List.length_eq_zero_iff.mp lengths.symm] at same ⊢
      exact ⟨same, rfl⟩
  | cons segment rest induction =>
      cases more with
      | nil => cases lengths
      | cons another more =>
          obtain ⟨own, others⟩ := List.forall_mem_cons.mp plain
          obtain ⟨alsoOwn, alsoOthers⟩ := List.forall_mem_cons.mp alsoPlain
          obtain ⟨nested, rfl⟩ := induction (Nat.succ.inj lengths) others alsoOthers same
          obtain ⟨rfl, rfl⟩ := (Names.nest_inj own alsoOwn).mp nested
          exact ⟨rfl, rfl⟩

def KnownNames.outermost? (known : KnownNames) : List String → Option String
  | [] => none
  | head :: rest => if known.types.contains head = true then known.inType? head rest else none

theorem outermost_result {segments : List String} {type : String}
    (found : known.outermost? segments = some type) :
    ∃ head rest, segments = head :: rest ∧ type = rest.foldl Names.nest head := by
  cases segments with
  | nil => cases found
  | cons head rest =>
      unfold KnownNames.outermost? at found
      dsimp only at found
      split at found
      · exact ⟨head, rest, rfl, in_type_result found⟩
      · cases found

theorem absolute_bare (bare : known.spaces = []) (segments : List String) :
    known.absolute? segments = known.outermost? segments := by
  unfold KnownNames.absolute? KnownNames.outermost?
  cases segments with
  | nil => rfl
  | cons head rest =>
      rw [KnownNames.inSpace?, bare, List.contains_nil, if_neg Bool.false_ne_true]
      rfl

theorem search_bare (bare : known.spaces = []) (segments : List String) :
    (known.search ⟨[], [⟨"", []⟩]⟩ segments).type? = known.outermost? segments := by
  cases segments with
  | nil => rfl
  | cons head rest =>
      show (known.atLevels head rest [⟨"", []⟩]).type? = _
      rw [KnownNames.at_levels_cons, KnownNames.directives_nil, Outcome.undecided_followed_by,
        KnownNames.atLevels, Outcome.followed_by_undecided]
      unfold KnownNames.members KnownNames.outermost?
      dsimp only
      rw [bare, List.contains_nil, if_neg Bool.false_ne_true, show Names.qualify "" head = head from rfl]
      by_cases isType : known.types.contains head = true
      · rw [if_pos isType, if_pos isType]
        rfl
      · rw [if_neg isType, if_neg isType]
        rfl

theorem mem_chain_clean {mark : Char} (notPlus : mark ≠ '+') {outer : String} {rest : List String}
    (own : mark ∉ outer.toList) (each : ∀ segment ∈ rest, mark ∉ segment.toList) :
    ∀ type ∈ chain outer rest, mark ∉ type.toList := by
  induction rest generalizing outer with
  | nil =>
      intro type listed
      rw [List.mem_singleton.mp listed]
      exact own
  | cons segment rest induction =>
      obtain ⟨clean, others⟩ := List.forall_mem_cons.mp each
      have nested : mark ∉ (Names.nest outer segment).toList := by
        rw [Names.to_list_nest, List.mem_append, List.mem_cons, not_or, not_or]
        exact ⟨own, notPlus, clean⟩
      intro type listed
      rcases List.mem_cons.mp listed with rfl | later
      · exact own
      · exact induction nested others type later

/-- There is a program that knows the types of a chain and no namespaces. -/
theorem exists_chain {outer : String} {rest : List String} (dotless : '.' ∉ outer.toList)
    (each : ∀ segment ∈ rest, '.' ∉ segment.toList) :
    ∃ program : Program, program.Arises ∧ program.known.spaces = [] ∧
      ∀ type ∈ chain outer rest, program.known.types.contains type = true := by
  have keys (types : List String) : Table.keys (types.map fun type => (type, "class")) = types := by
    unfold Table.keys
    rw [List.map_map]
    exact List.map_id _
  obtain ⟨program, built⟩ := (Program.build_returns []
    ((chain outer rest).map fun type => (type, "class"))).mpr fun _ none => absurd none List.not_mem_nil
  have known (type : String) : type ∈ program.known.types ↔ type ∈ chain outer rest := by
    rw [Program.mem_known_types built, keys]
    exact or_iff_right fun some => some rfl
  refine ⟨program, .created (Program.create_returns.mpr built), ?_, ?_⟩
  · apply List.eq_nil_iff_forall_not_mem.mpr
    intro space isSpace
    rcases (Program.mem_known_spaces built space).mp isSpace with ⟨_, none, _⟩ | ⟨type, isType, around⟩
    · cases none
    · have clean := mem_chain_clean (by decide) dotless each type ((known type).mp isType)
      have shorter : '.' ∉ Text.beforeFirst '+' type.toList := fun inside =>
        clean ((Text.before_first_begins _ _).subset inside)
      unfold Names.spaceOf at around
      rw [(Text.no_last_dot shorter).1] at around
      cases around
  · intro type listed
    exact List.contains_iff_mem.mpr ((known type).mpr listed)

end Chains

namespace Names

theorem map_key_segment_inj {keys others : List (String × Nat)} (plain : ∀ key ∈ keys, Plain key.1)
    (alsoPlain : ∀ key ∈ others, Plain key.1)
    (same : keys.map keySegment = others.map keySegment) : keys = others := by
  induction keys generalizing others with
  | nil => exact (List.map_eq_nil_iff.mp same.symm).symm
  | cons key keys induction =>
      cases others with
      | nil => cases same
      | cons other others =>
          obtain ⟨own, later⟩ := List.cons_eq_cons.mp same
          obtain ⟨keyPlain, plain⟩ := List.forall_mem_cons.mp plain
          obtain ⟨otherPlain, alsoPlain⟩ := List.forall_mem_cons.mp alsoPlain
          have keyEq := (key_segment_inj (keyPlain.2 '`' (by decide))
            (otherPlain.2 '`' (by decide))).mp own
          rw [keyEq, induction plain alsoPlain later]

theorem zip_with_inj {keys : List (String × Nat)} {first second : List Nat}
    (lengths : first.length = keys.length) (otherLengths : second.length = keys.length)
    (same : List.zipWith (fun key commas => (key.1, key.2 + commas)) keys first =
      List.zipWith (fun key commas => (key.1, key.2 + commas)) keys second) : first = second := by
  induction keys generalizing first second with
  | nil => rw [List.length_eq_zero_iff.mp lengths, List.length_eq_zero_iff.mp otherLengths]
  | cons key keys induction =>
      obtain ⟨count, first, rfl⟩ := List.exists_cons_of_length_eq_add_one lengths
      obtain ⟨other, second, rfl⟩ := List.exists_cons_of_length_eq_add_one otherLengths
      obtain ⟨own, later⟩ := List.cons_eq_cons.mp same
      have counts := (Prod.mk.inj own).2
      rw [Nat.add_left_cancel counts,
        induction (Nat.succ.inj lengths) (Nat.succ.inj otherLengths) later]

end Names

namespace Names.Reference

variable (reference : Reference)

theorem segments_clean {mark : Char} (listed : mark ∈ marks) (notTick : mark ≠ '`') :
    ∀ segment ∈ reference.segments, mark ∉ segment.toList := by
  intro segment inside
  obtain ⟨key, own, rfl⟩ := List.mem_map.mp inside
  have noDigits : marks.filter Char.isDigit = [] := rfl
  have noDigit := Bool.eq_false_iff.mpr (List.filter_eq_nil_iff.mp noDigits mark listed)
  exact key_segment_clean noDigit notTick
    ((reference.name.counts_plain key own).2 mark listed)

def aliasUsing (label : Identifier) : Using :=
  { target := "T"
    alias? := some (String.ofList label.chars)
    isGlobal := false
    isStatic := false
    text := "" }

/-- A scope in which a reference makes a request, and in which nothing else is to be found. -/
def place : Scope :=
  { enclosing := []
    levels := [⟨"", if reference.aliased then (reference.label?.map aliasUsing).toList else []⟩] }

def aim : List String := if reference.aliased then "T" :: reference.segments else reference.segments

variable {reference} {name : String}

theorem place_readable : reference.place.Readable := by
  have usings : ∀ directive ∈ reference.place.levels.flatMap (·.usings),
      ∃ label, directive = aliasUsing label := by
    unfold place
    rw [List.flatMap_singleton]
    intro directive listed
    dsimp only at listed
    split at listed
    · obtain ⟨label, -, own⟩ := Option.map_eq_some_iff.mp (Option.mem_toList.mp listed)
      exact ⟨label, own.symm⟩
    · cases listed
  constructor
  case labels =>
    intro directive listed label isLabel
    obtain ⟨own, rfl⟩ := usings directive listed
    rw [← Option.some.inj isLabel, String.toList_ofList]
    exact own.clean (by decide) (by decide)
  case targets =>
    intro directive listed
    obtain ⟨own, rfl⟩ := usings directive listed
    exact show "T".toList.foldl bracketDepth 0 = 0 by decide

/-- In its place a reference leads to the types that its segments name. -/
theorem resolve_in_place {known : KnownNames} (bare : known.spaces = [])
    (shown : reference.hides = false) (spells : reference.Spells name) :
    known.resolve? .type name reference.place = known.outermost? reference.aim := by
  rw [KnownNames.resolve_type_eq, request_shown place_readable spells shown]
  unfold request? aim
  cases isAliased : reference.aliased with
  | true =>
      obtain ⟨label, labelled, notGlobal⟩ := aliased_iff.mp isAliased
      have target : reference.place.aliasTarget? (String.ofList label.chars) = some "T" := by
        unfold Scope.aliasTarget? place
        rw [isAliased, labelled, if_pos rfl, List.flatMap_singleton]
        simp [aliasUsing]
      rw [labelled]
      dsimp only
      rw [if_neg notGlobal, target, if_pos rfl]
      exact absolute_bare bare _
  | false =>
      rw [if_neg Bool.false_ne_true]
      cases labelled : reference.label? with
      | none =>
          have own : reference.place = ⟨[], [⟨"", []⟩]⟩ := by
            unfold place
            rw [isAliased, if_neg Bool.false_ne_true]
          rw [own]
          exact search_bare bare _
      | some label =>
          have isGlobal : label.chars = "global".toList := by
            by_contra other
            rw [aliased_iff.mpr ⟨label, labelled, other⟩] at isAliased
            cases isAliased
          dsimp only
          rw [if_pos isGlobal]
          exact absolute_bare bare _

theorem aim_clean {mark : Char} (listed : mark ∈ marks) (notTick : mark ≠ '`') :
    ∀ segment ∈ reference.aim, mark ∉ segment.toList := by
  have target : Plain "T" := by decide
  unfold aim
  split
  · exact List.forall_mem_cons.mpr ⟨target.2 mark listed, reference.segments_clean listed notTick⟩
  · exact reference.segments_clean listed notTick

theorem aim_ne_nil : reference.aim ≠ [] := by
  unfold aim segments QualifiedText.counts
  split
  · exact List.cons_ne_nil _ _
  · cases reference.name <;> exact List.cons_ne_nil _ _

section Alike

variable {other : Reference} (alike : reference.Alike other)
include alike

theorem Alike.aliased : other.aliased = reference.aliased := by
  unfold Reference.aliased
  rw [alike.labels]

theorem Alike.place : other.place = reference.place := by
  unfold Reference.place
  rw [alike.aliased, alike.labels]

theorem Alike.length_aim : other.aim.length = reference.aim.length := by
  have lengths : other.segments.length = reference.segments.length := by
    unfold Reference.segments QualifiedText.counts
    rw [List.length_map, List.length_map, List.length_zipWith, List.length_zipWith,
      QualifiedText.length_commas, QualifiedText.length_commas, alike.keys]
  unfold aim
  rw [alike.aliased]
  split
  · rw [List.length_cons, List.length_cons, lengths]
  · exact lengths

theorem Alike.segments_of_aim (same : other.aim = reference.aim) :
    other.segments = reference.segments := by
  unfold aim at same
  rw [alike.aliased] at same
  split at same
  · exact (List.cons_eq_cons.mp same).2
  · exact same

theorem Alike.commas (same : other.segments = reference.segments) :
    other.name.commas = reference.name.commas := by
  have counts : other.name.counts = reference.name.counts :=
    map_key_segment_inj other.name.counts_plain reference.name.counts_plain same
  unfold QualifiedText.counts at counts
  rw [alike.keys] at counts
  apply zip_with_inj _ _ counts
  · rw [other.name.length_commas, alike.keys]
  · exact reference.name.length_commas

end Alike

/-- A reference leads to a type in some program, and what leads to the same type from there has the
same segments. -/
theorem exists_binding (shown : reference.hides = false) (spells : reference.Spells name) :
    ∃ (program : Program) (type : String), program.Arises ∧
      program.known.resolve? .type name reference.place = some type ∧
      ∀ (other : Reference) (written : String), reference.Alike other → other.Spells written →
        program.known.resolve? .type written reference.place = some type →
          other.hides = false ∧ other.segments = reference.segments := by
  obtain ⟨head, rest, aimed⟩ := List.exists_cons_of_ne_nil (show reference.aim ≠ [] from aim_ne_nil)
  have dotless : ∀ segment ∈ reference.aim, '.' ∉ segment.toList :=
    aim_clean (by decide) (by decide)
  have plusless : ∀ segment ∈ reference.aim, '+' ∉ segment.toList :=
    aim_clean (by decide) (by decide)
  rw [aimed] at dotless plusless
  obtain ⟨own, others⟩ := List.forall_mem_cons.mp dotless
  obtain ⟨program, arises, bare, all⟩ := exists_chain own others
  have headKnown : program.known.types.contains head = true := by
    apply all
    cases rest <;> exact List.mem_cons_self
  refine ⟨program, rest.foldl nest head, arises, ?_, ?_⟩
  · rw [resolve_in_place bare shown spells, aimed, KnownNames.outermost?, if_pos headKnown]
    exact in_type_chain all
  · intro other written alike otherSpells found
    cases hides : other.hides with
    | true =>
        rw [KnownNames.resolve_type_eq, request_hidden place_readable otherSpells hides] at found
        cases found
    | false =>
        rw [← alike.place, resolve_in_place bare hides otherSpells] at found
        obtain ⟨otherHead, otherRest, otherAimed, result⟩ := outermost_result found
        have lengths := alike.length_aim
        have otherPlusless : ∀ segment ∈ other.aim, '+' ∉ segment.toList :=
          aim_clean (by decide) (by decide)
        rw [otherAimed] at otherPlusless
        rw [otherAimed, aimed, List.length_cons, List.length_cons] at lengths
        obtain ⟨rfl, rfl⟩ := fold_nest_inj (Nat.succ.inj lengths).symm
          (List.forall_mem_cons.mp plusless).2 (List.forall_mem_cons.mp otherPlusless).2 result
        exact ⟨rfl, alike.segments_of_aim (otherAimed.trans aimed.symm)⟩

end Names.Reference

/-- Names that differ in their type arguments bind alike exactly if the arguments are skipped
alike: as many commas of arrays and tuples, and no double colon in one of them alone. -/
theorem arguments_skipped_iff {first second : Names.Reference} (alike : first.Alike second)
    {name other : String} (spells : first.Spells name) (otherSpells : second.Spells other) :
    BindAlike name other ↔ first.SkippedAlike second := by
  constructor
  · intro bind
    cases hides : first.hides with
    | false =>
        obtain ⟨program, type, arises, found, only⟩ := Names.Reference.exists_binding hides spells
        have same := bind.types program arises first.place Names.Reference.place_readable .type
        obtain ⟨shown, segments⟩ := only second other alike otherSpells (same.trans found)
        exact ⟨shown.trans hides.symm, fun _ => alike.commas segments⟩
    | true =>
        refine ⟨?_, fun shown => absurd (hides.symm.trans shown) (by decide)⟩
        rw [hides]
        by_contra notHidden
        have shown := Bool.eq_false_iff.mpr notHidden
        obtain ⟨program, type, arises, found, -⟩ :=
          Names.Reference.exists_binding shown otherSpells
        have same := bind.types program arises second.place Names.Reference.place_readable .type
        rw [found, KnownNames.resolve_type_eq, Names.Reference.request_hidden
          Names.Reference.place_readable spells hides] at same
        cases same
  · intro skipped
    exact bind_alike_of_requests
      (fun scope readable => skipped.request alike spells otherSpells readable)
      spells.some otherSpells.some

section Samples

open Names

def simpleType (name : String) (plain : Plain name) (noComma : ',' ∉ name.toList) : TypeText :=
  .named none (.single (.plain ⟨false, name, plain, noComma⟩))

def intType : TypeText := simpleType "int" (by decide) (by decide)

def pairOfInts : QualifiedText :=
  .single (.generic ⟨false, "B", by decide, by decide⟩ (.more intType (.single intType)))

def withArgument (argument : TypeText) : Reference :=
  { label? := none
    name := .single (.generic ⟨false, "A", by decide, by decide⟩ (.single argument))
    nullable := false }

theorem with_argument_alike (first second : TypeText) :
    (withArgument first).Alike (withArgument second) := ⟨rfl, rfl⟩

theorem arguments_skipped_iff_nested :
    (withArgument intType).Alike (withArgument (.array (.nullable (.named none pairOfInts)) 0)) ∧
      BindAlike "A<int>" "A<B<int, int>?[]>" := by
  have alike := with_argument_alike intType (.array (.nullable (.named none pairOfInts)) 0)
  have skipped : (withArgument intType).SkippedAlike
      (withArgument (.array (.nullable (.named none pairOfInts)) 0)) :=
    ⟨by decide +kernel, fun _ => by decide +kernel⟩
  refine ⟨alike, (arguments_skipped_iff alike ?_ ?_).mpr skipped⟩
  · show _ = _
    decide +kernel
  · show _ = _
    decide +kernel

open Marker (branch token leaf fieldLeaf fieldBranch)

def matrixBase : Source :=
  { path := "F0.cs"
    bytes := Text.Utf8.encode "interface A<T> \x7b \x7d class B : A<int[,]> \x7b \x7d"
    root :=
      branch "compilation_unit" 0 42 [
        branch "interface_declaration" 0 18 [
          token "interface" 0 9,
          fieldLeaf "identifier" "name" 10 11,
          fieldBranch "type_parameter_list" "type_parameters" 11 14 [
            token "<" 11 12,
            branch "type_parameter" 12 13 [fieldLeaf "identifier" "name" 12 13],
            token ">" 13 14],
          fieldBranch "declaration_list" "body" 15 18 [
            token "\x7b" 15 16,
            token "\x7d" 17 18]],
        branch "class_declaration" 19 42 [
          token "class" 19 24,
          fieldLeaf "identifier" "name" 25 26,
          branch "base_list" 27 38 [
            token ":" 27 28,
            branch "generic_name" 29 38 [
              leaf "identifier" 29 30,
              branch "type_argument_list" 30 38 [
                token "<" 30 31,
                branch "array_type" 31 37 [
                  fieldLeaf "predefined_type" "type" 31 34,
                  fieldBranch "array_rank_specifier" "rank" 34 37 [
                    token "[" 34 35,
                    token "," 35 36,
                    token "]" 36 37]],
                token ">" 37 38]]],
          fieldBranch "declaration_list" "body" 39 42 [
            token "\x7b" 39 40,
            token "\x7d" 41 42]]] }

/-- From the class the interface is found with some arguments and not with others. -/
def FindsSome (program : Program) (site : Site) : Prop :=
  site.node.kind = "class_declaration" ∧
    TypeDeclaration.basesOf matrixBase site.node = ["A<int[,]>"] ∧
    (program.type? "B").map (·.interfaces) = some [] ∧
    (program.scope matrixBase site).levels = [⟨"", []⟩] ∧
    (["A<int>", "A<B<int, int>?[]>"].map fun name =>
      program.known.resolve? .type name (program.scope matrixBase site)) =
        [some "A`1", some "A`1"] ∧
    (["A<int[,]>", "A<(int, int)>", "A<global::System.Int32>"].map fun name =>
      program.known.resolve? .type name (program.scope matrixBase site)) = [none, none, none]

instance (program : Program) (site : Site) : Decidable (FindsSome program site) :=
  inferInstanceAs (Decidable (_ ∧ _ ∧ _ ∧ _ ∧ _ ∧ _))

/-- The commas of an array or of a tuple, and an alias or the global mark in an argument, change
what a name binds to. -/
theorem arguments_not_skipped :
    (∃ program site, Program.build [matrixBase] [] = .ok program ∧ site ∈ matrixBase.sites ∧
      FindsSome program site) ∧
    ¬ ∀ (first second : Reference) (name other : String), first.Alike second → first.Spells name →
      second.Spells other → BindAlike name other := by
  have found : ((Program.build [matrixBase] []).toOption.any fun program =>
      matrixBase.sites.any fun site => FindsSome program site) = true := by decide +kernel
  obtain ⟨program, built, found⟩ := except_any_returns found
  obtain ⟨site, inside, given⟩ := List.any_eq_true.mp found
  have finds := of_decide_eq_true given
  refine ⟨⟨program, site, built, inside, finds⟩, fun always => ?_⟩
  obtain ⟨-, -, -, levels, found, missing⟩ := finds
  have readable : (program.scope matrixBase site).Readable := by
    constructor
    · rw [levels]
      exact fun _ listed => absurd listed List.not_mem_nil
    · rw [levels]
      exact fun _ listed => absurd listed List.not_mem_nil
  have bind := always (withArgument intType) (withArgument (.array intType 1)) "A<int>" "A<int[,]>"
    (with_argument_alike _ _) (show _ = _ by decide +kernel) (show _ = _ by decide +kernel)
  have same := bind.types program (.created (Program.create_returns.mpr built)) _ readable .type
  have present : program.known.resolve? .type "A<int>" (program.scope matrixBase site) =
      some "A`1" := (List.cons_eq_cons.mp found).1
  have absent : program.known.resolve? .type "A<int[,]>" (program.scope matrixBase site) =
      none := (List.cons_eq_cons.mp missing).1
  rw [present, absent] at same
  cases same

end Samples

end PropertyGen
