import PropertyGen.Proofs.Binding
import PropertyGen.Proofs.Evaluation
import PropertyGen.Proofs.Interference
import PropertyGen.Proofs.Ownership

/-!
Sources in another order. If each type is declared in one source, all that belongs to a type comes
from that source, so every lookup by a name finds the same in any order of the sources, and the
groups of a run are the same up to their order.
-/

namespace PropertyGen

section Blocks

variable {α β : Type}

theorem flat_map_nonempty (block : α → List β) (elements : List α) :
    (elements.filter fun element => !(block element).isEmpty).flatMap block =
      elements.flatMap block := by
  induction elements with
  | nil => rfl
  | cons element rest induction =>
      rw [List.flatMap_cons]
      cases own : block element with
      | nil =>
          rw [List.filter_cons_of_neg (by simp [own]), induction]
          rfl
      | cons head more =>
          rw [List.filter_cons_of_pos (by simp [own]), List.flatMap_cons, own, induction]

/-- If one element alone has a block that is not empty, the order of the elements does not matter. -/
theorem flat_map_reordered {block : α → List β} {first second : List α}
    (reordered : second.Perm first)
    (alone : ∀ element ∈ first, ∀ other ∈ first, block element ≠ [] → block other ≠ [] →
      element = other) : second.flatMap block = first.flatMap block := by
  have kept := reordered.filter fun element => !(block element).isEmpty
  rw [← flat_map_nonempty block first, ← flat_map_nonempty block second]
  have nonempty {element : α}
      (member : element ∈ first.filter fun element => !(block element).isEmpty) :
      element ∈ first ∧ block element ≠ [] := by
    obtain ⟨listed, isNonempty⟩ := List.mem_filter.mp member
    rw [Bool.not_eq_true', List.isEmpty_eq_false_iff] at isNonempty
    exact ⟨listed, isNonempty⟩
  generalize first.filter (fun element => !(block element).isEmpty) = blocks at kept nonempty ⊢
  cases blocks with
  | nil => rw [kept.eq_nil]
  | cons element rest =>
      have same : element :: rest = List.replicate (element :: rest).length element := by
        apply List.eq_replicate_iff.mpr
        refine ⟨rfl, fun other member => ?_⟩
        obtain ⟨otherListed, otherBlock⟩ := nonempty member
        obtain ⟨listed, ownBlock⟩ := nonempty List.mem_cons_self
        exact alone other otherListed element listed otherBlock ownBlock
      rw [same] at kept ⊢
      rw [List.perm_replicate.mp kept]

end Blocks

/-- Sources whose order matters for nothing but the order of the results: types are declared in one
source each, one source alone has global directives, and no constant has a dot in its name. -/
structure Reorderable (sources : List Source) : Prop where
  ordered : ∀ source ∈ sources, source.Ordered
  types : ∀ first ∈ sources, ∀ second ∈ sources, ∀ name, first.Declares name →
    second.Declares name → first = second
  globals : ∀ first ∈ sources, ∀ second ∈ sources, globalUsings [first] ≠ [] →
    globalUsings [second] ≠ [] → first = second
  constants : ∀ source ∈ sources, ∀ name ∈ source.constantNames, '.' ∉ name.toList

theorem Reorderable.reordered {sources others : List Source} (reorderable : Reorderable sources)
    (perm : others.Perm sources) : Reorderable others := by
  refine ⟨?_, ?_, ?_, ?_⟩
  · intro source listed
    exact reorderable.ordered source (perm.mem_iff.mp listed)
  · intro first firstListed second secondListed
    exact reorderable.types first (perm.mem_iff.mp firstListed) second
      (perm.mem_iff.mp secondListed)
  · intro first firstListed second secondListed
    exact reorderable.globals first (perm.mem_iff.mp firstListed) second
      (perm.mem_iff.mp secondListed)
  · intro source listed
    exact reorderable.constants source (perm.mem_iff.mp listed)

theorem Names.member_type {type name other another : String} (dotless : '.' ∉ name.toList)
    (alsoDotless : '.' ∉ another.toList) (same : member type name = member other another) :
    type = other := by
  have characters := congrArg String.toList same
  unfold member at characters
  simp only [String.toList_append, List.append_assoc] at characters
  have fronts := congrArg (Text.beforeLast '.') characters
  rw [show ".".toList ++ name.toList = '.' :: name.toList from rfl,
    show ".".toList ++ another.toList = '.' :: another.toList from rfl,
    before_last_dot _ dotless, before_last_dot _ alsoDotless] at fronts
  exact String.toList_inj.mp fronts

namespace Reorderable

variable {sources others : List Source} {references : References} {first second : Program}
  (reorderable : Reorderable sources) (perm : others.Perm sources)
include reorderable perm

theorem global_usings_eq : globalUsings others = globalUsings sources := by
  apply flat_map_reordered perm
  intro source listed other otherListed own ownOther
  apply reorderable.globals source listed other otherListed
  · unfold globalUsings
    rw [List.flatMap_singleton]
    exact own
  · unfold globalUsings
    rw [List.flatMap_singleton]
    exact ownOther

theorem parts_in_eq (globals : List Using) (name : String) :
    partsIn globals others name = partsIn globals sources name := by
  have declares {source : Source} (own : ((TypeDeclaration.all source globals).filter
      fun declaration => declaration.metadataName = name) ≠ []) : source.Declares name := by
    apply (parts_iff_declares globals).mp
    unfold partsIn
    rw [List.flatMap_singleton]
    exact own
  apply flat_map_reordered perm
  intro source listed other otherListed own ownOther
  exact reorderable.types source listed other otherListed name (declares own) (declares ownOther)

theorem constants_of_key (globals : List Using) (key : String) :
    (others.flatMap (ConstantDeclaration.inSource globals)).find?
        (fun constant => constant.key = key) =
      (sources.flatMap (ConstantDeclaration.inSource globals)).find?
        fun constant => constant.key = key := by
  rw [← List.head?_filter, ← List.head?_filter, List.filter_flatMap, List.filter_flatMap]
  congr 1
  apply flat_map_reordered perm
  have owner {source : Source} (listed : source ∈ sources)
      (own : ((ConstantDeclaration.inSource globals source).filter
        fun constant => constant.key = key) ≠ []) :
      ∃ type name, key = Names.member type name ∧ source.Declares type ∧ '.' ∉ name.toList := by
    obtain ⟨constant, member⟩ := List.exists_mem_of_ne_nil _ own
    obtain ⟨inside, sameKey⟩ := List.mem_filter.mp member
    obtain ⟨type, name, keyEq, declares, named⟩ :=
      constant_owner (reorderable.ordered source listed) inside
    exact ⟨type, name, (of_decide_eq_true sameKey).symm.trans keyEq, declares,
      reorderable.constants source listed name named⟩
  intro source listed other otherListed own ownOther
  obtain ⟨type, name, keyEq, declares, dotless⟩ := owner listed own
  obtain ⟨another, otherName, otherKey, alsoDeclares, alsoDotless⟩ := owner otherListed ownOther
  have same := Names.member_type dotless alsoDotless (keyEq.symm.trans otherKey)
  exact reorderable.types source listed other otherListed type declares (same ▸ alsoDeclares)

section Programs

variable (built : Program.build (sources ++ [Marker.source]) references = .ok first)
  (again : Program.build (others ++ [Marker.source]) references = .ok second)
include built again

theorem globals_eq : second.globals = first.globals := by
  rw [(Program.build_eq built).2.2.1, (Program.build_eq again).2.2.1]
  have same := global_usings_eq reorderable perm
  unfold globalUsings at same ⊢
  rw [List.flatMap_append, List.flatMap_append, same]

theorem parts_eq : partsIn second.globals (others ++ [Marker.source]) =
    partsIn first.globals (sources ++ [Marker.source]) := by
  funext name
  rw [globals_eq reorderable perm built again, parts_in_append, parts_in_append,
    parts_in_eq reorderable perm]

theorem types_eq (name : String) :
    second.known.types.contains name = first.known.types.contains name := by
  rw [Bool.eq_iff_iff, List.contains_iff_mem, List.contains_iff_mem,
    Program.mem_known_types again, Program.mem_known_types built,
    parts_eq reorderable perm built again]

theorem spaces_eq (name : String) :
    second.known.spaces.contains name = first.known.spaces.contains name := by
  have sameTypes (type : String) : type ∈ second.known.types ↔ type ∈ first.known.types := by
    rw [← List.contains_iff_mem, ← List.contains_iff_mem, types_eq reorderable perm built again]
  have sameSources (source : Source) : source ∈ others ++ [Marker.source] ↔
      source ∈ sources ++ [Marker.source] := (perm.append_right _).mem_iff
  rw [Bool.eq_iff_iff, List.contains_iff_mem, List.contains_iff_mem,
    Program.mem_known_spaces again, Program.mem_known_spaces built]
  simp only [sameTypes, sameSources]

theorem resolve_eq : second.known.resolve? = first.known.resolve? :=
  KnownNames.resolve_same (types_eq reorderable perm built again)
    (spaces_eq reorderable perm built again)

theorem type_eq : second.type? = first.type? := by
  have types : second.known.types.contains = first.known.types.contains :=
    funext (types_eq reorderable perm built again)
  funext name
  rw [Program.type_eq built, Program.type_eq again, parts_eq reorderable perm built again]
  unfold symbolFrom? symbolFrom interfacesFrom
  rw [resolve_eq reorderable perm built again, types]

theorem agree : Program.Agree id first second sources := by
  have resolves : second.resolveName? = first.resolveName? := by
    funext use name scope
    unfold Program.resolveName?
    rw [resolve_eq reorderable perm built again]
  refine ⟨fun _ => rfl, globals_eq reorderable perm built again, ?attributes, ?constants, ?declared,
    ?containing⟩
  case attributes =>
    intro source _ node site
    unfold Program.attributeType?
    rw [resolves, type_eq reorderable perm built again]
  case constants =>
    intro source _ node site
    unfold Program.constant? Program.constantOwners
    rw [resolves, Program.bound_constants built, Program.bound_constants again,
      globals_eq reorderable perm built again]
    simp only [constants_of_key reorderable perm]
  case declared => exact Program.constant_source built
  case containing =>
    intro source _ site
    rw [type_eq reorderable perm built again, Option.map_id]
    rfl

end Programs

end Reorderable

open Publication in
/-- Groups whose keys are apart are rendered each on its own. -/
theorem Publication.fates_apart (render : TypeGroup → Rendering) {qualified : Bool}
    {groups : List TypeGroup} (apart : (groups.map (keyOf qualified)).Nodup) :
    fates render qualified [] groups =
      groups.map fun group => (group, Fate.ofRendering (render group)) := by
  have after (earlier rest : List TypeGroup)
      (apart : ((earlier ++ rest).map (keyOf qualified)).Nodup) :
      fates render qualified earlier rest =
        rest.map fun group => (group, Fate.ofRendering (render group)) := by
    induction rest generalizing earlier with
    | nil => rfl
    | cons group rest induction =>
        have free : holder? render qualified earlier (keyOf qualified group) = none := by
          apply List.find?_eq_none.mpr
          intro before member holds
          rw [Bool.and_eq_true, decide_eq_true_eq] at holds
          rw [List.map_append, List.map_cons] at apart
          have different := (List.nodup_append.mp apart).2.2
          exact different _ (List.mem_map_of_mem member) _ List.mem_cons_self holds.1
        have moved : earlier ++ group :: rest = (earlier ++ [group]) ++ rest := by simp
        rw [fates, fate, free, induction _ (moved ▸ apart), List.map_cons]
  exact after [] groups apart

/-- No two types of the resolved fields of some sources have the same key. -/
def KeysApart (sources : List Source) (options : Options) : Prop :=
  ∀ fields, (findFields sources options).outcome = .ok fields →
    ∀ field ∈ fields, ∀ other ∈ fields, ∀ key,
      fragmentKey field.containing options.qualifiedKeys = .ok key →
      fragmentKey other.containing options.qualifiedKeys = .ok key →
      field.typeName = other.typeName

theorem group_keys_nodup {sources : List Source} {options : Options} (keys : KeysApart sources options)
    {fields : List ResolvedField} (found : (findFields sources options).outcome = .ok fields)
    (readable : ∀ group ∈ typeGroups fields, Publication.Readable options.qualifiedKeys group) :
    ((typeGroups fields).map (Publication.keyOf options.qualifiedKeys)).Nodup := by
  have names := Grouping.type_group_names_nodup fields
  unfold List.Nodup at names ⊢
  rw [List.pairwise_map] at names ⊢
  apply names.imp_of_mem
  intro first second firstListed secondListed different same
  obtain ⟨field, inside, ofFirst⟩ := group_symbol firstListed
  obtain ⟨other, otherInside, ofSecond⟩ := group_symbol secondListed
  apply different
  have firstKey := readable first firstListed
  have secondKey := readable second secondListed
  unfold Publication.Readable at firstKey secondKey
  rw [← same] at secondKey
  rw [← ofFirst] at firstKey ⊢
  rw [← ofSecond] at secondKey ⊢
  exact keys fields found field inside other otherInside _ firstKey secondKey

theorem ResolvedField.retyped_id : ResolvedField.retyped id = id := rfl

namespace Program

theorem fields_from_declared (program : Program) (marker : String) {source : Source}
    (ordered : source.Ordered) {field : ResolvedField}
    (member : field ∈ program.fieldsFrom marker source) : source.Declares field.typeName := by
  obtain ⟨candidate, listed, declarator, below, resolved⟩ := fields_from_candidate member
  exact resolved_owner ordered listed below resolved

end Program

/-- In another order of the sources each type has the same fields in the same order, and the
same is reported about the fields. -/
theorem reordered_fields {sources others : List Source} (reorderable : Reorderable sources)
    (perm : others.Perm sources) {first second : Program}
    (agree : Program.Agree id first second sources) {marker : String}
    {fields : List ResolvedField}
    (resolved : (first.resolveFields marker (sources.flatMap Source.candidates)).outcome =
      .ok fields) :
    ∃ moved, (second.resolveFields marker (others.flatMap Source.candidates)).outcome = .ok moved ∧
      (∀ type, Grouping.fieldsOf moved type = Grouping.fieldsOf fields type) ∧
      (second.resolveFields marker (others.flatMap Source.candidates)).diagnostics.Perm
        (first.resolveFields marker (sources.flatMap Source.candidates)).diagnostics := by
  obtain ⟨each, same⟩ := Program.resolve_fields_iff.mp resolved
  have declarators : (Program.declaratorsOf (others.flatMap Source.candidates)).Perm
      (Program.declaratorsOf (sources.flatMap Source.candidates)) := by
    rw [Program.declarators_of_sources, Program.declarators_of_sources]
    exact perm.flatMap_right _
  have sourceOf {declarator : Source × Site}
      (member : declarator ∈ Program.declaratorsOf (others.flatMap Source.candidates)) :
      declarator.1 ∈ sources := declarator_source (declarators.mem_iff.mp member)
  have movedResolved : (second.resolveFields marker (others.flatMap Source.candidates)).outcome =
      .ok (others.flatMap (first.fieldsFrom marker)) := by
    apply Program.resolve_fields_iff.mpr
    constructor
    · intro declarator member
      apply (agree.resolves_iff marker (sourceOf member)).mpr
      exact each declarator (declarators.mem_iff.mp member)
    · rw [← Program.fields_by_source]
      apply List.filterMap_congr
      intro declarator member
      rw [agree.resolved_of marker (sourceOf member), ResolvedField.retyped_id, Option.map_id]
      rfl
  refine ⟨_, movedResolved, ?_, ?_⟩
  · intro type
    rw [same, Program.fields_by_source]
    unfold Grouping.fieldsOf
    rw [List.filter_flatMap, List.filter_flatMap]
    apply flat_map_reordered perm
    have declares {source : Source} (listed : source ∈ sources)
        (own : ((first.fieldsFrom marker source).filter fun field => field.typeName = type) ≠ []) :
        source.Declares type := by
      obtain ⟨field, member⟩ := List.exists_mem_of_ne_nil _ own
      obtain ⟨inside, sameType⟩ := List.mem_filter.mp member
      rw [← of_decide_eq_true sameType]
      exact first.fields_from_declared marker (reorderable.ordered source listed) inside
    intro source listed other otherListed own ownOther
    exact reorderable.types source listed other otherListed type (declares listed own)
      (declares otherListed ownOther)
  · rw [Program.resolve_fields_reports movedResolved, Program.resolve_fields_reports resolved]
    have reports : (Program.declaratorsOf (others.flatMap Source.candidates)).flatMap
          (second.reportsOn marker) =
        (Program.declaratorsOf (others.flatMap Source.candidates)).flatMap
          (first.reportsOn marker) := by
      apply List.flatMap_congr
      intro declarator member
      exact agree.reports_on marker (sourceOf member)
    rw [reports]
    exact declarators.flatMap_right _

open Publication in
/-- A run over the sources in another order: it returns too, with the same fragments and reports
up to their order. -/
theorem reordered_run {sources others : List Source} {options : Options}
    (reorderable : Reorderable sources) (perm : others.Perm sources) {result : GenerationResult}
    (returned : (generate sources options).outcome = .ok result) :
    ∃ other, (generate others options).outcome = .ok other ∧
      (KeysApart sources options → result.fragments.Perm other.fragments ∧
        result.diagnostics.Perm other.diagnostics) := by
  obtain ⟨program, bound, fields, programBuilt, bind, resolved, readable, fragments, diagnostics⟩ :=
    generate_returns.mp returned
  have ownBound : BoundIn sources options bound := ⟨program, programBuilt, bind⟩
  have found := find_fields_returns.mpr ⟨bound, ownBound, resolved⟩
  obtain ⟨built, markerFound, notificationFound⟩ := bound_in_iff.mp ownBound
  obtain ⟨second, again⟩ : ∃ second,
      Program.build (others ++ [Marker.source]) options.references = .ok second := by
    apply (Program.build_returns _ _).mpr
    intro source listed
    exact (Program.build_returns _ _).mp ⟨_, built⟩ source ((perm.append_right _).mem_iff.mp listed)
  have types := Reorderable.type_eq reorderable perm built again
  have agree := Reorderable.agree reorderable perm built again
  have otherBound : BoundIn others options { bound with program := second } := by
    refine bound_in_iff.mpr ⟨again, ?_, ?_⟩
    · rw [types]
      exact markerFound
    · rw [types]
      exact notificationFound
  obtain ⟨moved, movedResolved, sameFields, reports⟩ :=
    reordered_fields reorderable perm agree resolved
  have groups := Grouping.type_groups_reordered fun type => (sameFields type).symm
  have conflicts := Grouping.conflict_log_reordered fun type => (sameFields type).symm
  have movedReadable : ∀ group ∈ typeGroups moved, Readable options.qualifiedKeys group :=
    fun group member => readable group (groups.mem_iff.mpr member)
  obtain ⟨otherProgram, otherBuilt, otherBind⟩ := otherBound
  refine ⟨⟨_, _⟩, generate_returns.mpr ⟨otherProgram, _, moved, otherBuilt, otherBind,
    movedResolved, movedReadable, rfl, rfl⟩, ?_⟩
  intro keys
  have apart := group_keys_nodup keys found readable
  have movedApart := (groups.map (keyOf options.qualifiedKeys)).nodup_iff.mp apart
  have settled := fates_apart (render bound.notification) apart
  have movedSettled := fates_apart (render bound.notification) movedApart
  have fatesPerm : (settledGroups render options bound fields).Perm
      (settledGroups render options { bound with program := second } moved) := by
    unfold settledGroups
    dsimp only
    rw [settled, movedSettled]
    exact groups.map _
  rw [fragments, diagnostics]
  constructor
  · exact (fatesPerm.filterMap _).cons _
  · exact (reports.symm.append (conflicts.map _)).append (fatesPerm.flatMap_right _)

section Dotted

open Marker (branch leaf token fieldLeaf fieldBranch)

/-- A class with one constant, whatever stands in the place of its name. -/
def constantClass (name : String) : Source :=
  let stop := 20 + name.length
  { path := "A.cs"
    bytes := Text.Utf8.encode ("class A \x7b const int " ++ name ++ " = 1; \x7d")
    root :=
      branch "compilation_unit" 0 (stop + 7) [
        branch "class_declaration" 0 (stop + 7) [
          token "class" 0 5,
          fieldLeaf "identifier" "name" 6 7,
          fieldBranch "declaration_list" "body" 8 (stop + 7) [
            token "\x7b" 8 9,
            branch "field_declaration" 10 (stop + 5) [
              branch "modifier" 10 15 [token "const" 10 15],
              branch "variable_declaration" 16 (stop + 4) [
                fieldLeaf "predefined_type" "type" 16 19,
                branch "variable_declarator" 20 (stop + 4) [
                  fieldLeaf "identifier" "name" 20 stop,
                  token "=" (stop + 1) (stop + 2),
                  leaf "integer_literal" (stop + 3) (stop + 4)]],
              token ";" (stop + 4) (stop + 5)],
            token "\x7d" (stop + 6) (stop + 7)]]] }

def namedByConstant : Source :=
  { path := "B.cs"
    bytes := Text.Utf8.encode ("namespace A \x7b class B \x7b const string c = \"y\"; "
      ++ "[AutoNotify.NotifiableProperty(PropertyName = c)] int _f; \x7d \x7d")
    root :=
      branch "compilation_unit" 0 107 [
        branch "namespace_declaration" 0 107 [
          token "namespace" 0 9,
          fieldLeaf "identifier" "name" 10 11,
          fieldBranch "declaration_list" "body" 12 107 [
            token "\x7b" 12 13,
            branch "class_declaration" 14 105 [
              token "class" 14 19,
              fieldLeaf "identifier" "name" 20 21,
              fieldBranch "declaration_list" "body" 22 105 [
                token "\x7b" 22 23,
                branch "field_declaration" 24 45 [
                  branch "modifier" 24 29 [token "const" 24 29],
                  branch "variable_declaration" 30 44 [
                    fieldLeaf "predefined_type" "type" 30 36,
                    branch "variable_declarator" 37 44 [
                      fieldLeaf "identifier" "name" 37 38,
                      token "=" 39 40,
                      leaf "string_literal" 41 44]],
                  token ";" 44 45],
                branch "field_declaration" 46 103 [
                  branch "attribute_list" 46 95 [
                    token "[" 46 47,
                    branch "attribute" 47 94 [
                      fieldBranch "qualified_name" "name" 47 76 [
                        fieldLeaf "identifier" "qualifier" 47 57,
                        token "." 57 58,
                        fieldLeaf "identifier" "name" 58 76],
                      branch "attribute_argument_list" 76 94 [
                        token "(" 76 77,
                        branch "attribute_argument" 77 93 [
                          fieldLeaf "identifier" "name" 77 89,
                          token "=" 90 91,
                          leaf "identifier" 92 93],
                        token ")" 93 94]],
                    token "]" 94 95],
                  branch "variable_declaration" 96 102 [
                    fieldLeaf "predefined_type" "type" 96 99,
                    branch "variable_declarator" 100 102 [
                      fieldLeaf "identifier" "name" 100 102]],
                  token ";" 102 103],
                token "\x7d" 104 105]],
            token "\x7d" 106 107]]] }

/-- With one declarator there is one type at most, so no two types have one key. -/
theorem keys_apart_of_one {sources : List Source} {options : Options}
    (one : (Program.declaratorsOf (sources.flatMap Source.candidates)).length ≤ 1) :
    KeysApart sources options := by
  intro fields found
  obtain ⟨bound, -, resolved⟩ := find_fields_returns.mp found
  obtain ⟨-, same⟩ := Program.resolve_fields_iff.mp resolved
  have few : fields.length ≤ 1 := by
    rw [same]
    exact (List.length_filterMap_le _ _).trans one
  intro field inside other otherInside key _ _
  obtain ⟨only, rfl⟩ := List.length_eq_one_iff.mp
    (Nat.le_antisymm few (List.length_pos_of_mem inside))
  rw [List.mem_singleton.mp inside, List.mem_singleton.mp otherInside]

theorem types_apart {first second : Source}
    (apart : ∀ name ∈ first.typeNames, name ∉ second.typeNames) :
    ∀ source ∈ [first, second], ∀ other ∈ [first, second], ∀ name, source.Declares name →
      other.Declares name → source = other := by
  intro source listed other otherListed name declares alsoDeclares
  rw [← mem_type_names] at declares alsoDeclares
  simp only [List.mem_cons, List.not_mem_nil, or_false] at listed otherListed
  rcases listed with rfl | rfl
  · rcases otherListed with rfl | rfl
    · rfl
    · exact absurd alsoDeclares (apart name declares)
  · rcases otherListed with rfl | rfl
    · exact absurd declares (apart name alsoDeclares)
    · rfl

theorem no_globals {sources : List Source} (none : globalUsings sources = []) :
    ∀ source ∈ sources, ∀ other ∈ sources, globalUsings [source] ≠ [] →
      globalUsings [other] ≠ [] → source = other := by
  intro source listed other otherListed own
  apply absurd _ own
  unfold globalUsings at none ⊢
  rw [List.flatMap_singleton]
  exact List.flatMap_eq_nil_iff.mp none source listed

/-- The order of the sources matters for nothing but the order of the results. -/
theorem reordering_keeps_result {sources others : List Source} {options : Options}
    (reorderable : Reorderable sources) (keys : KeysApart sources options)
    (perm : others.Perm sources) :
    ((∃ result, (generate sources options).outcome = .ok result) ↔
        ∃ other, (generate others options).outcome = .ok other) ∧
      ∀ result other, (generate sources options).outcome = .ok result →
        (generate others options).outcome = .ok other →
        result.fragments.Perm other.fragments ∧ result.diagnostics.Perm other.diagnostics := by
  constructor
  · constructor
    · intro given
      rcases given with ⟨result, returned⟩
      obtain ⟨other, otherReturned, -⟩ := reordered_run reorderable perm returned
      exact ⟨other, otherReturned⟩
    · intro given
      rcases given with ⟨other, otherReturned⟩
      obtain ⟨result, returned, -⟩ :=
        reordered_run (reorderable.reordered perm) perm.symm otherReturned
      exact ⟨result, returned⟩
  · intro result other returned otherReturned
    obtain ⟨moved, movedReturned, same⟩ := reordered_run reorderable perm returned
    rw [Except.ok.inj (otherReturned.symm.trans movedReturned)]
    exact same keys

/-- A class with a constant and another one with a marked field. -/
theorem reordering_keeps_result_named_by_constant :
    Reorderable [constantClass "d", namedByConstant] ∧
      KeysApart [constantClass "d", namedByConstant] Options.standard ∧
      ((∃ result, (generate [constantClass "d", namedByConstant] Options.standard).outcome =
          .ok result) ↔
        ∃ other, (generate [namedByConstant, constantClass "d"] Options.standard).outcome =
          .ok other) ∧
      ∀ result other,
        (generate [constantClass "d", namedByConstant] Options.standard).outcome = .ok result →
        (generate [namedByConstant, constantClass "d"] Options.standard).outcome = .ok other →
        result.fragments.Perm other.fragments ∧ result.diagnostics.Perm other.diagnostics := by
  have reorderable : Reorderable [constantClass "d", namedByConstant] := by
    refine ⟨?ordered, types_apart (by decide +kernel), no_globals (by decide +kernel),
      by decide +kernel⟩
    case ordered =>
      intro source listed
      rcases List.mem_cons.mp listed with rfl | rest
      · decide +kernel
      · rw [List.mem_singleton.mp rest]
        decide +kernel
  have keys : KeysApart [constantClass "d", namedByConstant] Options.standard :=
    keys_apart_of_one (by decide +kernel)
  exact ⟨reorderable, keys,
    reordering_keeps_result reorderable keys (List.Perm.swap _ _ [])⟩

theorem knows_dotted :
    Knows [constantClass "B.c", namedByConstant] (runNames ["A", "A.B"] ["A"]) ∧
      Knows [namedByConstant, constantClass "B.c"] (runNames ["A.B", "A"] ["A"]) := by
  constructor
  · exact knows_declared [("A", ""), ("A.B", "A")] ["A"] (by decide +kernel) (by decide +kernel)
      (by decide +kernel) (by decide +kernel)
  · exact knows_declared [("A.B", "A"), ("A", "")] ["A"] (by decide +kernel) (by decide +kernel)
      (by decide +kernel) (by decide +kernel)

theorem dotted_fragment_counts :
    (resultKnowing? (runNames ["A", "A.B"] ["A"]) [constantClass "B.c", namedByConstant]).map
        (·.fragments.length) = some 1 ∧
      (resultKnowing? (runNames ["A.B", "A"] ["A"]) [namedByConstant, constantClass "B.c"]).map
        (·.fragments.length) = some 2 := by
  refine ⟨?first, ?second⟩
  case first => decide +kernel
  case second => decide +kernel

/-- A constant that is named like a member of another type is found in its place, or not, as the
sources are ordered. -/
theorem reordering_changes_result :
    (∀ source ∈ [constantClass "B.c", namedByConstant], source.Ordered) ∧
      (∀ first ∈ [constantClass "B.c", namedByConstant],
        ∀ second ∈ [constantClass "B.c", namedByConstant], ∀ name, first.Declares name →
          second.Declares name → first = second) ∧
      globalUsings [constantClass "B.c", namedByConstant] = [] ∧
      KeysApart [constantClass "B.c", namedByConstant] Options.standard ∧
      [namedByConstant, constantClass "B.c"].Perm [constantClass "B.c", namedByConstant] ∧
      ∃ result other,
        (generate [constantClass "B.c", namedByConstant] Options.standard).outcome = .ok result ∧
        (generate [namedByConstant, constantClass "B.c"] Options.standard).outcome = .ok other ∧
        ¬ result.fragments.Perm other.fragments := by
  refine ⟨?ordered, types_apart (by decide +kernel), by decide +kernel,
    keys_apart_of_one (by decide +kernel), List.Perm.swap _ _ [], ?runs⟩
  case ordered =>
    intro source listed
    rcases List.mem_cons.mp listed with rfl | rest
    · decide +kernel
    · rw [List.mem_singleton.mp rest]
      decide +kernel
  case runs =>
    obtain ⟨one, two⟩ := dotted_fragment_counts
    obtain ⟨result, found, few⟩ := Option.map_eq_some_iff.mp one
    obtain ⟨other, otherFound, many⟩ := Option.map_eq_some_iff.mp two
    refine ⟨result, other, (generates_knowing knows_dotted.1).mpr found,
      (generates_knowing knows_dotted.2).mpr otherFound, fun perm => ?_⟩
    have same := perm.length_eq
    rw [few, many] at same
    cases same

end Dotted

end PropertyGen
