import PropertyGen.Proofs.Evaluation
import PropertyGen.Proofs.Listings
import PropertyGen.Proofs.Strangers

/-!
Runs over one source more. If it has nothing to do with the others, its fragments come behind
theirs, and what is reported about them is reported still.
-/

namespace PropertyGen

theorem Options.standard_references (options : Options) :
    ∀ name ∈ References.standard.keys, name ∈ options.references.keys := by
  intro name known
  unfold Options.references
  split
  · exact known
  · exact Table.mem_keys_merge known _

section Runs

variable {sources : List Source} {tree : Source} {options : Options}

/-- The fields of the stranger are in none of the types that the fields of the others are in. -/
theorem Stranger.fields_apart {references : References}
    (stranger : Stranger sources references tree) {first : Program}
    (built : Program.build (sources ++ [Marker.source]) references = .ok first) (second : Program)
    (marker : String) :
    ∀ field ∈ second.fieldsFrom marker tree,
      field.typeName ∉ (sources.flatMap (first.fieldsFrom marker)).map ResolvedField.typeName := by
  intro field member shared
  obtain ⟨candidate, listed, declarator, below, resolved⟩ := Program.fields_from_candidate member
  obtain ⟨inside, isField, around, -⟩ := Program.resolved_around listed below resolved
  apply stranger.declared_foreign (stranger.fields _ inside isField _ around)
  obtain ⟨other, otherMember, same⟩ := List.mem_map.mp shared
  obtain ⟨source, sourceListed, own⟩ := List.mem_flatMap.mp otherMember
  obtain ⟨candidate, listed, declarator, below, resolved⟩ := Program.fields_from_candidate own
  obtain ⟨-, -, around, -⟩ := Program.resolved_around listed below resolved
  rw [← same]
  exact (familiar_scope built sourceListed candidate.site).enclosing _ (List.mem_of_head? around)

/-- Without the last source the same fields are resolved up to it, with the same reports. -/
theorem Program.Agree.resolve_without_last {first second : Program}
    (agree : Program.Agree id first second sources) {marker : String} {fields : List ResolvedField}
    (resolved : (second.resolveFields marker
      ((sources ++ [tree]).flatMap Source.candidates)).outcome = .ok fields) :
    (first.resolveFields marker (sources.flatMap Source.candidates)).outcome =
        .ok (sources.flatMap (first.fieldsFrom marker)) ∧
      fields = sources.flatMap (first.fieldsFrom marker) ++ second.fieldsFrom marker tree ∧
      (first.resolveFields marker (sources.flatMap Source.candidates)).diagnostics <+:
        (second.resolveFields marker
          ((sources ++ [tree]).flatMap Source.candidates)).diagnostics := by
  obtain ⟨each, same⟩ := Program.resolve_fields_iff.mp resolved
  have parts : Program.declaratorsOf ((sources ++ [tree]).flatMap Source.candidates) =
      Program.declaratorsOf (sources.flatMap Source.candidates) ++
        Program.declaratorsOf tree.candidates := by
    unfold Program.declaratorsOf
    rw [List.flatMap_append, List.flatMap_append, List.flatMap_singleton]
  have own : (first.resolveFields marker (sources.flatMap Source.candidates)).outcome =
      .ok (sources.flatMap (first.fieldsFrom marker)) := by
    apply Program.resolve_fields_iff.mpr
    refine ⟨fun declarator member => ?_, (first.fields_by_source marker sources).symm⟩
    apply (agree.resolves_iff marker (declarator_source member)).mp
    apply each
    rw [parts]
    exact List.mem_append_left _ member
  refine ⟨own, ?_, ?_⟩
  · rw [same, Program.fields_by_source, List.flatMap_append, List.flatMap_singleton]
    congr 1
    apply List.flatMap_congr
    intro source listed
    rw [agree.fields_from marker listed, show ResolvedField.retyped id = id from rfl, List.map_id]
  · rw [Program.resolve_fields_reports own, Program.resolve_fields_reports resolved, parts,
      List.flatMap_append]
    have reports : (Program.declaratorsOf (sources.flatMap Source.candidates)).flatMap
          (second.reportsOn marker) =
        (Program.declaratorsOf (sources.flatMap Source.candidates)).flatMap
          (first.reportsOn marker) := by
      apply List.flatMap_congr
      intro declarator member
      exact agree.reports_on marker (declarator_source member)
    rw [reports]
    exact List.prefix_append _ _

open Publication in
/-- A source that has nothing to do with the others adds its fragments behind theirs and leaves
what is reported about them. -/
theorem stranger_adds_behind {result : GenerationResult}
    (stranger : Stranger sources options.references tree)
    (returned : (generate (sources ++ [tree]) options).outcome = .ok result) :
    ∃ smaller, (generate sources options).outcome = .ok smaller ∧
      smaller.fragments <+: result.fragments ∧
      smaller.diagnostics.Sublist result.diagnostics := by
  obtain ⟨program, bound, fields, programBuilt, bind, resolved, readable, fragments, diagnostics⟩ :=
    generate_returns.mp returned
  obtain ⟨again, markerFound, notificationFound⟩ :=
    bound_in_iff.mp (show BoundIn (sources ++ [tree]) options bound from
      ⟨program, programBuilt, bind⟩)
  obtain ⟨first, built⟩ : ∃ first,
      Program.build (sources ++ [Marker.source]) options.references = .ok first := by
    apply (Program.build_returns _ _).mpr
    intro source listed
    apply (Program.build_returns _ _).mp ⟨_, again⟩ source
    rcases List.mem_append.mp listed with own | isMarker
    · exact List.mem_append_left _ (List.mem_append_left _ own)
    · exact List.mem_append_right _ isMarker
  have standard := options.standard_references
  have agree := stranger.agree standard built again
  have markerNative : Native sources options.references Marker.metadataName :=
    (native_member Marker.name).mpr native_marker
  have notificationNative : Native sources options.references notificationName :=
    (Familiar.reference (standard _ (by decide))).native
  obtain ⟨otherProgram, otherBuilt, otherBind⟩ :
      BoundIn sources options { bound with program := first } := by
    refine bound_in_iff.mpr ⟨built, ?_, ?_⟩
    · rw [← stranger.type_eq standard built again markerNative]
      exact markerFound
    · rw [← stranger.type_eq standard built again notificationNative]
      exact notificationFound
  obtain ⟨own, same, reports⟩ := agree.resolve_without_last resolved
  have groups := Grouping.type_groups_append
    (stranger.fields_apart built bound.program bound.marker.metadataName)
  have ownReadable : ∀ group ∈ typeGroups (sources.flatMap
      (first.fieldsFrom bound.marker.metadataName)), Readable options.qualifiedKeys group := by
    intro group member
    apply readable
    rw [same, groups]
    exact List.mem_append_left _ member
  have settled : settledGroups render options bound fields =
      settledGroups render options { bound with program := first }
          (sources.flatMap (first.fieldsFrom bound.marker.metadataName)) ++
        fates (render bound.notification) options.qualifiedKeys
          ([] ++ typeGroups (sources.flatMap (first.fieldsFrom bound.marker.metadataName)))
          (typeGroups (bound.program.fieldsFrom bound.marker.metadataName tree)) := by
    rw [same]
    unfold settledGroups
    rw [groups, fates_append]
  refine ⟨⟨_, _⟩, generate_returns.mpr ⟨otherProgram, _, _, otherBuilt, otherBind, own, ownReadable,
    rfl, rfl⟩, ?_, ?_⟩
  · rw [fragments, settled]
    unfold fragmentsOf
    rw [List.filterMap_append]
    exact List.cons_prefix_cons.mpr ⟨rfl, List.prefix_append _ _⟩
  · rw [diagnostics, settled, same, Grouping.conflict_log_append, List.map_append,
      List.flatMap_append (f := fun settled : TypeGroup × Fate =>
        settled.2.reports options.qualifiedKeys settled.1)]
    exact (reports.sublist.append (List.sublist_append_left _ _)).append
      (List.sublist_append_left _ _)

end Runs

section Named

open Marker (branch leaf token fieldLeaf fieldBranch)

/-- A class with three marked fields: one that has its name from itself, and two with the names of
constants, the first of which is written with a blank in it. -/
def namedApart : Source :=
  { path := "X.cs"
    bytes := Text.Utf8.encode ("class X \x7b [AutoNotify.NotifiableProperty] int _a; "
      ++ "[AutoNotify.NotifiableProperty(PropertyName = A B.T.c)] int _b; "
      ++ "[AutoNotify.NotifiableProperty(PropertyName = c)] int _d; \x7d")
    root :=
      branch "compilation_unit" 0 173 [
        branch "class_declaration" 0 173 [
          token "class" 0 5,
          fieldLeaf "identifier" "name" 6 7,
          fieldBranch "declaration_list" "body" 8 173 [
            token "\x7b" 8 9,
            branch "field_declaration" 10 49 [
              branch "attribute_list" 10 41 [
                token "[" 10 11,
                branch "attribute" 11 40 [
                  fieldBranch "qualified_name" "name" 11 40 [
                    fieldLeaf "identifier" "qualifier" 11 21,
                    token "." 21 22,
                    fieldLeaf "identifier" "name" 22 40]],
                token "]" 40 41],
              branch "variable_declaration" 42 48 [
                fieldLeaf "predefined_type" "type" 42 45,
                branch "variable_declarator" 46 48 [fieldLeaf "identifier" "name" 46 48]],
              token ";" 48 49],
            branch "field_declaration" 50 113 [
              branch "attribute_list" 50 105 [
                token "[" 50 51,
                branch "attribute" 51 104 [
                  fieldBranch "qualified_name" "name" 51 80 [
                    fieldLeaf "identifier" "qualifier" 51 61,
                    token "." 61 62,
                    fieldLeaf "identifier" "name" 62 80],
                  branch "attribute_argument_list" 80 104 [
                    token "(" 80 81,
                    branch "attribute_argument" 81 103 [
                      fieldLeaf "identifier" "name" 81 93,
                      token "=" 94 95,
                      branch "member_access_expression" 96 103 [
                        branch "member_access_expression" 96 101 [
                          leaf "identifier" 96 97,
                          branch "ERROR" 98 99 [leaf "identifier" 98 99],
                          token "." 99 100,
                          leaf "identifier" 100 101],
                        token "." 101 102,
                        leaf "identifier" 102 103]],
                    token ")" 103 104]],
                token "]" 104 105],
              branch "variable_declaration" 106 112 [
                fieldLeaf "predefined_type" "type" 106 109,
                branch "variable_declarator" 110 112 [fieldLeaf "identifier" "name" 110 112]],
              token ";" 112 113],
            branch "field_declaration" 114 171 [
              branch "attribute_list" 114 163 [
                token "[" 114 115,
                branch "attribute" 115 162 [
                  fieldBranch "qualified_name" "name" 115 144 [
                    fieldLeaf "identifier" "qualifier" 115 125,
                    token "." 125 126,
                    fieldLeaf "identifier" "name" 126 144],
                  branch "attribute_argument_list" 144 162 [
                    token "(" 144 145,
                    branch "attribute_argument" 145 161 [
                      fieldLeaf "identifier" "name" 145 157,
                      token "=" 158 159,
                      leaf "identifier" 160 161],
                    token ")" 161 162]],
                token "]" 162 163],
              branch "variable_declaration" 164 170 [
                fieldLeaf "predefined_type" "type" 164 167,
                branch "variable_declarator" 168 170 [fieldLeaf "identifier" "name" 168 170]],
              token ";" 170 171],
            token "\x7d" 172 173]]] }

def constantIn (space : String) : Source :=
  { path := "T.cs"
    bytes := Text.Utf8.encode
      ("namespace " ++ space ++ " \x7b class T \x7b const string c = \"y\"; \x7d \x7d")
    root :=
      branch "compilation_unit" 0 50 [
        branch "namespace_declaration" 0 50 [
          token "namespace" 0 9,
          fieldLeaf "identifier" "name" 10 12,
          fieldBranch "declaration_list" "body" 13 50 [
            token "\x7b" 13 14,
            branch "class_declaration" 15 48 [
              token "class" 15 20,
              fieldLeaf "identifier" "name" 21 22,
              fieldBranch "declaration_list" "body" 23 48 [
                token "\x7b" 23 24,
                branch "field_declaration" 25 46 [
                  branch "modifier" 25 30 [token "const" 25 30],
                  branch "variable_declaration" 31 45 [
                    fieldLeaf "predefined_type" "type" 31 37,
                    branch "variable_declarator" 38 45 [
                      fieldLeaf "identifier" "name" 38 39,
                      token "=" 40 41,
                      leaf "string_literal" 42 45]],
                  token ";" 45 46],
                token "\x7d" 47 48]],
            token "\x7d" 49 50]]] }

/-- A class with a constant behind a file-scoped namespace, where the tree has the declaration of
the constant begin before the end of the namespace. -/
def misplacedConstant : Source :=
  { path := "Z.cs"
    bytes := Text.Utf8.encode "namespace Z; class X \x7b const string c = \"y\"; \x7d"
    root :=
      branch "compilation_unit" 0 46 [
        branch "file_scoped_namespace_declaration" 0 12 [
          token "namespace" 0 9,
          fieldLeaf "identifier" "name" 10 11,
          token ";" 11 12],
        branch "class_declaration" 13 46 [
          token "class" 13 18,
          fieldLeaf "identifier" "name" 19 20,
          fieldBranch "declaration_list" "body" 21 46 [
            token "\x7b" 21 22,
            branch "field_declaration" 0 44 [
              branch "modifier" 23 28 [token "const" 23 28],
              branch "variable_declaration" 29 43 [
                fieldLeaf "predefined_type" "type" 29 35,
                branch "variable_declarator" 36 43 [
                  fieldLeaf "identifier" "name" 36 37,
                  token "=" 38 39,
                  leaf "string_literal" 40 43]],
              token ";" 43 44],
            token "\x7d" 45 46]]] }

def besides : List (List Source × List (String × String)) :=
  [([], []), ([constantIn "CD"], [("CD.T", "CD")]), ([constantIn "AB"], [("AB.T", "AB")]),
    ([misplacedConstant], [("Z.X", "Z")])]

def namesBeside (declared : List (String × String)) : KnownNames :=
  runNames ("X" :: declared.map (·.1)) (declared.map (·.2))

theorem knows_beside : ∀ beside ∈ besides,
    Knows ([namedApart] ++ beside.1) (namesBeside beside.2) := by
  have each : ∀ beside ∈ besides,
      (([namedApart] ++ beside.1).flatMap fun source => TypeDeclaration.all source
          (globalUsings ([namedApart] ++ beside.1 ++ [Marker.source]))).map
          (fun declaration => (declaration.metadataName, declaration.scope.space)) =
        ("X", "") :: beside.2 := by
    decide +kernel
  have flat : ∀ beside ∈ besides, ∀ entry ∈ ("X", "") :: beside.2,
      Names.nesting entry.1 = 0 := by
    decide +kernel
  have apart : ∀ beside ∈ besides,
      distinct (namesBeside beside.2).types = (namesBeside beside.2).types := by
    decide +kernel
  have around : ∀ beside ∈ besides,
      distinct (("" :: beside.2.map (·.2) ++ [Marker.space] ++
        (("X" :: beside.2.map (·.1) ++ [Marker.metadataName]).map Names.spaceOf ++
          standardSpaces)).flatMap Names.spacesAround) = (namesBeside beside.2).spaces := by
    decide +kernel
  intro beside listed
  exact knows_declared (("X", "") :: beside.2) _ (flat beside listed) (each beside listed)
    (apart beside listed) (around beside listed)

/-- What the fragments are made from that the class gets beside such sources: the notification
interface, and of each group whether it is at the top level and on lines, with their number. -/
def linesBeside (beside : List Source × List (String × String)) :
    Option (TypeSymbol × List (Bool × Bool × Nat)) :=
  (fieldsKnowing? (namesBeside beside.2) ([namedApart] ++ beside.1)).map fun found =>
    (found.1.notification, (typeGroups found.2).map fun group =>
      (group.containing.isTopLevel, decide group.OnLines,
        (Layout.linesOf 0 (Render.layout group found.1.notification)).length))

theorem lines_counted :
    linesBeside ([], []) = some (changeNotification, [(true, true, 15)]) ∧
      linesBeside ([constantIn "CD"], [("CD.T", "CD")]) =
        some (changeNotification, [(true, true, 15)]) ∧
      linesBeside ([constantIn "AB"], [("AB.T", "AB")]) =
        some (changeNotification, [(true, true, 25)]) ∧
      linesBeside ([misplacedConstant], [("Z.X", "Z")]) =
        some (changeNotification, [(true, true, 25)]) := by
  refine ⟨?alone, ?foreign, ?blank, ?misplaced⟩
  case alone => decide +kernel
  case foreign => decide +kernel
  case blank => decide +kernel
  case misplaced => decide +kernel

theorem generates_beside {beside : List Source × List (String × String)} {count : Nat}
    (listed : beside ∈ besides)
    (counted : linesBeside beside = some (changeNotification, [(true, true, count)])) :
    ∃ result group, (generate ([namedApart] ++ beside.1) Options.standard).outcome = .ok result ∧
      result.fragments = [(Marker.key, Points.ofText Marker.text),
        (Publication.keyOf false group, Layout.text (Render.layout group changeNotification))] ∧
      group.OnLines ∧
      (Layout.linesOf 0 (Render.layout group changeNotification)).length = count := by
  obtain ⟨⟨bound, fields⟩, found, seen⟩ := Option.map_eq_some_iff.mp counted
  obtain ⟨notification, groups⟩ := Prod.mk.inj seen
  obtain ⟨group, sole, own⟩ := List.map_eq_singleton_iff.mp groups
  simp only [Prod.mk.injEq, decide_eq_true_eq] at own
  obtain ⟨topLevel, onLines, lines⟩ := own
  obtain ⟨-, result, returned, fragments⟩ :=
    sole_fragment (knows_beside beside listed) found sole topLevel
  rw [notification] at fragments lines
  exact ⟨result, group, returned, fragments, onLines, lines⟩

theorem fragment_grows {beside : List Source × List (String × String)} (listed : beside ∈ besides)
    (counted : linesBeside beside = some (changeNotification, [(true, true, 25)])) :
    ∃ smaller result, (generate [namedApart] Options.standard).outcome = .ok smaller ∧
      (generate ([namedApart] ++ beside.1) Options.standard).outcome = .ok result ∧
      ¬ smaller.fragments <+: result.fragments := by
  obtain ⟨smaller, group, first, small, onLines, few⟩ :=
    generates_beside List.mem_cons_self lines_counted.1
  obtain ⟨result, other, second, large, otherOnLines, many⟩ := generates_beside listed counted
  refine ⟨smaller, result, first, second, fun begins => ?_⟩
  rw [small, large] at begins
  have texts := congrArg (List.map (·.2)) (begins.eq_of_length rfl)
  simp only [List.map_cons, List.map_nil, List.cons.injEq, and_true, true_and] at texts
  exact onLines.text_ne otherOnLines (by decide +kernel) (by omega) texts

/-- A constant class in a namespace that the class and the references do not mention. -/
theorem stranger_adds_behind_constant :
    Stranger [namedApart] Options.standard.references (constantIn "CD") ∧
      ∃ result, (generate ([namedApart] ++ [constantIn "CD"]) Options.standard).outcome =
        .ok result ∧
      ∃ smaller, (generate [namedApart] Options.standard).outcome = .ok smaller ∧
        smaller.fragments <+: result.fragments ∧
        smaller.diagnostics.Sublist result.diagnostics := by
  have strange : Strange [namedApart] Options.standard.references "CD" :=
    ⟨by decide, by decide, by decide, by decide, by decide, by decide +kernel, by decide +kernel,
      by decide⟩
  have stranger : Stranger [namedApart] Options.standard.references (constantIn "CD") := by
    refine ⟨by decide +kernel, ?types, ?fields⟩
    case types =>
      have roots : ∀ site ∈ (constantIn "CD").sites, site.node.isTypeDeclaration = true →
          Names.root (Surroundings.ofSite (constantIn "CD") site).space = "CD" := by
        decide +kernel
      intro site inside isType
      rw [roots site inside isType]
      exact strange
    case fields =>
      have names : ∀ site ∈ (constantIn "CD").sites, site.node.kind = "field_declaration" →
          ((constantIn "CD").scope [] site).enclosing.head?.all fun type =>
            (constantIn "CD").typeNames.contains type := by
        decide +kernel
      intro site inside isField type around
      have own := names site inside isField
      rw [show ((constantIn "CD").scope [] site).enclosing.head? = some type from around,
        Option.all_some, List.contains_iff_mem] at own
      exact mem_type_names.mp own
  obtain ⟨result, -, returned, -⟩ := generates_beside (by simp [besides]) lines_counted.2.1
  exact ⟨stranger, result, returned, stranger_adds_behind stranger returned⟩

/-- The types of a source lie in namespaces below one that the texts of some sources, as they are
written, and some references do not mention. -/
structure Unmentioned (sources : List Source) (references : References) (space : String)
    (tree : Source) : Prop where
  globals : globalUsings [tree] = []
  types : ∀ site ∈ tree.sites, site.node.isTypeDeclaration = true →
    Names.root (Surroundings.ofSite tree site).space = space
  unwritten : ∀ source ∈ sources,
    ¬ space.toList <:+: (Text.Utf8.decode source.bytes).toList
  unreferenced : ∀ reference ∈ references.keys, ¬ space.toList <:+: reference.toList
  unmarked : space ≠ Marker.space

theorem apart_unmentioned {space : String} {tree : Source}
    (listed : (space, tree) ∈ [("AB", constantIn "AB"), ("Z", misplacedConstant)]) :
    Unmentioned [namedApart] Options.standard.references space tree := by
  have facts : ∀ added ∈ [("AB", constantIn "AB"), ("Z", misplacedConstant)],
      globalUsings [added.2] = [] ∧
      (∀ site ∈ added.2.sites, site.node.isTypeDeclaration = true →
        Names.root (Surroundings.ofSite added.2 site).space = added.1) ∧
      (∀ source ∈ [namedApart],
        ¬ added.1.toList <:+: (Text.Utf8.decode source.bytes).toList) ∧
      (∀ reference ∈ Options.standard.references.keys,
        ¬ added.1.toList <:+: reference.toList) ∧
      added.1 ≠ Marker.space := by
    decide +kernel
  obtain ⟨globals, types, unwritten, unreferenced, unmarked⟩ := facts _ listed
  exact ⟨globals, types, unwritten, unreferenced, unmarked⟩

/-- Two sources in namespaces that the class does not mention, and yet the class is read otherwise:
the constant of the one has the name without its blank, and that of the other is not in its
namespace. -/
theorem addition_changes_fragments :
    (Unmentioned [namedApart] Options.standard.references "AB" (constantIn "AB") ∧
      ∃ smaller result, (generate [namedApart] Options.standard).outcome = .ok smaller ∧
        (generate ([namedApart] ++ [constantIn "AB"]) Options.standard).outcome = .ok result ∧
        ¬ smaller.fragments <+: result.fragments) ∧
    (Unmentioned [namedApart] Options.standard.references "Z" misplacedConstant ∧
      ∃ smaller result, (generate [namedApart] Options.standard).outcome = .ok smaller ∧
        (generate ([namedApart] ++ [misplacedConstant]) Options.standard).outcome = .ok result ∧
        ¬ smaller.fragments <+: result.fragments) := by
  refine ⟨⟨apart_unmentioned (by simp), ?blank⟩, ⟨apart_unmentioned (by simp), ?misplaced⟩⟩
  case blank =>
    have grown := fragment_grows (by simp [besides]) lines_counted.2.2.1
    exact grown
  case misplaced =>
    have grown := fragment_grows (by simp [besides]) lines_counted.2.2.2
    exact grown

end Named

end PropertyGen
