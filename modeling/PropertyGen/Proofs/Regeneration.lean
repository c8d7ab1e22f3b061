import PropertyGen.Proofs.Evaluation
import PropertyGen.Proofs.FragmentTrees
import PropertyGen.Proofs.Inspection

/-!
Generating again over sources that already hold the fragments. The base list of a fragment names
the notification interface, so a type whose fragment is read back asks for it and its fragment is
published without the event; apart from that the same fragments are published.
-/

namespace PropertyGen

/-- The base list of a fragment leads to the notification interface. -/
def Program.BindsBase (program : Program) : Prop :=
  program.known.absolute? (Names.segments notificationName) = some notificationName ∧
    (program.type? notificationName).map (·.kind) = some "interface"

def TypeGroup.implementing (group : TypeGroup) (interface : String) : TypeGroup :=
  { group with
    containing := { group.containing with
      interfaces := group.containing.interfaces ++ [interface] } }

namespace Bound

def published (bound : Bound) (options : Options) (fields : List ResolvedField) :
    List TypeGroup :=
  Publication.published (render bound.notification) options.qualifiedKeys [] (typeGroups fields)

def fragment (bound : Bound) (options : Options) (group : TypeGroup) : String × Points :=
  (Publication.keyOf options.qualifiedKeys group,
    Layout.text (Render.layout group bound.notification))

end Bound

/-- The fragment that a group gets where some trees are among the sources: the one it had before,
or the one of a type that asks for the interface if such a tree makes it ask. -/
structure Regenerated (bound : Bound) (options : Options) (trees : List Source) (group : TypeGroup)
    (fragment : String × Points) : Prop where
  key : fragment.1 = (bound.fragment options group).1
  kept : ¬ (bound.program.BindsBase ∧ ∃ tree ∈ trees, FragmentTree group.containing tree) →
    fragment = bound.fragment options group
  eventless : bound.program.BindsBase → ∀ tree ∈ trees, FragmentTree group.containing tree →
    fragment.2 = Layout.text (Render.layout (group.implementing notificationName)
      bound.notification)

namespace Render

theorem layout_congr {group other : TypeGroup} {notification otherNotification : TypeSymbol}
    (members : other.members = group.members) (usings : other.usings = group.usings)
    (heads : group.containing.SameHead other.containing)
    (names : otherNotification.metadataName = notification.metadataName)
    (asks : notification.metadataName ∈ other.containing.interfaces ↔
      notification.metadataName ∈ group.containing.interfaces) :
    layout other otherNotification = layout group notification := by
  have inherited : other.containing.interfaces.contains notification.metadataName =
      group.containing.interfaces.contains notification.metadataName := by
    rw [Bool.eq_iff_iff, List.contains_iff_mem, List.contains_iff_mem, asks]
  unfold layout declaration membersOf TypeSymbol.display
  dsimp only
  rw [members, usings, heads.kind, heads.name, heads.typeParameters, heads.space, names, inherited]

end Render

/-- The base list of a fragment is read from the global namespace, wherever it stands. -/
theorem base_name_resolves (known : KnownNames) (scope : Scope) :
    known.resolve? .type Render.baseName scope =
      known.absolute? (Names.segments notificationName) := by
  have written : WrittenName.ofText Render.baseName =
      .bare (.absolute (Names.segments notificationName)) := by decide +kernel
  rw [KnownNames.resolve_eq_meaning, written]
  rfl

section Published

variable {bound : Bound} {options : Options} {sources : List Source} {fields : List ResolvedField}

theorem published_top_level {group : TypeGroup} (member : group ∈ bound.published options fields) :
    group.containing.containing? = none := by
  have text := Publication.published_has_text member
  unfold render at text
  by_cases topLevel : group.containing.isTopLevel = true
  · exact Option.isNone_iff_eq_none.mp topLevel
  · rw [if_neg topLevel] at text
    cases text

theorem published_fragments (bound : Bound) (options : Options) (fields : List ResolvedField) :
    Publication.fragmentsOf options.qualifiedKeys
        (settledGroups render options bound fields) =
      (bound.published options fields).map (bound.fragment options) := by
  rw [Publication.fragments_of_published, ← List.filterMap_eq_map]
  apply List.filterMap_congr
  intro group member
  have topLevel : group.containing.isTopLevel = true :=
    Option.isNone_iff_eq_none.mpr (published_top_level member)
  unfold render
  rw [if_pos topLevel]
  rfl

theorem group_type {program : Program} {marker : String} {candidates : List Candidate}
    (resolved : (program.resolveFields marker candidates).outcome = .ok fields)
    {group : TypeGroup} (member : group ∈ typeGroups fields) :
    program.type? group.containing.metadataName = some group.containing := by
  obtain ⟨field, inside, same⟩ := group_symbol member
  obtain ⟨declarator, -, settled⟩ := (Program.mem_resolved_fields resolved).mp inside
  obtain ⟨_, _, _, found, _⟩ := Program.resolved_field_scope settled
  obtain ⟨name, -, symbol⟩ := Option.bind_eq_some_iff.mp found
  rw [← same, Program.type_name symbol]
  exact symbol

theorem generated_fragments {result : GenerationResult}
    (returned : (generate sources options).outcome = .ok result) :
    ∃ bound fields, BoundIn sources options bound ∧
      (bound.program.resolveFields bound.marker.metadataName
        (sources.flatMap Source.candidates)).outcome = .ok fields ∧
      result.fragments = (Marker.key, Points.ofText Marker.text) ::
        (bound.published options fields).map (bound.fragment options) := by
  obtain ⟨program, bound, fields, built, bind, resolved, -, fragments, -⟩ :=
    generate_returns.mp returned
  refine ⟨bound, fields, ⟨program, built, bind⟩, resolved, ?_⟩
  rw [fragments, published_fragments]

/-- With plain keys inspection tells what is generated, and the first group is published unless its
type stands in another one. -/
theorem first_group_published (found : (findFields sources options).outcome = .ok fields)
    (plain : options.qualifiedKeys = false) {group : TypeGroup} {more : List TypeGroup}
    (groups : typeGroups fields = group :: more) (topLevel : group.containing.isTopLevel = true) :
    ∃ result bound, (generate sources options).outcome = .ok result ∧
      BoundIn sources options bound ∧ group ∈ bound.published options fields := by
  obtain ⟨bound, own, resolved⟩ := find_fields_returns.mp found
  have readable : ∀ group ∈ typeGroups fields,
      Publication.Readable options.qualifiedKeys group := by
    intro group _
    rw [Publication.readable_iff, plain]
    intro qualified
    cases qualified
  obtain ⟨program, built, bind⟩ := own
  refine ⟨⟨_, _⟩, bound, generate_returns.mpr ⟨program, bound, fields, built, bind, resolved,
    readable, rfl, rfl⟩, ⟨program, built, bind⟩, ?_⟩
  have text : render bound.notification group =
      .text (Layout.text (Render.layout group bound.notification)) := if_pos topLevel
  unfold Bound.published Publication.published
  rw [groups]
  simp [text, Publication.textOf, Publication.holder?]

end Published

section Again

variable {sources trees : List Source} {references : References} {first second : Program}
  {types : List TypeSymbol}

/-- With the trees of some fragments a type asks for the notification interface if it did so
before, or if its own fragment is there and asks for it. -/
theorem asks_again (built : Program.build (sources ++ [Marker.source]) references = .ok first)
    (again : Program.build (sources ++ trees ++ [Marker.source]) references = .ok second)
    (own : ∀ type ∈ types, first.type? type.metadataName = some type ∧ type.containing? = none)
    (emitted : Emitted types trees) {type : TypeSymbol} (listed : type ∈ types) :
    notificationName ∈ (second.again type).interfaces ↔ notificationName ∈ type.interfaces ∨
      (first.BindsBase ∧ ∃ tree ∈ trees, FragmentTree type tree) := by
  have echoes := echoes_of_emitted built own emitted
  have found := (own type listed).1
  have foundAgain : second.type? type.metadataName = some (second.again type) := by
    rw [Program.Echoes.type_again built again echoes, found]
    rfl
  rw [Program.Echoes.mem_interfaces_again built again echoes found foundAgain]
  constructor
  · intro given
    rcases given with old | ⟨isInterface, part, member, base, inBases, bound⟩
    · exact .inl old
    · obtain ⟨tree, inTrees, inTree, isMarker | ⟨other, otherListed, fragment⟩⟩ :=
        emitted_part emitted member
      · -- the marker is a source anyway, and a copy of its tree asks for nothing else
        obtain ⟨-, -, marked, alone, same⟩ := marker_tree_part isMarker inTree
        refine .inl ((Program.mem_interfaces built found).mpr ⟨isInterface, marked, ?_, base, ?_, ?_⟩)
        · rw [parts_in_append, alone]
          exact List.mem_append_right _ (List.mem_singleton_self _)
        · exact same ▸ inBases
        · exact same ▸ bound
      · have facts := fragment_tree_part fragment inTree
        have sameType : other = type := by
          have otherFound := (own other otherListed).1
          rw [← facts.1, found] at otherFound
          exact (Option.some.inj otherFound).symm
        rw [facts.2.1, List.mem_singleton] at inBases
        rw [inBases, base_name_resolves] at bound
        exact .inr ⟨⟨bound, isInterface⟩, tree, inTrees, sameType ▸ fragment⟩
  · intro given
    rcases given with old | ⟨⟨bound, isInterface⟩, tree, inTrees, fragment⟩
    · exact .inl old
    · obtain ⟨site, alone, declares⟩ := fragment.declaration
      have member := List.mem_filter.mp (alone.symm ▸ List.mem_singleton_self site)
      refine .inr ⟨isInterface, TypeDeclaration.ofSite tree first.globals site, ?_,
        Render.baseName, ?_, ?_⟩
      · refine mem_parts_in.mpr ⟨?_, tree, inTrees, site, member.1, member.2, rfl⟩
        rw [← declares.metadataName]
        exact TypeDeclaration.name_of_site _ _ _ _
      · rw [show (TypeDeclaration.ofSite tree first.globals site).bases = _ from declares.bases]
        exact List.mem_singleton_self _
      · rw [base_name_resolves]
        exact bound

theorem build_with_trees (built : Program.build (sources ++ [Marker.source]) references = .ok first)
    (echoes : first.Echoes sources trees) :
    ∃ second, Program.build (sources ++ trees ++ [Marker.source]) references = .ok second := by
  have initialized := (Program.build_returns _ _).mp ⟨first, built⟩
  apply (Program.build_returns _ _).mpr
  intro source member
  rcases List.mem_append.mp member with old | marker
  · rcases List.mem_append.mp old with listed | added
    · exact initialized source (List.mem_append_left _ listed)
    · intro field inside isConstant
      unfold ConstantDeclaration.isConstant at isConstant
      rw [Bool.and_eq_true, decide_eq_true_eq] at isConstant
      exact absurd isConstant.1 (echoes.noFields source added field inside)
  · exact initialized source (List.mem_append_right _ marker)

def Bound.again (bound : Bound) (second : Program) : Bound :=
  { program := second
    marker := second.again bound.marker
    notification := second.again bound.notification }

section Bindings

variable {options : Options} {bound : Bound} (own : BoundIn sources options bound)
  (again : Program.build (sources ++ trees ++ [Marker.source]) options.references = .ok second)
  (echoes : bound.program.Echoes sources trees)

include own again echoes

theorem bound_again : BoundIn (sources ++ trees) options (bound.again second) := by
  obtain ⟨built, markerFound, notificationFound⟩ := bound_in_iff.mp own
  have types := Program.Echoes.type_again built again echoes
  refine bound_in_iff.mpr ⟨again, ?_, ?_⟩
  · rw [show (bound.again second).program = second from rfl, types, markerFound]
    rfl
  · rw [show (bound.again second).program = second from rfl, types, notificationFound]
    rfl

theorem fields_again {fields : List ResolvedField}
    (resolved : (bound.program.resolveFields bound.marker.metadataName
      (sources.flatMap Source.candidates)).outcome = .ok fields) :
    (second.resolveFields (bound.again second).marker.metadataName
        ((sources ++ trees).flatMap Source.candidates)).outcome =
      .ok (fields.map (ResolvedField.retyped second.again)) := by
  have silent : trees.flatMap Source.candidates = [] := by
    apply List.flatMap_eq_nil_iff.mpr
    intro tree listed
    exact no_candidates (echoes.noFields tree listed)
  have sameMarker : (bound.again second).marker.metadataName = bound.marker.metadataName :=
    second.again_name bound.marker
  rw [List.flatMap_append, silent, List.append_nil, sameMarker]
  exact (Program.Echoes.agree (bound_in_iff.mp own).1 again echoes).resolve_fields resolved

theorem heads_again {fields : List ResolvedField}
    (resolved : (bound.program.resolveFields bound.marker.metadataName
      (sources.flatMap Source.candidates)).outcome = .ok fields) :
    ∀ group ∈ typeGroups fields, group.containing.SameHead (second.again group.containing) := by
  obtain ⟨built, -⟩ := bound_in_iff.mp own
  intro group listed
  have rel := Program.Echoes.same_head built again echoes group.containing.metadataName
  rw [Program.Echoes.type_again built again echoes, group_type resolved listed,
    Option.map_some] at rel
  cases rel with
  | some heads => exact heads

end Bindings

end Again

section Retyped

variable {fields : List ResolvedField} {change : TypeSymbol → TypeSymbol}

theorem key_retyped {group : TypeGroup}
    (heads : group.containing.SameHead (change group.containing)) (qualified : Bool) :
    fragmentKey (group.retyped change).containing qualified =
      fragmentKey group.containing qualified := by
  have same : (group.retyped change).containing = change group.containing := rfl
  unfold fragmentKey TypeSymbol.arity
  rw [same, heads.metadataName, heads.name, heads.space]

variable (names : ∀ symbol, (change symbol).metadataName = symbol.metadataName)
  (heads : ∀ group ∈ typeGroups fields, group.containing.SameHead (change group.containing))

include names heads

theorem readable_retyped {qualified : Bool}
    (readable : ∀ group ∈ typeGroups fields, Publication.Readable qualified group) :
    ∀ group ∈ typeGroups (fields.map (ResolvedField.retyped change)),
      Publication.Readable qualified group := by
  rw [Grouping.type_groups_retyped names]
  intro group member
  obtain ⟨old, listed, rfl⟩ := List.mem_map.mp member
  have read := readable old listed
  unfold Publication.Readable Publication.keyOf at read ⊢
  rw [key_retyped (heads old listed)]
  exact read

theorem published_retyped (bound other : Bound) (options : Options) :
    other.published options (fields.map (ResolvedField.retyped change)) =
      (bound.published options fields).map (TypeGroup.retyped change) := by
  unfold Bound.published
  rw [Grouping.type_groups_retyped names,
    show ([] : List TypeGroup) = [].map (TypeGroup.retyped change) from rfl]
  apply Publication.published_map
  · intro group listed
    unfold Publication.keyOf
    rw [key_retyped (heads group listed)]
  · intro group listed
    have topLevel : (group.retyped change).containing.isTopLevel =
        group.containing.isTopLevel := by
      unfold TypeSymbol.isTopLevel
      rw [show (group.retyped change).containing.containing? = _ from
        (heads group listed).containing]
    unfold render
    rw [topLevel]
    split
    · rfl
    · rfl

end Retyped

/-- A group whose type has another symbol of the same head gets the fragment that its interfaces
call for. -/
theorem regenerated {bound other : Bound} {options : Options} {trees : List Source}
    {group : TypeGroup} {change : TypeSymbol → TypeSymbol}
    (notification : bound.notification.metadataName = notificationName)
    (otherNotification : other.notification.metadataName = notificationName)
    (heads : group.containing.SameHead (change group.containing))
    (asks : notificationName ∈ (change group.containing).interfaces ↔
      notificationName ∈ group.containing.interfaces ∨
        (bound.program.BindsBase ∧ ∃ tree ∈ trees, FragmentTree group.containing tree)) :
    Regenerated bound options trees group (other.fragment options (group.retyped change)) := by
  have names : other.notification.metadataName = bound.notification.metadataName := by
    rw [notification, otherNotification]
  have key : Publication.keyOf options.qualifiedKeys (group.retyped change) =
      Publication.keyOf options.qualifiedKeys group := by
    unfold Publication.keyOf
    rw [key_retyped heads]
  refine ⟨key, ?kept, ?eventless⟩
  case kept =>
    intro silent
    have text : Render.layout (group.retyped change) other.notification =
        Render.layout group bound.notification := by
      refine Render.layout_congr ?_ ?_ heads names ?_
      · rfl
      · rfl
      · rw [notification]
        exact asks.trans (or_iff_left silent)
    unfold Bound.fragment
    rw [key, text]
  case eventless =>
    intro binds tree listed fragment
    have text : Render.layout (group.retyped change) other.notification =
        Render.layout (group.implementing notificationName) bound.notification := by
      refine Render.layout_congr ?_ ?_ ⟨heads.metadataName, heads.name, heads.space, heads.kind,
        heads.typeParameters, heads.containing⟩ names ?_
      · rfl
      · rfl
      · rw [notification]
        exact iff_of_true (asks.mpr (.inr ⟨binds, tree, listed, fragment⟩))
          (List.mem_append_right _ (List.mem_singleton_self _))
    show Layout.text _ = Layout.text _
    rw [text]

/-- Generating again over the sources and the trees of some of the fragments, or of all of them,
publishes the same fragments, less the event where the tree of the type asks for the interface. -/
theorem regeneration_keeps_fragments {sources : List Source} {options : Options}
    {result : GenerationResult} (returned : (generate sources options).outcome = .ok result) :
    ∃ bound fields, BoundIn sources options bound ∧
      (findFields sources options).outcome = .ok fields ∧
      result.fragments = (Marker.key, Points.ofText Marker.text) ::
        (bound.published options fields).map (bound.fragment options) ∧
      ∀ trees, Emitted ((bound.published options fields).map (·.containing)) trees →
        ∃ second fragments, (generate (sources ++ trees) options).outcome = .ok second ∧
          second.fragments = (Marker.key, Points.ofText Marker.text) :: fragments ∧
          List.Forall₂ (Regenerated bound options trees) (bound.published options fields)
            fragments := by
  obtain ⟨program, bound, fields, programBuilt, bind, resolved, readable, fragments, -⟩ :=
    generate_returns.mp returned
  have ownBound : BoundIn sources options bound := ⟨program, programBuilt, bind⟩
  refine ⟨bound, fields, ownBound, find_fields_returns.mpr ⟨bound, ownBound, resolved⟩, ?_, ?_⟩
  · rw [fragments, published_fragments]
  intro trees emitted
  obtain ⟨built, -, notificationFound⟩ := bound_in_iff.mp ownBound
  have own : ∀ type ∈ (bound.published options fields).map (·.containing),
      bound.program.type? type.metadataName = some type ∧ type.containing? = none := by
    intro type member
    obtain ⟨group, listed, rfl⟩ := List.mem_map.mp member
    exact ⟨group_type resolved (Publication.published_subset listed), published_top_level listed⟩
  have echoes := echoes_of_emitted built own emitted
  obtain ⟨second, again⟩ := build_with_trees built echoes
  have heads := heads_again ownBound again echoes resolved
  have otherReadable := readable_retyped second.again_name heads readable
  have published := published_retyped second.again_name heads bound (bound.again second) options
  obtain ⟨otherProgram, otherBuilt, otherBind⟩ := bound_again ownBound again echoes
  refine ⟨⟨_, _⟩, ((bound.again second).published options
    (fields.map (ResolvedField.retyped second.again))).map ((bound.again second).fragment options),
    generate_returns.mpr ⟨otherProgram, bound.again second, _, otherBuilt, otherBind,
      fields_again ownBound again echoes resolved, otherReadable, rfl, rfl⟩, ?_, ?_⟩
  · rw [published_fragments]
  · rw [published, List.map_map, List.forall₂_map_right_iff, List.forall₂_same]
    intro group listed
    apply regenerated (Program.type_name notificationFound)
    · exact (second.again_name _).trans (Program.type_name notificationFound)
    · exact heads group (Publication.published_subset listed)
    · exact asks_again built again own emitted (List.mem_map_of_mem listed)

section Marked

open Marker (branch leaf token fieldLeaf fieldBranch)

def markedField : Source :=
  { path := "X.cs"
    bytes := Text.Utf8.encode "class X \x7b [AutoNotify.NotifiableProperty] int _a; \x7d"
    root :=
      branch "compilation_unit" 0 52 [
        branch "class_declaration" 0 52 [
          token "class" 0 5,
          fieldLeaf "identifier" "name" 6 7,
          fieldBranch "declaration_list" "body" 8 52 [
            token "\x7b" 8 9,
            branch "field_declaration" 10 50 [
              branch "attribute_list" 10 41 [
                token "[" 10 11,
                branch "attribute" 11 40 [
                  fieldBranch "qualified_name" "name" 11 40 [
                    fieldLeaf "identifier" "qualifier" 11 21,
                    token "." 21 22,
                    fieldLeaf "identifier" "name" 22 40]],
                token "]" 40 41],
              branch "variable_declaration" 42 48 [
                fieldLeaf "predefined_type" "type" 42 45,
                branch "variable_declarator" 46 48 [fieldLeaf "identifier" "name" 46 48]],
              token ";" 48 49],
            token "\x7d" 50 51]]] }

def markedFragmentText : String :=
  "// <auto-generated/>\n"
    ++ "partial class X : global::System.ComponentModel.INotifyPropertyChanged\n\x7b\n"
    ++ "    public event global::System.ComponentModel.PropertyChangedEventHandler "
    ++ "PropertyChanged;\n\n    public int A\n    \x7b\n        get => this._a;\n"
    ++ "        set\n        \x7b\n            this._a = value;\n"
    ++ "            this.PropertyChanged?.Invoke(this, new "
    ++ "global::System.ComponentModel.PropertyChangedEventArgs(nameof(A)));\n"
    ++ "        \x7d\n    \x7d\n\x7d\n"

def markedFragment : Source :=
  { path := "X_autoNotify.g.cs"
    bytes := Text.Utf8.encode markedFragmentText
    root :=
      branch "compilation_unit" 0 422 [
        leaf "comment" 0 20,
        branch "class_declaration" 21 421 [
          branch "modifier" 21 28 [token "partial" 21 28],
          token "class" 29 34,
          fieldLeaf "identifier" "name" 35 36,
          branch "base_list" 37 91 [token ":" 37 38, leaf "qualified_name" 39 91],
          fieldBranch "declaration_list" "body" 92 421 [
            token "\x7b" 92 93,
            leaf "event_field_declaration" 98 185,
            leaf "property_declaration" 191 419,
            token "\x7d" 420 421]]] }

def markedType : TypeSymbol :=
  { metadataName := "X"
    name := "X"
    space := ""
    kind := "class"
    typeParameters := ""
    containing? := none
    interfaces := []
    locations := [{ path := "X.cs", line := 0, column := 0 }]
    isExternal := false }

theorem marked_fragment_tree : FragmentTree markedType markedFragment := by
  refine ⟨?locals, ?noFields, ?declaration⟩
  case locals =>
    have none : (markedFragment.usingsIn markedFragment.root).isEmpty = true := by decide +kernel
    intro directive member
    rw [List.isEmpty_iff.mp none] at member
    cases member
  case noFields =>
    have others : (markedFragment.sites.all fun site =>
        !decide (site.node.kind = "field_declaration")) = true := by decide +kernel
    intro site inside isField
    have other := List.all_eq_true.mp others site inside
    rw [decide_eq_true isField] at other
    cases other
  case declaration =>
    have one : (markedFragment.sites.filter fun site => site.node.isTypeDeclaration).length = 1 := by
      decide +kernel
    have again : ((markedFragment.sites.filter fun site => site.node.isTypeDeclaration).all
        fun site => decide (DeclaresAgain markedType markedFragment site)) = true := by
      decide +kernel
    obtain ⟨site, alone⟩ := List.length_eq_one_iff.mp one
    rw [alone, List.all_cons, List.all_nil, Bool.and_true, decide_eq_true_eq] at again
    exact ⟨site, alone, again⟩

def markedGroup : TypeGroup :=
  { containing := markedType
    members := [⟨"A", "_a", "int", none⟩]
    usings := [] }

def markedAgain : TypeGroup :=
  { markedGroup with
    containing :=
      { markedType with
        interfaces := [notificationName]
        locations := markedType.locations ++ [{ path := "X_autoNotify.g.cs", line := 1, column := 0 }] } }

theorem marked_field_known : Knows [markedField] (runNames ["X"] []) :=
  knows_sole (by decide +kernel)

theorem marked_fragment_known :
    Knows ([markedField] ++ [Marker.source, markedFragment]) (runNames ["X"] []) := by
  apply knows_listed [("X", ""), (Marker.metadataName, Marker.space), ("X", ""),
    (Marker.metadataName, Marker.space)]
  · decide +kernel
  · decide +kernel
  · decide +kernel

theorem marked_field_groups :
    ((fieldsKnowing? (runNames ["X"] []) [markedField]).map fun found =>
        (found.1.notification, found.2.map (·.containing), typeGroups found.2)) =
      some (changeNotification, [markedType], [markedGroup]) := by
  decide +kernel

theorem marked_fragment_groups :
    ((fieldsKnowing? (runNames ["X"] []) ([markedField] ++ [Marker.source, markedFragment])).map
        fun found => (found.1.notification, typeGroups found.2)) =
      some (changeNotification, [markedAgain]) := by
  decide +kernel

theorem marked_text :
    Layout.text (Render.layout markedGroup changeNotification) = markedFragmentText := by
  have shown : changeNotification.display = "System.ComponentModel.INotifyPropertyChanged" := by
    decide +kernel
  rw [Render.text_of_layout]
  simp only [Render.fragmentLines, Render.spaceOpening, Render.typeDepth, Render.directiveLines,
    Render.typeHeader, Render.spaceClosing, Render.memberLines, Render.propertyLines,
    Render.commentLines, Render.eventLine, Render.eventText, markedGroup, markedType, shown, PropertySpec.shown,
    Layout.ended, Layout.indented_text, List.isEmpty_nil, List.contains_nil, Option.filter_none,
    if_true, Bool.false_eq_true, if_false, List.map_cons, List.map_nil,
    List.intercalate_cons_cons, List.intercalate_singleton, List.cons_append, List.nil_append,
    List.append_nil, List.flatMap_cons, List.flatMap_nil, ← Points.of_text_append]
  exact congrArg Points.ofText (by decide +kernel)

theorem marked_texts_differ :
    Layout.text (Render.layout markedAgain changeNotification) ≠ markedFragmentText := by
  rw [← marked_text]
  apply TypeGroup.OnLines.text_ne
  · decide +kernel
  · decide +kernel
  · decide +kernel
  · decide +kernel

theorem marked_field_runs :
    ((findFields [markedField] Options.standard).outcome.map fun fields =>
        fields.map (·.containing)).toOption = some [markedType] ∧
      ((generate [markedField] Options.standard).outcome.map (·.fragments)).toOption =
        some [(Marker.key, Points.ofText Marker.text), ("X_autoNotify", markedFragmentText)] ∧
      ((generate ([markedField] ++ [Marker.source, markedFragment])
          Options.standard).outcome.map (·.fragments)).toOption ≠
        some [(Marker.key, Points.ofText Marker.text), ("X_autoNotify", markedFragmentText)] := by
  obtain ⟨⟨bound, fields⟩, found, seen⟩ := Option.map_eq_some_iff.mp marked_field_groups
  obtain ⟨⟨again, fieldsAgain⟩, foundAgain, seenAgain⟩ :=
    Option.map_eq_some_iff.mp marked_fragment_groups
  simp only [Prod.mk.injEq] at seen seenAgain
  obtain ⟨notification, types, groups⟩ := seen
  obtain ⟨notificationAgain, groupsAgain⟩ := seenAgain
  obtain ⟨inspected, result, returned, fragments⟩ :=
    sole_fragment marked_field_known found groups rfl
  obtain ⟨-, other, otherReturned, otherFragments⟩ :=
    sole_fragment marked_fragment_known foundAgain groupsAgain rfl
  rw [notification, marked_text] at fragments
  rw [notificationAgain] at otherFragments
  rw [inspected, returned, otherReturned]
  refine ⟨congrArg some types, congrArg some fragments, fun same => ?_⟩
  have texts := congrArg (List.map (·.2)) (otherFragments.symm.trans (Option.some.inj same))
  simp only [List.map_cons, List.map_nil, List.cons.injEq, and_true, true_and] at texts
  exact marked_texts_differ texts

/-- The class and the trees of its two fragments. -/
theorem regeneration_keeps_fragments_marked_field :
    ∃ result bound fields, (generate [markedField] Options.standard).outcome = .ok result ∧
      BoundIn [markedField] Options.standard bound ∧
      Emitted ((bound.published Options.standard fields).map (·.containing))
        [Marker.source, markedFragment] ∧
      ∃ second fragments,
        (generate ([markedField] ++ [Marker.source, markedFragment]) Options.standard).outcome =
          .ok second ∧
        second.fragments = (Marker.key, Points.ofText Marker.text) :: fragments ∧
        List.Forall₂ (Regenerated bound Options.standard [Marker.source, markedFragment])
          (bound.published Options.standard fields) fragments := by
  obtain ⟨types, published, -⟩ := marked_field_runs
  cases returned : (generate [markedField] Options.standard).outcome with
  | error fault =>
      rw [returned] at published
      cases published
  | ok result =>
      obtain ⟨bound, fields, own, found, fragments, regenerate⟩ :=
        regeneration_keeps_fragments returned
      have emitted : Emitted ((bound.published Options.standard fields).map (·.containing))
          [Marker.source, markedFragment] := by
        rw [returned] at published
        rw [found] at types
        have listed : result.fragments = _ := Option.some.inj published
        have ofFields : fields.map (·.containing) = [markedType] := Option.some.inj types
        intro tree member
        rcases List.mem_cons.mp member with marker | fragment
        · exact .inl (marker ▸ ⟨rfl, rfl⟩)
        · rw [List.mem_singleton.mp fragment]
          refine .inr ⟨markedType, ?_, marked_fragment_tree⟩
          cases groups : bound.published Options.standard fields with
          | nil =>
              rw [groups, listed] at fragments
              cases fragments
          | cons group more =>
              have inside : group ∈ bound.published Options.standard fields :=
                groups ▸ List.mem_cons_self
              obtain ⟨field, ofField, same⟩ := group_symbol (Publication.published_subset inside)
              have type : field.containing ∈ fields.map (·.containing) := List.mem_map_of_mem ofField
              rw [ofFields, List.mem_singleton, same] at type
              rw [List.map_cons, type]
              exact List.mem_cons_self
      exact ⟨result, bound, fields, rfl, own, emitted, regenerate _ emitted⟩

/-- With the trees of both of its fragments the class gets a fragment without the event. -/
theorem regeneration_drops_event :
    ((generate [markedField] Options.standard).outcome.map (·.fragments)).toOption =
        some [(Marker.key, Points.ofText Marker.text), ("X_autoNotify", markedFragmentText)] ∧
      markedFragment.bytes = Text.Utf8.encode markedFragmentText ∧
      FragmentTree markedType markedFragment ∧
      ((generate ([markedField] ++ [Marker.source, markedFragment])
          Options.standard).outcome.map (·.fragments)).toOption ≠
        some [(Marker.key, Points.ofText Marker.text), ("X_autoNotify", markedFragmentText)] :=
  ⟨marked_field_runs.2.1, rfl, marked_fragment_tree, marked_field_runs.2.2⟩

end Marked

end PropertyGen
