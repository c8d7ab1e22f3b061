import PropertyGen.Proofs.FragmentTrees
import PropertyGen.Proofs.Ownership
import PropertyGen.Proofs.Strangeness

/-!
A source beside others that have nothing to do with it. What it declares lies under segments that
the others never name, so all their names bind as they do without it.
-/

namespace PropertyGen

namespace Names

def Under (segment name : String) : Prop := ∃ back, name.toList = segment.toList ++ '.' :: back

variable {segment : String}

theorem Under.root {name : String} (under : Under segment name) (dotless : '.' ∉ segment.toList) :
    Names.root name = segment := by
  obtain ⟨back, characters⟩ := under
  rw [root_of_dot characters, String.ofList_toList, root_of_dotless dotless]

theorem Under.nest {outer : String} (under : Under segment outer) (name : String) :
    Under segment (Names.nest outer name) := by
  obtain ⟨back, characters⟩ := under
  refine ⟨back ++ '+' :: name.toList, ?_⟩
  rw [to_list_nest, characters, List.append_assoc]
  rfl

theorem under_qualify {space : String} (named : Names.root space ≠ "") (name : String) :
    Under (Names.root space) (qualify space name) := by
  have isNamed : space ≠ "" := by
    intro isGlobal
    rw [isGlobal] at named
    exact named rfl
  have whole : (Names.root space).toList ++ space.toList.dropWhile (· ≠ '.') = space.toList := by
    rw [to_list_root]
    exact List.takeWhile_append_dropWhile
  have characters := to_list_qualify space name
  rw [if_neg isNamed, ← whole] at characters
  cases rest : space.toList.dropWhile (· ≠ '.') with
  | nil =>
      rw [rest, List.append_nil] at characters
      exact ⟨name.toList, characters⟩
  | cons mark more =>
      have isDot := List.head?_dropWhile_not (fun character : Char => decide (character ≠ '.'))
        space.toList
      rw [rest] at characters isDot
      have same : mark = '.' := by simpa using isDot
      rw [same, List.append_assoc] at characters
      exact ⟨_, characters⟩

theorem Under.root_space {name : String} (under : Under segment name)
    (dotless : '.' ∉ segment.toList) (plusless : '+' ∉ segment.toList) :
    Names.root (spaceOf name) = segment := by
  obtain ⟨back, characters⟩ := under
  have outermost : Text.beforeFirst '+' name.toList =
      segment.toList ++ '.' :: Text.beforeFirst '+' back := by
    rw [characters]
    unfold Text.beforeFirst
    rw [List.takeWhile_append_of_pos]
    · rfl
    · intro character member
      apply decide_eq_true
      intro same
      exact plusless (same ▸ member)
  unfold spaceOf
  rw [outermost]
  generalize Text.beforeFirst '+' back = rest
  by_cases dotted : '.' ∈ rest
  · have cut : Text.beforeLast '.' (segment.toList ++ '.' :: rest) =
        segment.toList ++ '.' :: Text.beforeLast '.' rest := by
      rw [List.append_cons, Text.before_last_append _ dotted, List.append_assoc]
      rfl
    rw [cut, root_of_dot String.toList_ofList, String.ofList_toList, root_of_dotless dotless]
  · rw [before_last_dot _ dotted, String.ofList_toList, root_of_dotless dotless]

end Names

theorem Surroundings.nested_names_under {space : String} (named : Names.root space ≠ "")
    (types : List String) : ∀ name ∈ nestedNames space types, Names.Under (Names.root space) name := by
  have inner (types : List String) (outer : String) (under : Names.Under (Names.root space) outer) :
      ∀ name ∈ nestedNames.nestFrom outer types, Names.Under (Names.root space) name := by
    induction types generalizing outer with
    | nil =>
        intro name member
        cases member
    | cons segment rest induction =>
        intro name member
        rcases List.mem_cons.mp member with rfl | later
        · exact under.nest segment
        · exact induction _ (under.nest segment) name later
  cases types with
  | nil =>
      intro name member
      cases member
  | cons outermost rest =>
      have first := Names.under_qualify named outermost
      intro name member
      rcases List.mem_cons.mp member with rfl | later
      · exact first
      · exact inner rest _ first name later

theorem declaration_under {source : Source} {site : Site}
    (named : Names.root (Surroundings.ofSite source site).space ≠ "") (globals : List Using) :
    Names.Under (Names.root (Surroundings.ofSite source site).space)
      (TypeDeclaration.ofSite source globals site).metadataName := by
  have space : (source.scope globals site).space = (Surroundings.ofSite source site).space :=
    Surroundings.space_eq _ _
  unfold TypeDeclaration.ofSite
  dsimp only
  cases around : (source.scope globals site).enclosing.head?.filter (· ≠ "") with
  | none =>
      rw [space]
      exact Names.under_qualify named _
  | some outer =>
      have first := (Option.filter_eq_some_iff.mp around).1
      have inside := List.mem_of_head? first
      exact (Surroundings.nested_names_under named _ outer (List.mem_reverse.mp inside)).nest _

/-- A source without global directives whose types lie in namespaces with strange first segments,
and whose fields lie in these types if they lie in any. -/
structure Stranger (sources : List Source) (references : References) (tree : Source) : Prop where
  globals : globalUsings [tree] = []
  types : ∀ site ∈ tree.sites, site.node.isTypeDeclaration = true →
    Strange sources references (Names.root (Surroundings.ofSite tree site).space)
  fields : ∀ site ∈ tree.sites, site.node.kind = "field_declaration" →
    ∀ type ∈ (tree.scope [] site).enclosing.head?, tree.Declares type

namespace Stranger

variable {sources : List Source} {references : References} {tree : Source}
  (stranger : Stranger sources references tree)
include stranger

theorem declared_under {name : String} (declares : tree.Declares name) :
    ∃ segment, Strange sources references segment ∧ Names.Under segment name := by
  obtain ⟨site, inside, isType, rfl⟩ := declares
  have strange := stranger.types site inside isType
  exact ⟨_, strange, declaration_under strange.named []⟩

theorem declared_foreign {name : String} (declares : tree.Declares name) :
    ¬ Native sources references name := by
  obtain ⟨segment, strange, under⟩ := stranger.declared_under declares
  intro native
  apply native
  rw [under.root strange.dotless]
  exact strange

theorem parts_native {name : String} (native : Native sources references name)
    (globals : List Using) : partsIn globals [tree] name = [] := by
  by_contra nonempty
  exact stranger.declared_foreign ((parts_iff_declares globals).mp nonempty) native

/-- The constants of a stranger have keys of their own. -/
theorem constant_foreign {globals : List Using} {constant : ConstantDeclaration}
    (member : constant ∈ ConstantDeclaration.inSource globals tree) :
    ¬ Native sources references constant.key := by
  obtain ⟨-, field, inside, isConstant, -, -, name, -, type, around, key⟩ :=
    ConstantDeclaration.in_source_site member
  unfold ConstantDeclaration.isConstant at isConstant
  rw [Bool.and_eq_true, decide_eq_true_eq] at isConstant
  have declares := stranger.fields field inside isConstant.1 type around
  rw [key, native_member]
  exact stranger.declared_foreign declares

end Stranger

theorem marker_surroundings : ∀ site ∈ Marker.source.sites, site.node.isTypeDeclaration = true →
    (Surroundings.ofSite Marker.source site).types = [] ∧
      (Surroundings.ofSite Marker.source site).space = Marker.space ∧
      (Surroundings.ofSite Marker.source site).spaces.map (·.1) = [Marker.space] ∧
      (Surroundings.ofSite Marker.source site).spaces.flatMap (·.2) = [] ∧
      (Surroundings.ofSite Marker.source site).unitUsings.map (·.target) = ["System"] ∧
      TypeDeclaration.basesOf Marker.source site.node = ["Attribute"] := by
  decide +kernel

section Marker

variable {sources : List Source} {references : References}
  (standard : ∀ name ∈ References.standard.keys, name ∈ references.keys)
include standard

theorem familiar_in_standard {name : String}
    (inside : name.toList <:+: "System.Attribute".toList) :
    Familiar sources references name.toList := by
  have known : "System.Attribute" ∈ references.keys := standard _ (by decide)
  exact (Familiar.reference known).within inside

theorem marker_familiar {site : Site} (inside : site ∈ Marker.source.sites)
    (isType : site.node.isTypeDeclaration = true) :
    (Surroundings.ofSite Marker.source site).Familiar sources references := by
  obtain ⟨types, -, spaces, usings, unitUsings, -⟩ := marker_surroundings site inside isType
  refine ⟨?_, ?_, ?_⟩
  · rw [types]
    intro segment member
    cases member
  · intro block member
    have named := List.mem_map_of_mem (f := (·.1)) member
    rw [spaces, List.mem_singleton] at named
    refine ⟨?_, fun directive used => ?_⟩
    · rw [named]
      exact native_marker
    · have own := List.mem_flatMap_of_mem member used
      rw [usings] at own
      cases own
  · intro directive member
    have target := List.mem_map_of_mem (f := (·.target)) member
    rw [unitUsings, List.mem_singleton] at target
    rw [target]
    apply familiar_in_standard standard
    decide

end Marker

structure TypeDeclaration.Familiar (sources : List Source) (references : References)
    (part : TypeDeclaration) : Prop where
  metadataName : Native sources references part.metadataName
  containing : ∀ outer ∈ part.containing?, Native sources references outer
  scope : part.scope.Familiar sources references
  bases : ∀ base ∈ part.bases,
    PropertyGen.Familiar sources references (Text.compactChars base.toList)

theorem familiar_declaration {sources : List Source} {references : References} {source : Source}
    {globals : List Using} {site : Site}
    (targets : ∀ directive ∈ globals, Familiar sources references directive.target.toList)
    (surroundings : (Surroundings.ofSite source site).Familiar sources references)
    (segment : (Surroundings.ofSite source site).space = "" →
      Native sources references (source.typeSegment site.node))
    (bases : ∀ base ∈ TypeDeclaration.basesOf source site.node,
      Familiar sources references (Text.compactChars base.toList)) :
    (TypeDeclaration.ofSite source globals site).Familiar sources references := by
  have scope := surroundings.scope targets
  have space : (source.scope globals site).space = (Surroundings.ofSite source site).space :=
    Surroundings.space_eq _ _
  have containing : ∀ outer ∈ (TypeDeclaration.ofSite source globals site).containing?,
      Native sources references outer := by
    intro outer member
    have around := (Option.filter_eq_some_iff.mp member).1
    exact scope.enclosing outer (List.mem_of_head? around)
  refine ⟨?_, containing, scope, bases⟩
  unfold TypeDeclaration.ofSite at containing ⊢
  dsimp only at containing ⊢
  cases around : (source.scope globals site).enclosing.head?.filter (· ≠ "") with
  | none =>
      rw [space]
      exact native_qualify surroundings.native_space segment
  | some outer => exact native_nest (containing outer around) _

section Programs

variable {sources : List Source} {references : References} {first : Program}
  (standard : ∀ name ∈ References.standard.keys, name ∈ references.keys)
  (built : Program.build (sources ++ [Marker.source]) references = .ok first)

theorem marker_globals : globalUsings [Marker.source] = [] := by decide +kernel

include built in
theorem familiar_globals : ∀ directive ∈ first.globals,
    Familiar sources references directive.target.toList := by
  intro directive member
  rw [(Program.build_eq built).2.2.1, globalUsings, List.flatMap_append,
    show ([Marker.source].flatMap fun source => _) = [] from marker_globals, List.append_nil] at member
  obtain ⟨source, listed, own⟩ := List.mem_flatMap.mp member
  exact Familiar.directives listed source.root directive (List.mem_filter.mp own).1

include built in
theorem familiar_scope {source : Source} (listed : source ∈ sources) (site : Site) :
    (first.scope source site).Familiar sources references :=
  (Surroundings.familiar_of_site listed site).scope (familiar_globals built)

include standard built in
theorem familiar_part {name : String} {part : TypeDeclaration}
    (member : part ∈ partsIn first.globals (sources ++ [Marker.source]) name) :
    part.Familiar sources references := by
  obtain ⟨-, source, listed, site, inside, isType, rfl⟩ := mem_parts_in.mp member
  rcases List.mem_append.mp listed with own | isMarker
  · apply familiar_declaration (familiar_globals built) (Surroundings.familiar_of_site own site)
      fun _ => native_type_segment own site.node
    intro base given
    unfold TypeDeclaration.basesOf at given
    split at given
    · cases given
    · obtain ⟨node, -, rfl⟩ := List.mem_map.mp given
      exact Familiar.compact own node
  · rw [List.mem_singleton.mp isMarker] at inside ⊢
    apply familiar_declaration (familiar_globals built) (marker_familiar standard inside isType)
    · intro isGlobal
      obtain ⟨-, space, -⟩ := marker_surroundings site inside isType
      rw [space] at isGlobal
      exact absurd isGlobal (by decide)
    · intro base given
      obtain ⟨-, -, -, -, -, bases⟩ := marker_surroundings site inside isType
      rw [bases, List.mem_singleton] at given
      rw [given]
      have whole : Text.compactChars "Attribute".toList = "Attribute".toList := by decide
      rw [whole]
      apply familiar_in_standard standard
      decide

include standard built in
/-- The types that the program knows are native. -/
theorem native_of_known {name : String} (known : name ∈ first.known.types) :
    Native sources references name := by
  rcases (Program.mem_known_types built name).mp known with declared | referred
  · obtain ⟨part, member⟩ := List.exists_mem_of_ne_nil _ declared
    have own := (familiar_part standard built member).metadataName
    rw [(mem_parts_in.mp member).1] at own
    exact own
  · exact (Familiar.reference referred).native

end Programs

namespace Stranger

variable {sources : List Source} {references : References} {tree : Source}
  {first second : Program} (stranger : Stranger sources references tree)
  (standard : ∀ name ∈ References.standard.keys, name ∈ references.keys)
  (built : Program.build (sources ++ [Marker.source]) references = .ok first)
  (again : Program.build (sources ++ [tree] ++ [Marker.source]) references = .ok second)

include stranger built again in
theorem globals_eq : second.globals = first.globals := by
  have none := stranger.globals
  rw [(Program.build_eq built).2.2.1, (Program.build_eq again).2.2.1]
  unfold globalUsings at none ⊢
  rw [List.flatMap_append, List.flatMap_append, List.flatMap_append, none, List.append_nil]

include stranger built again in
theorem parts_eq {name : String} (native : Native sources references name) :
    partsIn second.globals (sources ++ [tree] ++ [Marker.source]) name =
      partsIn first.globals (sources ++ [Marker.source]) name := by
  rw [stranger.globals_eq built again, parts_in_append, parts_in_append, parts_in_append,
    stranger.parts_native native, List.append_nil]

include stranger built again in
theorem mem_types (name : String) :
    name ∈ second.known.types ↔ name ∈ first.known.types ∨ tree.Declares name := by
  rw [Program.mem_known_types built, Program.mem_known_types again,
    stranger.globals_eq built again, parts_in_append, parts_in_append, parts_in_append,
    ← parts_iff_declares first.globals]
  simp only [ne_eq, List.append_eq_nil_iff, not_and_or]
  simp only [or_assoc, or_comm, or_left_comm]

include stranger built again in
theorem types_eq {name : String} (native : Native sources references name) :
    second.known.types.contains name = first.known.types.contains name := by
  rw [Bool.eq_iff_iff, List.contains_iff_mem, List.contains_iff_mem,
    stranger.mem_types built again]
  constructor
  · intro known
    rcases known with known | declares
    · exact known
    · exact absurd native (stranger.declared_foreign declares)
  · exact .inl

include stranger built again in
theorem spaces_eq {space : String} (native : Native sources references space) :
    second.known.spaces.contains space = first.known.spaces.contains space := by
  rw [Bool.eq_iff_iff, List.contains_iff_mem, List.contains_iff_mem,
    Program.mem_known_spaces built, Program.mem_known_spaces again]
  constructor
  · intro known
    rcases known with ⟨source, listed, site, inside, isType, around⟩ | ⟨type, known, around⟩
    · rcases List.mem_append.mp listed with own | isMarker
      · rcases List.mem_append.mp own with own | isTree
        · exact .inl ⟨source, List.mem_append_left _ own, site, inside, isType, around⟩
        · rw [List.mem_singleton.mp isTree] at inside around
          apply absurd (stranger.types site inside isType)
          rw [← Names.root_space_around around]
          exact native
      · exact .inl ⟨source, List.mem_append_right _ isMarker, site, inside, isType, around⟩
    · rcases (stranger.mem_types built again type).mp known with known | declares
      · exact .inr ⟨type, known, around⟩
      · obtain ⟨segment, strange, under⟩ := stranger.declared_under declares
        apply absurd strange
        rw [← under.root_space strange.dotless strange.plusless, ← Names.root_space_around around]
        exact native
  · intro known
    rcases known with ⟨source, listed, site, inside, isType, around⟩ | ⟨type, known, around⟩
    · refine .inl ⟨source, ?_, site, inside, isType, around⟩
      rcases List.mem_append.mp listed with own | isMarker
      · exact List.mem_append_left _ (List.mem_append_left _ own)
      · exact List.mem_append_right _ isMarker
    · exact .inr ⟨type, (stranger.mem_types built again type).mpr (.inl known), around⟩

include stranger built again in
theorem agree_on : KnownNames.AgreeOn (Native sources references) first.known second.known where
  types _ native := stranger.types_eq built again native
  spaces _ native := stranger.spaces_eq built again native
  nested _ name native := native_nest native name
  qualified _ _ named native := native_qualify native fun isGlobal => absurd isGlobal named

include stranger standard built again

theorem plain {segment : String} (strange : Strange sources references segment) :
    first.known.types.contains segment = false ∧ second.known.types.contains segment = false := by
  have unknown : segment ∉ first.known.types := by
    intro known
    apply native_of_known standard built known
    rw [Names.root_of_dotless strange.dotless]
    exact strange
  have undeclared : ¬ tree.Declares segment := by
    intro declares
    obtain ⟨outer, -, back, characters⟩ := stranger.declared_under declares
    apply strange.dotless
    rw [characters]
    exact List.mem_append_right _ List.mem_cons_self
  rw [← Bool.not_eq_true, ← Bool.not_eq_true, List.contains_iff_mem, List.contains_iff_mem,
    stranger.mem_types built again]
  exact ⟨unknown, fun known => known.elim unknown undeclared⟩

theorem resolve_eq {scope : Scope} (familiar : scope.Familiar sources references) {name : String}
    (said : Familiar sources references (Text.compactChars name.toList)) (use : NameUse) :
    second.known.resolve? use name scope = first.known.resolve? use name scope := by
  apply KnownNames.resolve_eq (stranger.agree_on built again) familiar.native
  exact clear_requests familiar said (fun _ => stranger.plain standard built again) use

theorem interfaces_eq {parts : List TypeDeclaration}
    (familiar : ∀ part ∈ parts, part.Familiar sources references) :
    interfacesFrom second.known (fun name => kindFrom? references
        (partsIn second.globals (sources ++ [tree] ++ [Marker.source]) name) name) parts =
      interfacesFrom first.known (fun name => kindFrom? references
        (partsIn first.globals (sources ++ [Marker.source]) name) name) parts := by
  have bases : (parts.flatMap fun part => part.bases.filterMap fun base =>
        second.known.resolve? .type base part.scope) =
      parts.flatMap fun part => part.bases.filterMap fun base =>
        first.known.resolve? .type base part.scope := by
    apply List.flatMap_congr
    intro part member
    apply List.filterMap_congr
    intro base listed
    obtain ⟨-, -, scope, own⟩ := familiar part member
    exact stranger.resolve_eq standard built again scope (own base listed) .type
  unfold interfacesFrom
  rw [bases]
  apply congrArg distinct
  apply List.filter_congr
  intro type member
  obtain ⟨part, -, bound⟩ := List.mem_flatMap.mp member
  obtain ⟨base, -, resolved⟩ := List.mem_filterMap.mp bound
  have known := List.contains_iff_mem.mp (KnownNames.resolve_known resolved)
  apply decide_eq_decide.mpr
  dsimp only
  rw [stranger.parts_eq built again (native_of_known standard built known)]

theorem type_eq {name : String} (native : Native sources references name) :
    second.type? name = first.type? name := by
  rw [Program.type_eq built, Program.type_eq again]
  unfold symbolFrom?
  rw [stranger.parts_eq built again native]
  cases parts : partsIn first.globals (sources ++ [Marker.source]) name with
  | nil => rfl
  | cons part more =>
      have own : ∀ other ∈ part :: more, other.Familiar sources references := by
        intro other member
        rw [← parts] at member
        exact familiar_part standard built member
      have containing : part.containing?.filter second.known.types.contains =
          part.containing?.filter first.known.types.contains := by
        cases around : part.containing? with
        | none => rfl
        | some outer =>
            have native := (own part List.mem_cons_self).containing outer around
            rw [Option.filter_some, Option.filter_some, stranger.types_eq built again native]
      dsimp only
      unfold symbolFrom
      rw [stranger.interfaces_eq standard built again own, containing]

omit standard in
theorem find_constant {owner : String} (native : Native sources references owner) (name : String) :
    (second.constants.find? fun constant => constant.key = Names.member owner name) =
      first.constants.find? fun constant => constant.key = Names.member owner name := by
  have absent : ((ConstantDeclaration.inSource first.globals tree).find? fun constant =>
      constant.key = Names.member owner name) = none := by
    apply List.find?_eq_none.mpr
    intro constant member same
    apply stranger.constant_foreign member
    rw [of_decide_eq_true same, native_member]
    exact native
  rw [Program.bound_constants built, Program.bound_constants again, stranger.globals_eq built again,
    List.flatMap_append, List.flatMap_singleton, List.find?_append, absent, Option.or_none]

theorem constant_owners_eq {scope : Scope} (familiar : scope.Familiar sources references)
    {name : String} (said : Familiar sources references (Text.compactChars name.toList)) :
    second.constantOwners name scope = first.constantOwners name scope ∧
      ∀ owner ∈ (first.constantOwners name scope).1, Native sources references owner := by
  have compact : (Text.compact name).toList = Text.compactChars name.toList := by
    unfold Text.compact
    rw [String.toList_ofList]
  have front := (Text.before_last_begins '.' (Text.compactChars name.toList)).isInfix
  have owner : Familiar sources references (Text.compactChars (String.ofList
      (Text.beforeLast '.' (Text.compactChars name.toList))).toList) := by
    rw [String.toList_ofList, Text.compact_inside front]
    exact said.within front
  have same := stranger.resolve_eq standard built again familiar owner .type
  unfold Program.constantOwners Program.resolveName?
  dsimp only
  rw [compact, same]
  refine ⟨rfl, ?_⟩
  generalize String.ofList (Text.beforeLast '.' (Text.compactChars name.toList)) = written
  by_cases isPlain : written = ""
  · rw [if_pos isPlain]
    exact familiar.enclosing
  · rw [if_neg isPlain]
    intro type member
    dsimp only at member
    have resolved := (Option.filter_eq_some_iff.mp (Option.mem_toList.mp member)).1
    have known := List.contains_iff_mem.mp (KnownNames.resolve_known resolved)
    exact native_of_known standard built known

theorem constant_eq {scope : Scope} (familiar : scope.Familiar sources references) {name : String}
    (said : Familiar sources references (Text.compactChars name.toList)) :
    second.constant? name scope = first.constant? name scope := by
  obtain ⟨owners, natives⟩ := stranger.constant_owners_eq standard built again familiar said
  unfold Program.constant?
  rw [owners]
  clear owners
  generalize first.constantOwners name scope = found at natives ⊢
  obtain ⟨types, member⟩ := found
  dsimp only at natives ⊢
  induction types with
  | nil => rfl
  | cons type rest induction =>
      obtain ⟨own, others⟩ := List.forall_mem_cons.mp natives
      rw [List.findSome?_cons, List.findSome?_cons, stranger.find_constant built again own,
        induction others]

/-- The sources are read alike with the stranger and without it. -/
theorem agree : Program.Agree id first second sources := by
  have sameType {name : String} {use : NameUse} {scope : Scope} {type : String}
      (resolved : first.known.resolve? use name scope = some type) :
      second.type? type = first.type? type := by
    have known := List.contains_iff_mem.mp (KnownNames.resolve_known resolved)
    exact stranger.type_eq standard built again (native_of_known standard built known)
  refine ⟨fun _ => rfl, stranger.globals_eq built again, ?attributes, ?constants,
    Program.constant_source built, ?containing⟩
  case attributes =>
    intro source listed node site
    unfold Program.attributeType? Program.resolveName?
    rw [stranger.resolve_eq standard built again (familiar_scope built listed site)
      (Familiar.compact listed node)]
    cases resolved : first.known.resolve? .attribute (source.compactText node)
        (first.scope source site) with
    | none => rfl
    | some type =>
        have same := sameType resolved
        rw [Option.filter_some]
        split
        · rw [Option.filter_some, Option.filter_some, same]
        · rfl
  case constants =>
    intro source listed node site
    exact stranger.constant_eq standard built again (familiar_scope built listed site)
      (Familiar.compact listed node)
  case containing =>
    intro source listed site
    rw [Option.map_id]
    cases around : (first.scope source site).enclosing.head? with
    | none => rfl
    | some type =>
        have native := (familiar_scope built listed site).enclosing type (List.mem_of_head? around)
        exact stranger.type_eq standard built again native

end Stranger

end PropertyGen
