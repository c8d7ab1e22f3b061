import PropertyGen.Proofs.Declarations
import PropertyGen.Proofs.Interference
import PropertyGen.Proofs.Slices

/-!
Strange names. A segment that stands in none of some sources and in no name of a reference cannot
begin a name that these sources ask for: every such name is native.
-/

namespace PropertyGen

namespace Names

def root (name : String) : String := String.ofList (Text.beforeFirst '.' name.toList)

end Names

/-- A segment that some sources, some references and the marker do not know. -/
structure Strange (sources : List Source) (references : References) (segment : String) : Prop where
  named : segment ≠ ""
  dotless : '.' ∉ segment.toList
  plusless : '+' ∉ segment.toList
  tickless : '`' ∉ segment.toList
  whole : Text.Utf8.replacement ∉ segment.toList
  unwritten : ∀ source ∈ sources,
    ¬ segment.toList <:+: Text.compactChars (Text.Utf8.decodeFrom none source.bytes)
  unreferenced : ∀ reference ∈ references.keys, ¬ segment.toList <:+: reference.toList
  unmarked : segment ≠ Marker.space

/-- A name whose first segment is not strange. -/
def Native (sources : List Source) (references : References) (name : String) : Prop :=
  ¬ Strange sources references (Names.root name)

/-- A text in which no strange segment stands. -/
def Familiar (sources : List Source) (references : References) (text : List Char) : Prop :=
  ∀ segment, Strange sources references segment → ¬ segment.toList <:+: text

namespace Text

theorem before_first_mark (front : List Char) (mark : Char) (back : List Char) :
    beforeFirst mark (front ++ mark :: back) = beforeFirst mark front := by
  unfold beforeFirst
  induction front with
  | nil => simp
  | cons character front induction =>
      by_cases same : character = mark
      · simp [same]
      · have kept : decide (character ≠ mark) = true := decide_eq_true same
        rw [List.cons_append, List.takeWhile_cons, List.takeWhile_cons, kept, induction]

theorem before_first_clean {mark : Char} {text : List Char} (clean : mark ∉ text) :
    beforeFirst mark text = text := by
  apply List.takeWhile_eq_self_iff.mpr
  intro character member
  apply decide_eq_true
  intro same
  exact clean (same ▸ member)

theorem before_last_append (front : List Char) {mark : Char} {back : List Char}
    (inside : mark ∈ back) : beforeLast mark (front ++ back) = front ++ beforeLast mark back := by
  have nonempty : back.reverse.dropWhile (· ≠ mark) ≠ [] := by
    intro none
    have all := List.dropWhile_eq_nil_iff.mp none mark (List.mem_reverse.mpr inside)
    exact of_decide_eq_true all rfl
  unfold beforeLast
  rw [List.reverse_append, List.dropWhile_append]
  cases rest : back.reverse.dropWhile (· ≠ mark) with
  | nil => exact absurd rest nonempty
  | cons first more => simp

theorem before_last_begins (mark : Char) (text : List Char) : beforeLast mark text <+: text := by
  unfold beforeLast
  rw [← List.reverse_suffix, List.reverse_reverse]
  exact (List.drop_suffix _ _).trans (List.dropWhile_suffix _)

theorem before_first_begins (mark : Char) (text : List Char) : beforeFirst mark text <+: text :=
  List.takeWhile_prefix _

theorem dotted_pieces_inside (text : List Char) (depth : Int) :
    ∃ piece more, Names.dottedPieces depth text = piece :: more ∧ piece <+: text ∧
      ∀ other ∈ more, other <:+: text := by
  induction text generalizing depth with
  | nil => exact ⟨[], [], rfl, List.nil_prefix, by simp⟩
  | cons character rest induction =>
      obtain ⟨piece, more, pieces, front, inside⟩ :=
        induction (Names.bracketDepth depth character)
      have later : ∀ other ∈ more, other <:+: character :: rest :=
        fun other member => (inside other member).trans (List.suffix_cons _ _).isInfix
      unfold Names.dottedPieces
      dsimp only
      rw [pieces]
      split
      · refine ⟨[], piece :: more, rfl, List.nil_prefix, ?_⟩
        exact List.forall_mem_cons.mpr
          ⟨front.isInfix.trans (List.suffix_cons _ _).isInfix, later⟩
      · exact ⟨character :: piece, more, rfl, List.cons_prefix_cons.mpr ⟨rfl, front⟩, later⟩

theorem dotted_piece_inside {text piece : List Char} (member : piece ∈ Names.dottedPieces 0 text) :
    piece <:+: text := by
  obtain ⟨first, more, pieces, front, inside⟩ := dotted_pieces_inside text 0
  rw [pieces] at member
  rcases List.mem_cons.mp member with rfl | later
  · exact front.isInfix
  · exact inside piece later

theorem unmarked_inside (piece : List Char) : Names.unmarked piece <:+: piece := by
  unfold Names.unmarked
  refine (List.dropWhile_suffix _).isInfix.trans ?_
  rw [← List.reverse_infix, List.reverse_reverse]
  exact (List.dropWhile_suffix _).isInfix

theorem drop_prefix_suffix {front text rest : List Char}
    (dropped : dropPrefix? front text = some rest) : rest <:+ text := by
  induction front generalizing text with
  | nil =>
      rw [show text = rest from Option.some.inj dropped]
  | cons expected more induction =>
      cases text with
      | nil => cases dropped
      | cons character others =>
          unfold dropPrefix? at dropped
          split at dropped
          · exact (induction dropped).trans (List.suffix_cons _ _)
          · cases dropped

end Text

namespace Names

theorem to_list_root (name : String) : (root name).toList = Text.beforeFirst '.' name.toList :=
  String.toList_ofList

theorem to_list_dotted (front back : String) :
    (front ++ "." ++ back).toList = front.toList ++ '.' :: back.toList := by
  rw [String.toList_append, String.toList_append, List.append_assoc]
  rfl

theorem root_of_dot {front back : List Char} {name : String}
    (same : name.toList = front ++ '.' :: back) : root name = root (String.ofList front) := by
  unfold root
  rw [same, Text.before_first_mark, String.toList_ofList]

theorem root_of_dotless {name : String} (dotless : '.' ∉ name.toList) : root name = name := by
  unfold root
  rw [Text.before_first_clean dotless, String.ofList_toList]

theorem root_qualify {space : String} (named : space ≠ "") (name : String) :
    root (qualify space name) = root space := by
  have characters := to_list_qualify space name
  rw [if_neg named] at characters
  rw [root_of_dot characters, String.ofList_toList]

theorem root_member (type name : String) : root (member type name) = root type := by
  unfold member
  rw [root_of_dot (to_list_dotted type name), String.ofList_toList]

/-- A mark behind a name stays in the first segment if the name has no dot. -/
theorem root_marked (front back : List Char) {mark : Char} (noDot : mark ≠ '.') :
    root (String.ofList (front ++ mark :: back)) = root (String.ofList front) ∨
      mark ∈ (root (String.ofList (front ++ mark :: back))).toList := by
  rw [to_list_root, String.toList_ofList]
  by_cases dotted : '.' ∈ front
  · left
    obtain ⟨before, after, rfl⟩ := List.append_of_mem dotted
    have whole : (String.ofList ((before ++ '.' :: after) ++ mark :: back)).toList =
        before ++ '.' :: (after ++ mark :: back) := by
      rw [String.toList_ofList, List.append_assoc]
      rfl
    rw [root_of_dot whole, root_of_dot String.toList_ofList]
  · right
    unfold Text.beforeFirst
    rw [List.takeWhile_append_of_pos]
    · have kept : decide (mark ≠ '.') = true := decide_eq_true noDot
      rw [List.takeWhile_cons, kept]
      exact List.mem_append_right _ List.mem_cons_self
    · intro character member
      apply decide_eq_true
      intro same
      exact dotted (same ▸ member)

theorem root_space_around {space outer : String} (around : outer ∈ spacesAround space) :
    root outer = root space := by
  have named : space ≠ "" := by
    intro isGlobal
    rw [isGlobal, spaces_around_global] at around
    cases around
  unfold spacesAround dottedPrefixes at around
  obtain ⟨index, -, same⟩ := List.mem_map.mp around
  have whole := intercalate_space_segments named
  cases segments : spaceSegments space with
  | nil => exact absurd segments (space_segments_ne_nil named)
  | cons first more =>
      have begins (others : List String) :
          root (".".intercalate (first :: others)) = root first := by
        cases others with
        | nil => rw [String.intercalate_singleton]
        | cons next rest =>
            rw [String.intercalate_cons_cons]
            rw [root_of_dot (to_list_dotted _ _), String.ofList_toList]
      rw [segments] at same whole
      rw [← same, ← whole, List.take_succ_cons, begins, begins]

end Names

section Native

variable {sources : List Source} {references : References}

theorem native_empty : Native sources references "" := fun strange => strange.named rfl

theorem native_marker : Native sources references Marker.space := by
  intro strange
  apply strange.unmarked
  decide

theorem native_qualify {space name : String} (outer : Native sources references space)
    (inner : space = "" → Native sources references name) :
    Native sources references (Names.qualify space name) := by
  by_cases isGlobal : space = ""
  · rw [show Names.qualify space name = name from if_pos isGlobal]
    exact inner isGlobal
  · unfold Native
    rw [Names.root_qualify isGlobal]
    exact outer

theorem native_member {type : String} (name : String) :
    Native sources references (Names.member type name) ↔ Native sources references type := by
  unfold Native
  rw [Names.root_member]

theorem native_marked {front : List Char} (native : Native sources references (String.ofList front))
    {mark : Char} (noDot : mark ≠ '.')
    (absent : ∀ segment, Strange sources references segment → mark ∉ segment.toList)
    (back : List Char) : Native sources references (String.ofList (front ++ mark :: back)) := by
  intro strange
  rcases Names.root_marked front back noDot with same | inside
  · rw [same] at strange
    exact native strange
  · exact absent _ strange inside

theorem native_nest {outer : String} (native : Native sources references outer) (name : String) :
    Native sources references (Names.nest outer name) := by
  rw [← String.ofList_toList (s := Names.nest outer name), Names.to_list_nest]
  apply native_marked _ (by decide) fun _ strange => strange.plusless
  rw [String.ofList_toList]
  exact native

theorem native_around {space outer : String} (native : Native sources references space)
    (around : outer ∈ Names.spacesAround space) : Native sources references outer := by
  unfold Native
  rw [Names.root_space_around around]
  exact native

theorem Familiar.within {part text : List Char} (familiar : Familiar sources references text)
    (inside : part <:+: text) : Familiar sources references part :=
  fun segment strange within => familiar segment strange (within.trans inside)

theorem Familiar.join {front back : List Char} (first : Familiar sources references front)
    (second : Familiar sources references back) :
    Familiar sources references (front ++ '.' :: back) := by
  intro segment strange inside
  rcases Text.infix_joined strange.dotless inside with own | other
  · exact first segment strange own
  · exact second segment strange other

theorem Familiar.native {name : String} (familiar : Familiar sources references name.toList) :
    Native sources references name := by
  intro strange
  apply familiar _ strange
  rw [Names.to_list_root]
  exact (Text.before_first_begins _ _).isInfix

theorem Familiar.segments {text : String} (familiar : Familiar sources references text.toList) :
    ∀ segment ∈ Names.segments text, Native sources references segment := by
  intro segment member
  obtain ⟨characters, listed, rfl⟩ := List.mem_map.mp member
  obtain ⟨piece, isPiece, rfl⟩ := List.mem_map.mp listed
  have inside := familiar.within
    ((Text.unmarked_inside piece).trans (Text.dotted_piece_inside (List.mem_filter.mp isPiece).1))
  unfold Names.segmentChars
  dsimp only
  split
  · apply native_marked _ (by decide) fun _ strange => strange.tickless
    apply Familiar.native
    rw [String.toList_ofList]
    exact inside.within (Text.before_first_begins _ _).isInfix
  · apply Familiar.native
    rw [String.toList_ofList]
    exact inside

theorem Familiar.reference {reference : String} (known : reference ∈ references.keys) :
    Familiar sources references reference.toList :=
  fun _ strange => strange.unreferenced reference known

theorem Familiar.written {source : Source} (listed : source ∈ sources) (node : Node) :
    Familiar sources references (source.compactText node).toList := by
  intro segment strange inside
  exact strange.unwritten source listed (Source.infix_of_compact strange.whole inside)

theorem Familiar.without_mark {name : String} (familiar : Familiar sources references name.toList) :
    Familiar sources references (withoutGlobalMark name).toList := by
  unfold withoutGlobalMark
  cases dropped : Text.dropPrefix? globalMark.toList name.toList with
  | none => exact familiar
  | some rest =>
      rw [Option.map_some, Option.getD_some, String.toList_ofList]
      exact familiar.within (Text.drop_prefix_suffix dropped).isInfix

end Native

section Written

variable {sources : List Source} {references : References} {source : Source}
  (listed : source ∈ sources)
include listed

theorem Familiar.declared_name (node : Node) :
    Familiar sources references (source.declaredName node).toList := by
  unfold Source.declaredName
  cases node.childOr? "name" ["identifier", "qualified_name"] with
  | some name => exact Familiar.written listed name
  | none =>
      intro segment strange inside
      exact strange.named (String.toList_eq_nil_iff.mp (List.infix_nil.mp inside))

theorem native_type_segment (node : Node) :
    Native sources references (source.typeSegment node) := by
  have declared : Familiar sources references (source.declaredName node).toList :=
    Familiar.declared_name listed node
  unfold Source.typeSegment
  cases node.childOr? "type_parameters" ["type_parameter_list"] with
  | none => exact declared.native
  | some parameters =>
      dsimp only
      split
      · exact declared.native
      · rw [← String.ofList_toList (s := _ ++ _), String.toList_append, String.toList_append,
          List.append_assoc]
        apply native_marked _ (by decide) fun _ strange => strange.tickless
        rw [String.ofList_toList]
        exact declared.native

theorem Familiar.directives (node : Node) : ∀ directive ∈ source.usingsIn node,
    Familiar sources references directive.target.toList := by
  intro directive member
  unfold Source.usingsIn at member
  obtain ⟨child, -, read⟩ := List.mem_filterMap.mp member
  unfold Using.ofNode? at read
  obtain ⟨target, -, same⟩ := Option.map_eq_some_iff.mp read
  have target : directive.target = withoutGlobalMark (source.compactText target) := by
    rw [← same]
  rw [target]
  exact (Familiar.written listed _).without_mark

end Written

structure Surroundings.Familiar (sources : List Source) (references : References)
    (surroundings : Surroundings) : Prop where
  types : ∀ segment ∈ surroundings.types, Native sources references segment
  spaces : ∀ block ∈ surroundings.spaces, Native sources references block.1 ∧
    ∀ directive ∈ block.2, PropertyGen.Familiar sources references directive.target.toList
  unitUsings : ∀ directive ∈ surroundings.unitUsings,
    PropertyGen.Familiar sources references directive.target.toList

structure Scope.Familiar (sources : List Source) (references : References) (scope : Scope) : Prop where
  enclosing : ∀ type ∈ scope.enclosing, PropertyGen.Native sources references type
  spaces : ∀ level ∈ scope.levels, PropertyGen.Native sources references level.space
  targets : ∀ level ∈ scope.levels, ∀ directive ∈ level.usings,
    PropertyGen.Familiar sources references directive.target.toList

namespace Surroundings

variable {sources : List Source} {references : References} {surroundings : Surroundings}

theorem Familiar.add_space (familiar : surroundings.Familiar sources references) {name : String}
    (native : Native sources references name) {usings : List Using}
    (targets : ∀ directive ∈ usings,
      PropertyGen.Familiar sources references directive.target.toList) :
    (surroundings.addSpace name usings).Familiar sources references := by
  refine ⟨familiar.types, ?_, familiar.unitUsings⟩
  intro block member
  rcases List.mem_append.mp member with old | new
  · exact familiar.spaces block old
  · rw [List.mem_singleton.mp new]
    exact ⟨native, targets⟩

theorem Familiar.add_ancestor (familiar : surroundings.Familiar sources references)
    {source : Source} (listed : source ∈ sources) (offset : Nat) (ancestor : Node) :
    (addAncestor source offset surroundings ancestor).Familiar sources references := by
  have native (node : Node) : Native sources references (source.declaredName node) :=
    (PropertyGen.Familiar.declared_name listed node).native
  unfold addAncestor
  split
  · refine ⟨?_, familiar.spaces, familiar.unitUsings⟩
    intro segment member
    rcases List.mem_append.mp member with old | new
    · exact familiar.types segment old
    · rw [List.mem_singleton.mp new]
      exact native_type_segment listed ancestor
  split
  · apply familiar.add_space (native ancestor)
    cases ancestor.body? with
    | none =>
        intro directive member
        cases member
    | some body => exact PropertyGen.Familiar.directives listed body
  split
  · exact familiar.add_space (native ancestor) (PropertyGen.Familiar.directives listed ancestor)
  split
  · have unit : ({ surroundings with unitUsings := source.usingsIn ancestor } :
        Surroundings).Familiar sources references :=
      ⟨familiar.types, familiar.spaces, PropertyGen.Familiar.directives listed ancestor⟩
    dsimp only
    split
    · split
      · next declaration _ =>
          apply unit.add_space (native declaration)
          intro directive member
          cases member
      · exact unit
    · exact unit
  · exact familiar

theorem familiar_of_site {source : Source} (listed : source ∈ sources) (site : Site) :
    (ofSite source site).Familiar sources references := by
  have fold (ancestors : List Node) (surroundings : Surroundings)
      (before : surroundings.Familiar sources references) :
      (ancestors.foldl (addAncestor source site.node.start) surroundings).Familiar sources
        references := by
    induction ancestors generalizing surroundings with
    | nil => exact before
    | cons ancestor rest induction =>
        exact induction _ (before.add_ancestor listed site.node.start ancestor)
  apply fold
  constructor
  · intro segment member
    cases member
  · intro block member
    cases member
  · intro directive member
    cases member

theorem Familiar.native_space (familiar : surroundings.Familiar sources references) :
    Native sources references surroundings.space := by
  have fold (blocks : List (String × List Using)) (outer : String)
      (natives : ∀ block ∈ blocks, Native sources references block.1)
      (before : Native sources references outer) :
      Native sources references
        (blocks.foldl (fun outer block => Names.qualify outer block.1) outer) := by
    induction blocks generalizing outer with
    | nil => exact before
    | cons block rest induction =>
        obtain ⟨own, others⟩ := List.forall_mem_cons.mp natives
        exact induction _ others (native_qualify before fun _ => own)
  apply fold _ _ _ native_empty
  intro block member
  exact (familiar.spaces block (List.mem_reverse.mp member)).1

theorem mem_declared_spaces {declared : String × List Using}
    (member : declared ∈ surroundings.declaredSpaces) :
    ∃ block ∈ surroundings.spaces, block.2 = declared.2 := by
  have fold (blocks : List (String × List Using)) (state : String × List (String × List Using)) :
      ∀ entry ∈ (blocks.foldl (fun outer block => (Names.qualify outer.1 block.1,
          outer.2 ++ [(Names.qualify outer.1 block.1, block.2)])) state).2,
        entry ∈ state.2 ∨ ∃ block ∈ blocks, block.2 = entry.2 := by
    induction blocks generalizing state with
    | nil => exact fun entry inside => .inl inside
    | cons block rest induction =>
        intro entry inside
        rcases induction _ entry inside with before | ⟨other, listed, same⟩
        · rcases List.mem_append.mp before with old | new
          · exact .inl old
          · rw [List.mem_singleton.mp new]
            exact .inr ⟨block, List.mem_cons_self, rfl⟩
        · exact .inr ⟨other, List.mem_cons_of_mem _ listed, same⟩
  rcases fold surroundings.spaces.reverse ("", []) declared member with none | ⟨block, listed, same⟩
  · cases none
  · exact ⟨block, List.mem_reverse.mp listed, same⟩

theorem native_nested_names {space : String} (native : Native sources references space)
    {types : List String} (segments : ∀ segment ∈ types, Native sources references segment) :
    ∀ name ∈ nestedNames space types, Native sources references name := by
  have inner (types : List String) (outer : String) (native : Native sources references outer) :
      ∀ name ∈ nestedNames.nestFrom outer types, Native sources references name := by
    induction types generalizing outer with
    | nil =>
        intro name member
        cases member
    | cons segment rest induction =>
        have nested := native_nest native segment
        intro name member
        rcases List.mem_cons.mp member with rfl | later
        · exact nested
        · exact induction _ nested name later
  cases types with
  | nil =>
      intro name member
      cases member
  | cons outermost rest =>
      have first : Native sources references (Names.qualify space outermost) :=
        native_qualify native fun _ => segments outermost List.mem_cons_self
      intro name member
      rcases List.mem_cons.mp member with rfl | later
      · exact first
      · exact inner rest _ first name later

theorem Familiar.scope (familiar : surroundings.Familiar sources references)
    {globals : List Using} (targets : ∀ directive ∈ globals,
      PropertyGen.Familiar sources references directive.target.toList) :
    (surroundings.scope globals).Familiar sources references := by
  refine ⟨?enclosing, ?spaces, ?targets⟩
  case enclosing =>
    intro type member
    apply native_nested_names familiar.native_space _ type (List.mem_reverse.mp member)
    intro segment inside
    exact familiar.types segment (List.mem_reverse.mp inside)
  case spaces =>
    intro level member
    rw [levels_eq] at member
    rcases List.mem_append.mp member with inner | outermost
    · obtain ⟨space, around, rfl⟩ := List.mem_map.mp inner
      exact native_around familiar.native_space (List.mem_reverse.mp around)
    · rw [List.mem_singleton.mp outermost]
      exact native_empty
  case targets =>
    intro level member directive used
    rw [levels_eq] at member
    rcases List.mem_append.mp member with inner | outermost
    · obtain ⟨space, -, rfl⟩ := List.mem_map.mp inner
      have own := (List.mem_filter.mp used).1
      unfold usingsOf at own
      cases found : surroundings.declaredSpaces.reverse.find? fun block => block.1 = space with
      | none =>
          rw [found] at own
          cases own
      | some declared =>
          rw [found] at own
          obtain ⟨block, listed, same⟩ :=
            mem_declared_spaces (List.mem_reverse.mp (List.mem_of_find?_eq_some found))
          apply (familiar.spaces block listed).2
          rw [same]
          exact own
    · rw [List.mem_singleton.mp outermost] at used
      rcases List.mem_append.mp used with own | isGlobal
      · exact familiar.unitUsings directive (List.mem_filter.mp own).1
      · exact targets directive isGlobal

end Surroundings

theorem Scope.Familiar.native {sources : List Source} {references : References} {scope : Scope}
    (familiar : scope.Familiar sources references) :
    scope.Native (PropertyGen.Native sources references) := by
  refine ⟨familiar.enclosing, fun level member _ => familiar.spaces level member, ?_⟩
  intro level member directive used
  have target := familiar.targets level member directive used
  exact ⟨fun _ => target.native, target.segments⟩

namespace Text

theorem compact_inside {part text : List Char} (inside : part <:+: compactChars text) :
    compactChars part = part := by
  apply List.filter_eq_self.mpr
  intro character member
  exact (List.mem_filter.mp (inside.subset member)).2

theorem split_qualifier_suffix {text label rest : List Char}
    (split : splitQualifier? text = some (label, rest)) : rest <:+ text := by
  induction text using splitQualifier?.induct generalizing label with
  | case1 later =>
      cases Option.some.inj split
      exact (List.suffix_cons _ _).trans (List.suffix_cons _ _)
  | case2 character later other induction =>
      rw [splitQualifier?.eq_2 _ _ other] at split
      obtain ⟨⟨before, after⟩, found, same⟩ := Option.map_eq_some_iff.mp split
      obtain rfl : after = rest := (Prod.mk.inj same).2
      exact (induction found).trans (List.suffix_cons _ _)
  | case3 => cases split

end Text

section Requests

variable {sources : List Source} {references : References}

theorem Familiar.compact {source : Source} (listed : source ∈ sources) (node : Node) :
    Familiar sources references (Text.compactChars (source.compactText node).toList) := by
  have inside : (source.compactText node).toList <:+:
      Text.compactChars (source.text node).toList := by
    unfold Source.compactText Text.compact
    rw [String.toList_ofList]
  rw [Text.compact_inside inside]
  exact Familiar.written listed node

theorem clear_suffixed {first second : KnownNames}
    (plain : ∀ segment, Strange sources references segment →
      first.types.contains segment = false ∧ second.types.contains segment = false)
    {segments : List String} (native : ∀ segment ∈ segments, Native sources references segment) :
    KnownNames.Clear (Native sources references) first second (suffixed segments) := by
  unfold suffixed
  cases last : segments.getLast? with
  | none => exact trivial
  | some segment =>
      have own := native segment (List.mem_of_getLast? last)
      apply KnownNames.clear_append
      · intro other member
        exact native other (List.dropLast_subset _ member)
      refine ⟨?_, trivial⟩
      by_cases strange : Strange sources references (Names.root (segment ++ attributeSuffix))
      · right
        have dotless : '.' ∉ (segment ++ attributeSuffix).toList := by
          rw [String.toList_append, List.mem_append]
          intro inside
          rcases inside with inside | inside
          · obtain ⟨before, after, split⟩ := List.append_of_mem inside
            have characters : (segment ++ attributeSuffix).toList =
                before ++ '.' :: (after ++ attributeSuffix.toList) := by
              rw [String.toList_append, split, List.append_assoc]
              rfl
            apply own
            rw [Names.root_of_dot split, ← Names.root_of_dot characters]
            exact strange
          · revert inside
            decide
        rw [Names.root_of_dotless dotless] at strange
        exact ⟨rfl, plain _ strange⟩
      · exact .inl strange

variable {scope : Scope} (familiar : scope.Familiar sources references) {name : String}
  (said : Familiar sources references (Text.compactChars name.toList))
include familiar said

theorem native_request {request : Request} (read : scope.request? name = some request) :
    ∀ segment ∈ request.segments, Native sources references segment := by
  have compact : Familiar sources references (Text.compact name).toList := by
    unfold Text.compact
    rw [String.toList_ofList]
    exact said
  have text := compact.without_mark
  unfold Scope.request? at read
  dsimp only at read
  generalize withoutGlobalMark (Text.compact name) = written at text read
  split at read
  · next label rest split =>
      obtain ⟨target, found, rfl⟩ := Option.map_eq_some_iff.mp read
      obtain ⟨directive, named, rfl⟩ := Option.map_eq_some_iff.mp found
      obtain ⟨level, inside, used⟩ := List.mem_flatMap.mp (List.mem_of_find?_eq_some named)
      apply Familiar.segments
      rw [Names.to_list_dotted, String.toList_ofList]
      apply (familiar.targets level inside directive used).join
      exact text.within (Text.split_qualifier_suffix split).isInfix
  · split at read
    · rw [← Option.some.inj read]
      exact text.segments
    · rw [← Option.some.inj read]
      exact text.segments

/-- The segments that a familiar name is looked up with tell known names apart nowhere, if none of
them has a strange segment for a type. -/
theorem clear_requests {first second : KnownNames}
    (plain : ∀ segment, Strange sources references segment →
      first.types.contains segment = false ∧ second.types.contains segment = false)
    (use : NameUse) : ∀ request ∈ KnownNames.requests use name scope,
      KnownNames.Clear (Native sources references) first second request.segments := by
  intro request member
  unfold KnownNames.requests at member
  cases read : scope.request? name with
  | none =>
      rw [read] at member
      cases member
  | some written =>
      rw [read] at member
      have native := native_request familiar said read
      have own : KnownNames.Clear (Native sources references) first second written.segments :=
        KnownNames.clear_of_native native
      have withSuffix : KnownNames.Clear (Native sources references) first second
          (suffixed written.segments) := clear_suffixed plain native
      unfold NameUse.variants at member
      dsimp only at member
      split at member
      · cases member
      · cases use
        · rw [List.mem_singleton.mp member]
          exact own
        · rcases List.mem_cons.mp member with rfl | later
          · cases written with
            | absolute segments => exact withSuffix
            | relative segments => exact withSuffix
          · rw [List.mem_singleton.mp later]
            exact own

end Requests

end PropertyGen
