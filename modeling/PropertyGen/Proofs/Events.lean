import PropertyGen.Proofs.Parts
import PropertyGen.Proofs.Regeneration

/-!
The event of a fragment. Its line stands once in the text, unless the base list of a part of the type
asks for the notification interface. Entries with constructor arguments are read only if they tell
their types.
-/

namespace PropertyGen

/-! The base lists of the parts. -/

def Node.isBesideTypes (node : Node) : Bool :=
  node.kind = "argument_list" || node.kind = "comment"

def Node.baseType (entry : Node) : Node :=
  if entry.kind = "primary_constructor_base_type" then
    (entry.child? "type" <|> entry.namedChildren.find? fun child => !child.isBesideTypes).getD entry
  else entry

def Source.baseNames (source : Source) (node : Node) : List String :=
  match node.childOf? ["base_list"] with
  | none => []
  | some list =>
      ((list.namedChildren.map Node.baseType).filter fun base => !base.isBesideTypes).map
        source.compactText

/-- The type of an entry with constructor arguments is marked as the type, or it is a plain name. -/
def Node.TellsBase (entry : Node) : Prop :=
  entry.kind = "primary_constructor_base_type" → (entry.child? "type").isNone = true →
    ∀ child ∈ entry.namedChildren, child.isBesideTypes = true ∨
      ["identifier", "qualified_name", "generic_name"].contains child.kind = true

instance (entry : Node) : Decidable entry.TellsBase :=
  inferInstanceAs (Decidable (_ → _ → ∀ child ∈ entry.namedChildren, _))

def Source.TellsBases (source : Source) : Prop :=
  ∀ site ∈ source.sites, site.node.isTypeDeclaration = true →
    ∀ list ∈ site.node.childOf? ["base_list"], ∀ entry ∈ list.namedChildren, entry.TellsBase

instance (source : Source) : Decidable source.TellsBases :=
  inferInstanceAs (Decidable (∀ site ∈ source.sites, _ → ∀ list ∈ site.node.childOf? ["base_list"], _))

theorem Node.base_type_eq {entry : Node} (tells : entry.TellsBase) :
    (if entry.kind = "primary_constructor_base_type" then
        (entry.childOr? "type" ["identifier", "qualified_name", "generic_name"]).getD entry
      else entry) = entry.baseType := by
  unfold baseType
  by_cases isEntry : entry.kind = "primary_constructor_base_type"
  · rw [if_pos isEntry, if_pos isEntry]
    unfold childOr?
    cases typed : entry.child? "type" with
    | some type => rfl
    | none =>
        have plain := tells isEntry (by rw [typed]; rfl)
        have same : entry.childOf? ["identifier", "qualified_name", "generic_name"] =
            entry.namedChildren.find? fun child => !child.isBesideTypes := by
          unfold childOf?
          apply List.find?_congr
          intro child member
          have kinds := plain child member
          unfold isBesideTypes at kinds ⊢
          simp only [Bool.or_eq_true, decide_eq_true_eq, List.contains_iff_mem, List.mem_cons,
            List.not_mem_nil, or_false] at kinds
          rcases kinds with (same | same) | same | same | same
          all_goals
            rw [same]
            decide
        rw [same]
  · rw [if_neg isEntry, if_neg isEntry]

theorem Source.bases_eq {source : Source} {node : Node}
    (tells : ∀ list ∈ node.childOf? ["base_list"], ∀ entry ∈ list.namedChildren, entry.TellsBase) :
    TypeDeclaration.basesOf source node = source.baseNames node := by
  unfold TypeDeclaration.basesOf baseNames
  cases found : node.childOf? ["base_list"] with
  | none => rfl
  | some list =>
      have types := List.map_congr_left fun entry member =>
        Node.base_type_eq (tells list found entry member)
      dsimp only
      rw [types]
      congr 1
      apply List.filter_congr
      intro base _
      unfold Node.isBesideTypes
      rw [Bool.not_or, decide_not, decide_not]

namespace Program

/-- A part of a type has an entry in its base list that binds to an interface, where entries are
read in some way. -/
def Asks (program : Program) (basesOf : Source → Node → List String) (type interface : String) :
    Prop :=
  ∃ part ∈ program.parts, part.type = type ∧ ∃ base ∈ basesOf part.source part.site.node,
    program.known.resolve? .type base (program.scope part.source part.site) = some interface

instance (program : Program) (basesOf : Source → Node → List String) (type interface : String) :
    Decidable (program.Asks basesOf type interface) :=
  inferInstanceAs (Decidable (∃ part ∈ program.parts, _ ∧ ∃ base ∈ _, _))

variable {sources : List Source} {references : References} {program : Program}

theorem interfaces_asked (built : build sources references = .ok program) {type interface : String}
    {symbol : TypeSymbol} (found : program.type? type = some symbol) :
    interface ∈ symbol.interfaces ↔ (program.type? interface).map (·.kind) = some "interface" ∧
      program.Asks TypeDeclaration.basesOf type interface := by
  rw [mem_interfaces built found, parts_in_eq]
  apply and_congr_right
  intro _
  unfold Asks parts
  rw [(build_eq built).1]
  constructor
  · intro given
    obtain ⟨declaration, member, base, listed, bound⟩ := given
    obtain ⟨part, kept, rfl⟩ := List.mem_map.mp member
    obtain ⟨declared, own⟩ := List.mem_filter.mp kept
    exact ⟨part, declared, of_decide_eq_true own, base, listed, bound⟩
  · intro given
    obtain ⟨part, declared, own, base, listed, bound⟩ := given
    refine ⟨part.declaration program.globals, List.mem_map_of_mem ?_, base, listed, bound⟩
    exact List.mem_filter.mpr ⟨declared, decide_eq_true own⟩

/-- It makes no difference how entries are read that tell their types. -/
theorem asks_congr (tells : ∀ source ∈ program.sources, source.TellsBases) (type interface : String) :
    program.Asks TypeDeclaration.basesOf type interface ↔
      program.Asks Source.baseNames type interface := by
  unfold Asks
  apply exists_congr
  intro part
  apply and_congr_right
  intro listed
  obtain ⟨sourceListed, inside, isType⟩ := mem_declared_parts.mp listed
  rw [Source.bases_eq (tells part.source sourceListed part.site inside isType)]

end Program

/-! The lines of the text. -/

/-- All strings of a group are on one line, and no name has a semicolon, with which a declaration
could end. -/
structure TypeGroup.Plain (group : TypeGroup) : Prop extends group.OnLines where
  names : ∀ spec ∈ group.members, .character ';' ∉ spec.name

instance (group : TypeGroup) : Decidable group.Plain :=
  decidable_of_iff (group.OnLines ∧ ∀ spec ∈ group.members, .character ';' ∉ spec.name)
    ⟨fun both => ⟨both.1, both.2⟩, fun plain => ⟨plain.toOnLines, plain.names⟩⟩

namespace Render

section EventLine

variable {group : TypeGroup} {notification : TypeSymbol} {depth : Nat}

theorem event_deeper {other : Nat} {text : Points} (flush : text.head? ≠ some (.character ' '))
    (apart : other ≠ depth) : eventLine depth ≠ Layout.indented other text := by
  have event := Layout.indented_parts depth (show eventText.head? ≠ some (.character ' ') by decide)
    (by decide)
  change Layout.indented depth eventText ≠ _
  by_cases empty : text = []
  · rw [empty, Layout.indented.eq_def other, if_pos rfl]
    exact Layout.indented_ne_nil depth (by decide)
  · intro same
    have spaces := (Layout.indented_parts other flush empty).1
    rw [← same, event.1] at spaces
    omega

theorem head_append {front back : Points} {first : CodePoint} (begins : front.head? = some first) :
    (front ++ back).head? = some first := by
  rw [List.head?_append, begins, Option.some_or]

theorem event_declaration {type : String} {name : Points} (plain : .character ';' ∉ name) :
    eventText ≠ "public " ++ type ++ " " ++ name := by
  intro same
  have last := congrArg List.getLast? same
  rw [List.getLast?_append] at last
  cases ends : name.getLast? with
  | none =>
      have blank : (Points.ofText " ").getLast? = some (.character ' ') := by decide
      rw [ends, Option.none_or, List.getLast?_append, blank, Option.some_or] at last
      exact absurd last (by decide)
  | some point =>
      rw [ends, Option.some_or] at last
      have semicolon : point = .character ';' := Option.some.inj (last.symm.trans (by decide))
      exact plain (semicolon ▸ List.mem_of_getLast? ends)

theorem event_not_comment (summary? : Option String) : eventText ∉ commentLines summary? := by
  cases summary? with
  | none => exact List.not_mem_nil
  | some summary =>
      intro listed
      simp only [commentLines, List.mem_cons, List.not_mem_nil, or_false] at listed
      rcases listed with opening | shown | closing
      · exact absurd opening (by decide)
      · have first := congrArg List.head? shown
        rw [head_append (show (Points.ofText "/// ").head? = some _ from rfl)] at first
        exact absurd first (by decide)
      · exact absurd closing (by decide)

theorem event_not_property {spec : PropertySpec} (plain : .character ';' ∉ spec.name) :
    eventLine depth ∉ propertyLines depth spec := by
  have deeper {other : Nat} {text : Points} (apart : other ≠ depth)
      (flush : text.head? ≠ some (.character ' ')) : eventLine depth ≠ Layout.indented other text :=
    event_deeper flush apart
  have beside {text : Points} (apart : eventText ≠ text) :
      eventLine depth ≠ Layout.indented depth text := mt Layout.indented_inj.mp apart
  unfold propertyLines
  rw [List.mem_append, not_or]
  constructor
  · intro listed
    obtain ⟨text, comment, same⟩ := List.mem_map.mp listed
    exact event_not_comment _ (Layout.indented_inj.mp same ▸ comment)
  · simp only [List.mem_cons, List.not_mem_nil, or_false, not_or]
    refine ⟨beside (event_declaration plain), beside (by decide), deeper (by omega) ?_,
      deeper (by omega) (by decide), deeper (by omega) (by decide), deeper (by omega) ?_,
      deeper (by omega) ?_, deeper (by omega) (by decide), beside (by decide)⟩
    · rw [head_append (head_append (show (Points.ofText "get => this.").head? = some _ from rfl))]
      decide
    · rw [head_append (head_append (show (Points.ofText "this.").head? = some _ from rfl))]
      decide
    · rw [head_append (head_append (head_append (head_append
        (show (Points.ofText "this.PropertyChanged?.Invoke(this, new ").head? = some _ from rfl))))]
      decide

/-- The lines around the members stand at lesser depths. -/
theorem event_not_around (onLines : group.OnLines) (notification : TypeSymbol)
    (members : List (List Points)) :
    ∃ above below, fragmentLines group notification members =
        above ++ ([[]].intercalate members ++ below) ∧
      eventLine (typeDepth group + 1) ∉ above ∧ eventLine (typeDepth group + 1) ∉ below := by
  have outer {depth : Nat} {text : Points} (shallow : depth ≤ typeDepth group)
      (flush : text.head? ≠ some (.character ' ')) :
      eventLine (typeDepth group + 1) ≠ Layout.indented depth text :=
    event_deeper flush (by omega)
  have top {text : Points} (flush : text.head? ≠ some (.character ' ')) :
      eventLine (typeDepth group + 1) ≠ text := by
    rw [← Layout.indented_zero text]
    exact outer (Nat.zero_le _) flush
  refine ⟨spaceOpening group ++ (directiveLines (typeDepth group) group.usings ++
      [Layout.indented (typeDepth group) (typeHeader group notification),
        Layout.indented (typeDepth group) "\x7b"]),
    Layout.indented (typeDepth group) "\x7d" :: spaceClosing group, ?_, ?_, ?_⟩
  · simp [fragmentLines]
  · simp only [List.mem_append, List.mem_cons, List.not_mem_nil, or_false, not_or]
    refine ⟨?_, ?_, outer (Nat.le_refl _) ?_, outer (Nat.le_refl _) (by decide)⟩
    · unfold spaceOpening
      split
      · simpa using top (by decide)
      · simp only [List.mem_cons, List.not_mem_nil, or_false, not_or]
        refine ⟨top (by decide), top ?_, top (by decide)⟩
        rw [head_append (show (Points.ofText "namespace ").head? = some _ from rfl)]
        decide
    · unfold directiveLines
      split
      · exact List.not_mem_nil
      · intro listed
        rcases List.mem_append.mp listed with inside | isLast
        · obtain ⟨directive, own, same⟩ := List.mem_map.mp inside
          exact outer (Nat.le_refl _) (onLines.directives directive own).1.flush same.symm
        · exact top (by decide) (List.mem_singleton.mp isLast)
    · unfold typeHeader
      rw [head_append (head_append (head_append (head_append (head_append (head_append
        (show (Points.ofText "partial ").head? = some _ from rfl))))))]
      decide
  · unfold spaceClosing
    split
    · simpa using outer (Nat.le_refl _) (by decide)
    · simpa using ⟨outer (Nat.le_refl _) (by decide), top (by decide)⟩

theorem event_not_properties (plain : group.Plain) (depth : Nat) :
    eventLine depth ∉ [[]].intercalate (group.members.map (propertyLines depth)) := by
  have filled : eventLine depth ∉ [[]] := by
    rw [List.mem_singleton]
    exact Layout.indented_ne_nil depth (by decide)
  rw [Layout.mem_intercalate filled]
  rintro ⟨part, isPart, inside⟩
  obtain ⟨spec, own, rfl⟩ := List.mem_map.mp isPart
  exact event_not_property (plain.names spec own) inside

theorem count_first_part {line : Points} {parts : List (List Points)} (filled : line ≠ [])
    (elsewhere : line ∉ [[]].intercalate parts) :
    ([[]].intercalate ([line] :: parts)).count line = 1 := by
  cases parts with
  | nil => simp
  | cons next more =>
      rw [List.intercalate_cons_cons, List.count_append, List.count_append,
        List.count_eq_zero.mpr elsewhere]
      simp [filled.symm]

end EventLine

/-- The text of a fragment has the line of the event in front of its properties, or nothing in front
of them if the type asks for the interface. Where the group is plain, the line is nowhere else. -/
structure EventUnless (asked : Prop) (group : TypeGroup) (notification : TypeSymbol)
    (text : Points) : Prop where
  declared : ¬ asked → text = Layout.ended (fragmentLines group notification
    ([eventLine (typeDepth group + 1)] ::
      group.members.map (propertyLines (typeDepth group + 1))))
  inherited : asked → text = Layout.ended (fragmentLines group notification
    (group.members.map (propertyLines (typeDepth group + 1))))
  once : ¬ asked → group.Plain →
    (text.splitOn (.character '\n')).count (eventLine (typeDepth group + 1)) = 1
  absent : asked → group.Plain → eventLine (typeDepth group + 1) ∉ text.splitOn (.character '\n')

theorem event_unless_inherited (group : TypeGroup) {notification : TypeSymbol}
    (named : '\n' ∉ notification.display.toList) :
    EventUnless (notification.metadataName ∈ group.containing.interfaces) group notification
      (Layout.text (layout group notification)) := by
  have filled : eventLine (typeDepth group + 1) ≠ [] := Layout.indented_ne_nil _ (by decide)
  have inherits : group.containing.interfaces.contains notification.metadataName = true ↔
      notification.metadataName ∈ group.containing.interfaces := List.contains_iff_mem
  have members (asked : Bool)
      (known : group.containing.interfaces.contains notification.metadataName = asked) :
      memberLines group notification (typeDepth group + 1) =
        (if asked then [] else [[eventLine (typeDepth group + 1)]]) ++
          group.members.map (propertyLines (typeDepth group + 1)) := by
    rw [memberLines, known]
  have lines (plain : group.Plain) :
      ∃ above below, (Layout.text (layout group notification)).splitOn (.character '\n') =
          above ++ ([[]].intercalate (memberLines group notification (typeDepth group + 1)) ++ below) ∧
        eventLine (typeDepth group + 1) ∉ above ∧ eventLine (typeDepth group + 1) ∉ below := by
    obtain ⟨above, below, whole, notAbove, notBelow⟩ := event_not_around plain.toOnLines notification
      (memberLines group notification (typeDepth group + 1))
    refine ⟨above, below ++ [[]], ?_, notAbove, by simp [notBelow, filled]⟩
    rw [plain.toOnLines.split named, lines_of_layout, whole]
    simp only [List.append_assoc]
  constructor
  case declared =>
    intro absent
    rw [text_of_layout, members false (Bool.eq_false_iff.mpr (mt inherits.mp absent))]
    rfl
  case inherited =>
    intro present
    rw [text_of_layout, members true (inherits.mpr present)]
    rfl
  case once =>
    intro absent plain
    obtain ⟨above, below, split, notAbove, notBelow⟩ := lines plain
    rw [split, members false (Bool.eq_false_iff.mpr (mt inherits.mp absent)), List.count_append,
      List.count_append, List.count_eq_zero.mpr notAbove, List.count_eq_zero.mpr notBelow]
    exact (Nat.zero_add _).trans (count_first_part filled (event_not_properties plain _))
  case absent =>
    intro present plain
    obtain ⟨above, below, split, notAbove, notBelow⟩ := lines plain
    rw [split, members true (inherits.mpr present), List.mem_append, List.mem_append, not_or, not_or]
    exact ⟨notAbove, event_not_properties plain _, notBelow⟩

end Render

theorem notification_is_interface {sources : List Source} {options : Options} {bound : Bound}
    (own : BoundIn sources options bound)
    (undeclared : ∀ part ∈ declaredParts sources, part.type ≠ notificationName)
    (referred : options.references.get? notificationName = some "interface") :
    bound.notification.kind = "interface" := by
  obtain ⟨built, -, notified⟩ := bound_in_iff.mp own
  have marker : ∀ part ∈ declaredParts [Marker.source], part.type ≠ notificationName := by
    intro part listed
    obtain ⟨site, only, name, -⟩ := marker_declaration
    unfold declaredParts at listed
    rw [List.flatMap_singleton, only, List.map_singleton, List.mem_singleton] at listed
    rw [listed, Part.type, Source.declaredType, name]
    decide
  have none : partsIn bound.program.globals (sources ++ [Marker.source]) notificationName = [] := by
    rw [parts_in_eq, List.map_eq_nil_iff, List.filter_eq_nil_iff]
    unfold declaredParts at undeclared marker ⊢
    intro part listed same
    rw [List.flatMap_append, List.mem_append] at listed
    rcases listed with old | new
    · exact undeclared part old (of_decide_eq_true same)
    · exact marker part new (of_decide_eq_true same)
  have kind := Program.kind_of_type built notificationName
  rw [none, notified] at kind
  exact Option.some.inj (kind.symm.trans referred)

/-- The type of a group has the notification interface if a part of it asks for it. -/
theorem group_asks {sources : List Source} {options : Options} {bound : Bound} {marker : String}
    {candidates : List Candidate} {fields : List ResolvedField} (own : BoundIn sources options bound)
    (isInterface : bound.notification.kind = "interface")
    (resolved : (bound.program.resolveFields marker candidates).outcome = .ok fields)
    {group : TypeGroup} (listed : group ∈ typeGroups fields) :
    bound.notification.metadataName ∈ group.containing.interfaces ↔
      bound.program.Asks TypeDeclaration.basesOf group.containing.metadataName
        notificationName := by
  obtain ⟨built, -, notified⟩ := bound_in_iff.mp own
  rw [Program.type_name notified, Program.interfaces_asked built (group_type resolved listed),
    notified, Option.map_some, isInterface]
  exact and_iff_right rfl

theorem marker_tells_bases : Marker.source.TellsBases := by decide +kernel

theorem notification_unbroken {sources : List Source} {options : Options} {bound : Bound}
    (own : BoundIn sources options bound) : '\n' ∉ bound.notification.display.toList := by
  rw [TypeSymbol.display, Program.type_name (bound_in_iff.mp own).2.2]
  decide +kernel

/-- Each fragment declares the event once, unless an entry in the base list of a part of its type, as
it is read, binds to the notification interface. If all entries tell their types, they are read as
they are written. -/
theorem event_unless_asked {sources : List Source} {options : Options} {result : GenerationResult}
    (returned : (generate sources options).outcome = .ok result) :
    ∃ bound fields, BoundIn sources options bound ∧
      (findFields sources options).outcome = .ok fields ∧
      result.fragments = (Marker.key, Points.ofText Marker.text) ::
        (bound.published options fields).map (bound.fragment options) ∧
      (bound.notification.kind = "interface" → ∀ group ∈ bound.published options fields,
        Render.EventUnless
            (bound.program.Asks TypeDeclaration.basesOf group.containing.metadataName
              notificationName)
            group bound.notification (bound.fragment options group).2 ∧
          ((∀ source ∈ sources, source.TellsBases) →
            Render.EventUnless
              (bound.program.Asks Source.baseNames group.containing.metadataName notificationName)
              group bound.notification (bound.fragment options group).2)) := by
  obtain ⟨bound, fields, own, resolved, fragments⟩ := generated_fragments returned
  refine ⟨bound, fields, own, find_fields_returns.mpr ⟨bound, own, resolved⟩, fragments, ?_⟩
  intro isInterface group published
  have settled := Render.event_unless_inherited group (notification_unbroken own)
  rw [group_asks own isInterface resolved (Publication.published_subset published)] at settled
  refine ⟨settled, fun tells => ?_⟩
  rw [← Program.asks_congr]
  · exact settled
  · intro source listed
    rw [(Program.build_eq (bound_in_iff.mp own).1).1] at listed
    rcases List.mem_append.mp listed with old | new
    · exact tells source old
    · rw [List.mem_singleton.mp new]
      exact marker_tells_bases

theorem fragment_generated {sources : List Source} {options : Options} {result : GenerationResult}
    {bound : Bound} {fields : List ResolvedField} {group : TypeGroup}
    (returned : (generate sources options).outcome = .ok result)
    (own : BoundIn sources options bound) (found : (findFields sources options).outcome = .ok fields)
    (published : group ∈ bound.published options fields) :
    bound.fragment options group ∈ result.fragments := by
  obtain ⟨other, otherFields, otherOwn, resolved, fragments⟩ := generated_fragments returned
  have otherFound := find_fields_returns.mpr ⟨other, otherOwn, resolved⟩
  obtain rfl := bound_in_unique own otherOwn
  obtain rfl := Except.ok.inj (found.symm.trans otherFound)
  rw [fragments]
  exact List.mem_cons_of_mem _ (List.mem_map_of_mem published)

theorem sole_published {α : Type} {sources : List Source} {view : TypeGroup → α} {seen : α}
    (runs : ((findFields sources Options.standard).outcome.map fun fields =>
      (typeGroups fields).map fun group => (group.containing.isTopLevel, view group)).toOption =
        some [(true, seen)]) :
    ∃ result bound fields group, (generate sources Options.standard).outcome = .ok result ∧
      BoundIn sources Options.standard bound ∧
      (findFields sources Options.standard).outcome = .ok fields ∧
      group ∈ bound.published Options.standard fields ∧ view group = seen := by
  cases found : (findFields sources Options.standard).outcome with
  | error fault =>
      rw [found] at runs
      cases runs
  | ok fields =>
      rw [found] at runs
      obtain ⟨group, groups, same⟩ := List.map_eq_singleton_iff.mp (Option.some.inj runs)
      obtain ⟨topLevel, own⟩ := Prod.mk.inj same
      obtain ⟨result, bound, returned, bind, published⟩ :=
        first_group_published found rfl groups topLevel
      exact ⟨result, bound, fields, group, returned, bind, rfl, published, own⟩

section Aliased

open Marker (branch token leaf fieldLeaf fieldBranch)

def markedMember (start length : Nat) : Node :=
  branch "field_declaration" start (start + 37 + length) [
    branch "attribute_list" start (start + 31) [
      token "[" start (start + 1),
      branch "attribute" (start + 1) (start + 30) [
        fieldBranch "qualified_name" "name" (start + 1) (start + 30) [
          fieldLeaf "identifier" "qualifier" (start + 1) (start + 11),
          token "." (start + 11) (start + 12),
          fieldLeaf "identifier" "name" (start + 12) (start + 30)]],
      token "]" (start + 30) (start + 31)],
    branch "variable_declaration" (start + 32) (start + 36 + length) [
      fieldLeaf "predefined_type" "type" (start + 32) (start + 35),
      branch "variable_declarator" (start + 36) (start + 36 + length) [
        fieldLeaf "identifier" "name" (start + 36) (start + 36 + length)]],
    token ";" (start + 36 + length) (start + 37 + length)]

/-- A class that asks for the interface by an alias and with an argument, where the tree may mark the
type of such an entry. -/
def aliasedBase (mark? : Option String) : Source :=
  { path := "X.cs"
    bytes := Text.Utf8.encode ("using SC = System.ComponentModel; "
      ++ "class X(int y) : SC::INotifyPropertyChanged(y) "
      ++ "\x7b [AutoNotify.NotifiableProperty] int _a; \x7d")
    root :=
      branch "compilation_unit" 0 124 [
        branch "using_directive" 0 33 [
          token "using" 0 5,
          fieldLeaf "identifier" "name" 6 8,
          token "=" 9 10,
          branch "qualified_name" 11 32 [
            fieldLeaf "identifier" "qualifier" 11 17,
            token "." 17 18,
            fieldLeaf "identifier" "name" 18 32],
          token ";" 32 33],
        branch "class_declaration" 34 124 [
          token "class" 34 39,
          fieldLeaf "identifier" "name" 40 41,
          fieldBranch "parameter_list" "parameters" 41 48 [
            token "(" 41 42,
            branch "parameter" 42 47 [
              fieldLeaf "predefined_type" "type" 42 45,
              fieldLeaf "identifier" "name" 46 47],
            token ")" 47 48],
          branch "base_list" 49 80 [
            token ":" 49 50,
            branch "primary_constructor_base_type" 51 80 [
              { branch "alias_qualified_name" 51 77 [
                  fieldLeaf "identifier" "alias" 51 53,
                  token "::" 53 55,
                  fieldLeaf "identifier" "name" 55 77] with field? := mark? },
              branch "argument_list" 77 80 [
                token "(" 77 78,
                branch "argument" 78 79 [leaf "identifier" 78 79],
                token ")" 79 80]]],
          fieldBranch "declaration_list" "body" 81 124 [
            token "\x7b" 81 82,
            markedMember 83 2,
            token "\x7d" 123 124]]] }

section Runs

variable {mark? : Option String}

theorem aliased_base_known (given : mark? ∈ [none, some "type"]) :
    Knows [aliasedBase mark?] (runNames ["X"] []) := by
  apply knows_sole
  revert mark?
  decide +kernel

theorem aliased_base_group (given : mark? ∈ [none, some "type"]) :
    ((findFields [aliasedBase mark?] Options.standard).outcome.map fun fields =>
      (typeGroups fields).map fun group =>
        (group.containing.isTopLevel, group.containing.metadataName, decide group.Plain)).toOption =
      some [(true, "X", true)] := by
  rw [find_fields_knowing (aliased_base_known given)]
  revert mark?
  decide +kernel

theorem aliased_base_asks (given : mark? ∈ [none, some "type"]) {program : Program}
    (built : Program.build ([aliasedBase mark?] ++ [Marker.source]) References.standard =
      .ok program) :
    program.Asks Source.baseNames "X" notificationName ∧
      (program.Asks TypeDeclaration.basesOf "X" notificationName ↔ mark? = some "type") := by
  obtain ⟨sources, -, globals, known, -⟩ := Program.build_eq built
  have names : program.known = runNames ["X"] [] := known.trans (aliased_base_known given)
  unfold Program.Asks Program.parts Program.scope
  rw [sources, globals, names]
  clear built sources globals known names
  revert mark?
  decide +kernel

theorem aliased_base_published (given : mark? ∈ [none, some "type"]) :
    ∃ result bound fields, (generate [aliasedBase mark?] Options.standard).outcome = .ok result ∧
      BoundIn [aliasedBase mark?] Options.standard bound ∧
      (findFields [aliasedBase mark?] Options.standard).outcome = .ok fields ∧
      bound.notification.kind = "interface" ∧
      ∃ group ∈ bound.published Options.standard fields, group.Plain ∧
        bound.program.Asks Source.baseNames group.containing.metadataName notificationName ∧
          (bound.notification.metadataName ∈ group.containing.interfaces ↔ mark? = some "type") := by
  obtain ⟨result, bound, fields, group, returned, own, found, published, seen⟩ :=
    sole_published (aliased_base_group given)
  obtain ⟨name, plain⟩ := Prod.mk.inj seen
  have undeclared : ∀ part ∈ declaredParts [aliasedBase mark?], part.type ≠ notificationName := by
    clear found returned own published
    revert mark?
    decide +kernel
  have isInterface := notification_is_interface own undeclared (by decide +kernel)
  obtain ⟨written, read⟩ := aliased_base_asks given (bound_in_iff.mp own).1
  refine ⟨result, bound, fields, returned, own, found, isInterface, group, published,
    of_decide_eq_true plain, name ▸ written, ?_⟩
  obtain ⟨other, otherOwn, resolved⟩ := find_fields_returns.mp found
  rw [bound_in_unique otherOwn own] at resolved
  rw [group_asks own isInterface resolved (Publication.published_subset published), name, read]

end Runs

/-- The fragment of the class does not declare the event if the type of its entry is marked. -/
theorem event_unless_asked_aliased_base :
    ∃ result bound fields,
      (generate [aliasedBase (some "type")] Options.standard).outcome = .ok result ∧
      BoundIn [aliasedBase (some "type")] Options.standard bound ∧
      bound.notification.kind = "interface" ∧
      (∀ source ∈ [aliasedBase (some "type")], source.TellsBases) ∧
      ∃ group ∈ bound.published Options.standard fields,
        bound.program.Asks Source.baseNames group.containing.metadataName notificationName ∧
          group.Plain ∧ bound.fragment Options.standard group ∈ result.fragments ∧
          Render.eventLine (Render.typeDepth group + 1) ∉
            (bound.fragment Options.standard group).2.splitOn (.character '\n') := by
  obtain ⟨result, bound, fields, returned, own, found, isInterface, group, published, plain, asked, -⟩ :=
    aliased_base_published (List.mem_cons_of_mem none (List.mem_singleton_self _))
  have tells : ∀ source ∈ [aliasedBase (some "type")], source.TellsBases := by decide +kernel
  obtain ⟨other, otherFields, otherOwn, otherFound, -, events⟩ := event_unless_asked returned
  obtain rfl := bound_in_unique own otherOwn
  obtain rfl := Except.ok.inj (found.symm.trans otherFound)
  have settled := (events isInterface group published).2 tells
  exact ⟨result, bound, fields, returned, own, isInterface, tells, group, published, asked, plain,
    fragment_generated returned own found published, settled.absent asked plain⟩

/-- The fragment of the class declares the event although its base list names the interface. -/
theorem event_despite_base :
    (∃ result bound fields, (generate [aliasedBase none] Options.standard).outcome = .ok result ∧
      BoundIn [aliasedBase none] Options.standard bound ∧
      (findFields [aliasedBase none] Options.standard).outcome = .ok fields ∧
      bound.notification.kind = "interface" ∧
      ∃ group ∈ bound.published Options.standard fields,
        bound.program.Asks Source.baseNames group.containing.metadataName notificationName ∧
          bound.fragment Options.standard group ∈ result.fragments ∧
          ((bound.fragment Options.standard group).2.splitOn (.character '\n')).count
            (Render.eventLine (Render.typeDepth group + 1)) = 1) ∧
      ¬ ∀ (sources : List Source) (options : Options) (result : GenerationResult) (bound : Bound)
        (fields : List ResolvedField), (generate sources options).outcome = .ok result →
        BoundIn sources options bound → (findFields sources options).outcome = .ok fields →
        bound.notification.kind = "interface" → ∀ group ∈ bound.published options fields,
          Render.EventUnless
            (bound.program.Asks Source.baseNames group.containing.metadataName notificationName)
            group bound.notification (bound.fragment options group).2 := by
  obtain ⟨result, bound, fields, returned, own, found, isInterface, group, published, plain, asked,
    read⟩ := aliased_base_published (List.mem_cons_self : none ∈ [none, some "type"])
  have unread : bound.notification.metadataName ∉ group.containing.interfaces :=
    fun listed => nomatch read.mp listed
  have once := (Render.event_unless_inherited group (notification_unbroken own)).once unread plain
  refine ⟨⟨result, bound, fields, returned, own, found, isInterface, group, published, asked,
    fragment_generated returned own found published, once⟩, fun always => ?_⟩
  have settled := always _ _ result bound fields returned own found isInterface group published
  have none := List.count_eq_zero.mpr (settled.absent asked plain)
  exact absurd (once.symm.trans none) Nat.one_ne_zero

end Aliased

end PropertyGen
