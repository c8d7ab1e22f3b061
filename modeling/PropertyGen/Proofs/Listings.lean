import PropertyGen.Generation.Render
import PropertyGen.Proofs.Content
import PropertyGen.Proofs.Layouts

/-!
A fragment as a listing of its group. Its lines are nested as their braces are, its members stand
with one empty line between them, and what the group has to show can be told from the text.
-/

namespace PropertyGen

/-- A property without a comment that has nothing to show. -/
def PropertySpec.shown (spec : PropertySpec) : PropertySpec :=
  { spec with summary? := spec.summary?.filter fun summary => !summary.toList.all Text.isBlank }

structure PropertySpec.OnLines (spec : PropertySpec) : Prop where
  name : .character '\n' ∉ spec.name
  backingField : '\n' ∉ spec.backingField.toList
  type : '\n' ∉ spec.type.toList
  summary : ∀ summary ∈ spec.summary?, '\n' ∉ summary.toList

instance (spec : PropertySpec) : Decidable spec.OnLines :=
  decidable_of_iff
    (.character '\n' ∉ spec.name ∧ '\n' ∉ spec.backingField.toList ∧ '\n' ∉ spec.type.toList ∧
      ∀ summary ∈ spec.summary?.toList, '\n' ∉ summary.toList)
    ⟨fun all => ⟨all.1, all.2.1, all.2.2.1, fun summary given =>
        all.2.2.2 summary (Option.mem_toList.mpr given)⟩,
      fun own => ⟨own.name, own.backingField, own.type, fun summary given =>
        own.summary summary (Option.mem_toList.mp given)⟩⟩

/-- All strings of a group are on one line, and those of its directives are not taken for the
layout around them. -/
structure TypeGroup.OnLines (group : TypeGroup) : Prop where
  space : '\n' ∉ group.containing.space.toList
  kind : '\n' ∉ group.containing.kind.toList
  name : '\n' ∉ group.containing.name.toList
  typeParameters : '\n' ∉ group.containing.typeParameters.toList
  directives : ∀ directive ∈ group.usings, Layout.Neat directive.text ∧ directive.text ≠ ""
  members : ∀ spec ∈ group.members, spec.OnLines

instance (group : TypeGroup) : Decidable group.OnLines :=
  decidable_of_iff
    ('\n' ∉ group.containing.space.toList ∧ '\n' ∉ group.containing.kind.toList ∧
      '\n' ∉ group.containing.name.toList ∧ '\n' ∉ group.containing.typeParameters.toList ∧
      (∀ directive ∈ group.usings, Layout.Neat directive.text ∧ directive.text ≠ "") ∧
      ∀ spec ∈ group.members, spec.OnLines)
    ⟨fun all => ⟨all.1, all.2.1, all.2.2.1, all.2.2.2.1, all.2.2.2.2.1, all.2.2.2.2.2⟩,
      fun own => ⟨own.space, own.kind, own.name, own.typeParameters, own.directives, own.members⟩⟩

namespace Render

def commentLines (summary? : Option String) : List Points :=
  match summary? with
  | none => []
  | some summary => ["/// <summary>", "/// " ++ escape summary, "/// </summary>"]

def propertyLines (depth : Nat) (spec : PropertySpec) : List Points :=
  (commentLines spec.shown.summary?).map (Layout.indented depth) ++
    [Layout.indented depth ("public " ++ spec.type ++ " " ++ spec.name),
      Layout.indented depth "\x7b",
      Layout.indented (depth + 1) ("get => this." ++ spec.backingField ++ ";"),
      Layout.indented (depth + 1) "set",
      Layout.indented (depth + 1) "\x7b",
      Layout.indented (depth + 2) ("this." ++ spec.backingField ++ " = value;"),
      Layout.indented (depth + 2) ("this.PropertyChanged?.Invoke(this, new " ++ eventArguments ++
        "(nameof(" ++ spec.name ++ ")));"),
      Layout.indented (depth + 1) "\x7d",
      Layout.indented depth "\x7d"]

def eventText : Points := "public event " ++ eventHandler ++ " PropertyChanged;"

def eventLine (depth : Nat) : Points := Layout.indented depth eventText

/-- The lines of each member: the event first, unless it is inherited, and then the properties. -/
def memberLines (group : TypeGroup) (notification : TypeSymbol) (depth : Nat) :
    List (List Points) :=
  (if group.containing.interfaces.contains notification.metadataName then []
    else [[eventLine depth]]) ++ group.members.map (propertyLines depth)

def typeDepth (group : TypeGroup) : Nat := if group.containing.space = "" then 0 else 1

def spaceOpening (group : TypeGroup) : List Points :=
  header :: if group.containing.space = "" then []
    else ["namespace " ++ group.containing.space, "\x7b"]

def directiveLines (depth : Nat) (usings : List Using) : List Points :=
  if usings.isEmpty then []
  else (usings.map fun directive => Layout.indented depth directive.text) ++ [[]]

def typeHeader (group : TypeGroup) (notification : TypeSymbol) : Points :=
  "partial " ++ group.containing.kind ++ " " ++ group.containing.name ++
    group.containing.typeParameters ++ " : global::" ++ notification.display

def spaceClosing (group : TypeGroup) : List Points :=
  if group.containing.space = "" then [] else ["\x7d"]

theorem lines_of_property (depth : Nat) (spec : PropertySpec) :
    Layout.linesOf depth (property spec) = propertyLines depth spec := by
  have comment : Layout.linesOf depth (summaryLines spec.summary?) =
      (commentLines spec.shown.summary?).map (Layout.indented depth) := by
    unfold PropertySpec.shown summaryLines
    cases spec.summary? with
    | none => rfl
    | some summary =>
        cases blank : summary.toList.all Text.isBlank <;>
          simp [Option.filter, blank, commentLines, Layout.linesOf, Layout.lines]
  rw [property, Layout.lines_of_append, comment]
  simp [propertyLines, Layout.linesOf, Layout.lines]

theorem lines_of_separated (depth : Nat) (members : List (List Layout)) :
    Layout.linesOf depth (separated members) =
      [[]].intercalate (members.map (Layout.linesOf depth)) := by
  induction members with
  | nil => rfl
  | cons member rest induction =>
      cases rest with
      | nil => rw [separated, List.map_singleton, List.intercalate_singleton]
      | cons next more =>
          have apart : next :: more = [] → False := List.cons_ne_nil _ _
          rw [separated, Layout.lines_of_append, Layout.linesOf, induction, List.map_cons,
            List.map_cons, List.map_cons, List.intercalate_cons_cons, List.append_assoc]
          · rfl
          · exact apart

theorem lines_of_members (group : TypeGroup) (notification : TypeSymbol) (depth : Nat) :
    (membersOf group notification).map (Layout.linesOf depth) =
      memberLines group notification depth := by
  unfold membersOf memberLines
  dsimp only
  rw [List.map_append, List.map_map]
  congr 1
  · split <;> rfl
  · exact List.map_congr_left fun spec _ => lines_of_property depth spec

theorem lines_of_directives (depth : Nat) (usings : List Using) :
    Layout.linesOf depth (directives usings) = directiveLines depth usings := by
  have texts (usings : List Using) :
      Layout.linesOf depth (usings.map fun directive => .line directive.text) =
        usings.map fun directive => Layout.indented depth directive.text := by
    induction usings with
    | nil => rfl
    | cons first rest induction =>
        rw [List.map_cons, Layout.linesOf, induction]
        rfl
  unfold directives directiveLines
  split
  · rfl
  · rw [Layout.lines_of_append, texts]
    rfl

theorem lines_of_declaration (depth : Nat) (group : TypeGroup) (notification : TypeSymbol) :
    Layout.linesOf depth [declaration group notification] =
      Layout.indented depth (typeHeader group notification) :: Layout.indented depth "\x7b" ::
        ([[]].intercalate (memberLines group notification (depth + 1)) ++
          [Layout.indented depth "\x7d"]) := by
  rw [← lines_of_members, ← lines_of_separated, Layout.linesOf, Layout.linesOf, List.append_nil]
  rfl

def fragmentLines (group : TypeGroup) (notification : TypeSymbol) (members : List (List Points)) :
    List Points :=
  spaceOpening group ++ (directiveLines (typeDepth group) group.usings ++
    Layout.indented (typeDepth group) (typeHeader group notification) ::
      Layout.indented (typeDepth group) "\x7b" ::
        ([[]].intercalate members ++
          Layout.indented (typeDepth group) "\x7d" :: spaceClosing group))

theorem lines_of_layout (group : TypeGroup) (notification : TypeSymbol) :
    Layout.linesOf 0 (layout group notification) =
      fragmentLines group notification
        (memberLines group notification (typeDepth group + 1)) := by
  unfold fragmentLines
  unfold layout spaceOpening spaceClosing typeDepth
  dsimp only
  rw [Layout.linesOf, Layout.lines, Layout.indented_zero, List.singleton_append]
  by_cases isGlobal : group.containing.space = ""
  · rw [if_pos isGlobal, if_pos isGlobal, if_pos isGlobal, if_pos isGlobal,
      Layout.lines_of_append, lines_of_directives, lines_of_declaration]
    rfl
  · rw [if_neg isGlobal, if_neg isGlobal, if_neg isGlobal, if_neg isGlobal, Layout.linesOf,
      Layout.lines, Layout.lines_of_append, lines_of_directives, lines_of_declaration,
      Layout.indented_zero, Layout.indented_zero, Layout.indented_zero, Layout.linesOf]
    simp only [List.append_nil, List.cons_append, List.nil_append, List.append_assoc]

/-- A fragment is the text of its lines. -/
theorem text_of_layout (group : TypeGroup) (notification : TypeSymbol) :
    Layout.text (layout group notification) =
      Layout.ended (fragmentLines group notification
        (memberLines group notification (typeDepth group + 1))) := by
  rw [Layout.text, lines_of_layout, Layout.intercalate_eq_ended]
  exact List.append_ne_nil_of_left_ne_nil (List.cons_ne_nil _ _) _

section Surrogates

variable {index : Fin 0x800}

theorem surrogate_in_property {depth : Nat} {spec : PropertySpec} :
    (∃ line ∈ propertyLines depth spec, .surrogate index ∈ line) ↔ .surrogate index ∈ spec.name := by
  have comment : ∀ line ∈ commentLines spec.shown.summary?, .surrogate index ∉ line := by
    unfold commentLines
    split <;> simp
  unfold propertyLines
  simp only [List.mem_append, List.mem_map, or_and_right, exists_or, exists_exists_and_eq_and,
    List.mem_cons, List.not_mem_nil, or_false, exists_eq_left, Layout.surrogate_in_indented]
  constructor
  · rintro (⟨line, listed, inside⟩ | shown)
    · exact absurd inside (comment line listed)
    · simpa using shown
  · intro inside
    exact .inr (.inl (by simp [inside]))

theorem surrogate_in_lines (group : TypeGroup) (notification : TypeSymbol)
    (members : List (List Points)) :
    (∃ line ∈ fragmentLines group notification members, .surrogate index ∈ line) ↔
      ∃ member ∈ members, ∃ line ∈ member, .surrogate index ∈ line := by
  have opening : ∀ line ∈ spaceOpening group, .surrogate index ∉ line := by
    unfold spaceOpening
    split <;> simp
  have directive : ∀ line ∈ directiveLines (typeDepth group) group.usings,
      .surrogate index ∉ line := by
    unfold directiveLines
    split <;> simp +contextual [or_imp, Layout.surrogate_in_indented]
  have closing : ∀ line ∈ spaceClosing group, .surrogate index ∉ line := by
    unfold spaceClosing
    split <;> simp
  have apart {line : Points} (inside : .surrogate index ∈ line) : line ∉ [[]] := by
    intro listed
    rw [List.mem_singleton.mp listed] at inside
    exact List.not_mem_nil inside
  constructor
  · rintro ⟨line, listed, inside⟩
    simp only [fragmentLines, List.mem_append, List.mem_cons] at listed
    obtain opens | directs | rfl | rfl | member | rfl | closes := listed
    · exact absurd inside (opening line opens)
    · exact absurd inside (directive line directs)
    · simp [Layout.surrogate_in_indented, typeHeader] at inside
    · simp [Layout.surrogate_in_indented] at inside
    · obtain ⟨lines, listed, shown⟩ := (Layout.mem_intercalate (apart inside)).mp member
      exact ⟨lines, listed, line, shown, inside⟩
    · simp [Layout.surrogate_in_indented] at inside
    · exact absurd inside (closing line closes)
  · rintro ⟨member, listed, line, shown, inside⟩
    have stands := (Layout.mem_intercalate (apart inside)).mpr ⟨member, listed, shown⟩
    exact ⟨line, by simp [fragmentLines, stands], inside⟩

/-- A surrogate gets into a fragment with the name of a property, and in no other way. -/
theorem surrogate_in_fragment (group : TypeGroup) (notification : TypeSymbol) :
    .surrogate index ∈ Layout.text (layout group notification) ↔
      ∃ spec ∈ group.members, .surrogate index ∈ spec.name := by
  have members : (∃ member ∈ memberLines group notification (typeDepth group + 1),
      ∃ line ∈ member, .surrogate index ∈ line) ↔
        ∃ spec ∈ group.members, .surrogate index ∈ spec.name := by
    unfold memberLines
    simp only [List.mem_append, or_and_right, exists_or, List.mem_map, exists_exists_and_eq_and,
      surrogate_in_property]
    apply or_iff_right
    split
    · simp
    · simp [eventLine, Layout.surrogate_in_indented, eventText]
  rw [text_of_layout, ← members, ← surrogate_in_lines group notification]
  simp [Layout.ended]

end Surrogates

section Neat

variable {spec : PropertySpec} {group : TypeGroup} {notification : TypeSymbol}

theorem escape_unbroken {text : String} (unbroken : '\n' ∉ text.toList) :
    .character '\n' ∉ Points.ofText (escape text) := by
  rw [Points.character_mem_of_text, escape, String.toList_ofList, List.mem_flatMap]
  rintro ⟨character, inside, broken⟩
  rcases Xml.escape_cases character with ⟨-, shown⟩ | ⟨-, shown⟩ | ⟨-, shown⟩ | ⟨-, -, -, shown⟩
  · exact absurd (shown ▸ broken) (by decide)
  · exact absurd (shown ▸ broken) (by decide)
  · exact absurd (shown ▸ broken) (by decide)
  · rw [shown, List.mem_singleton] at broken
    exact unbroken (broken ▸ inside)

theorem neat_comment {summary? : Option String}
    (unbroken : ∀ summary ∈ summary?, '\n' ∉ summary.toList) :
    Layout.AreNeat (summaryLines summary?) := by
  unfold summaryLines
  cases summary? with
  | none => exact trivial
  | some summary =>
      have start : Layout.Begun "/// " := ⟨⟨'/', rfl, by decide⟩, by decide⟩
      have shown := start.append (escape_unbroken (unbroken summary rfl))
      have opening : Layout.Begun "/// <summary>" := ⟨⟨'/', rfl, by decide⟩, by decide⟩
      have closing : Layout.Begun "/// </summary>" := ⟨⟨'/', rfl, by decide⟩, by decide⟩
      dsimp only
      split
      · exact trivial
      · exact ⟨opening.neat, shown.neat, closing.neat, trivial⟩

theorem neat_property (onLines : spec.OnLines) : Layout.AreNeat (property spec) := by
  have declared : Layout.Begun ("public " ++ spec.type ++ " " ++ spec.name) := by
    have start : Layout.Begun "public " := ⟨⟨'p', rfl, by decide⟩, by decide⟩
    exact ((start.append_text onLines.type).append (by decide)).append onLines.name
  have getter : Layout.Begun ("get => this." ++ spec.backingField ++ ";") := by
    have start : Layout.Begun "get => this." := ⟨⟨'g', rfl, by decide⟩, by decide⟩
    exact (start.append_text onLines.backingField).append (by decide)
  have setter : Layout.Begun "set" := ⟨⟨'s', rfl, by decide⟩, by decide⟩
  have assigned : Layout.Begun ("this." ++ spec.backingField ++ " = value;") := by
    have start : Layout.Begun "this." := ⟨⟨'t', rfl, by decide⟩, by decide⟩
    exact (start.append_text onLines.backingField).append (by decide)
  have raised : Layout.Begun ("this.PropertyChanged?.Invoke(this, new " ++ eventArguments ++
      "(nameof(" ++ spec.name ++ ")));") := by
    have start : Layout.Begun "this.PropertyChanged?.Invoke(this, new " :=
      ⟨⟨'t', rfl, by decide⟩, by decide⟩
    have whole := (start.append_text (show '\n' ∉ eventArguments.toList by decide)).append_text
      (show '\n' ∉ "(nameof(".toList by decide)
    exact (whole.append onLines.name).append (by decide)
  rw [property, Layout.are_neat_append]
  refine ⟨neat_comment onLines.summary, ?_, trivial⟩
  refine ⟨declared.neat, declared.ne_nil, getter.neat, ?_, trivial⟩
  exact ⟨setter.neat, setter.ne_nil, assigned.neat, raised.neat, trivial⟩

theorem neat_separated {members : List (List Layout)}
    (each : ∀ member ∈ members, Layout.AreNeat member) : Layout.AreNeat (separated members) := by
  induction members with
  | nil => exact trivial
  | cons member rest induction =>
      obtain ⟨own, others⟩ := List.forall_mem_cons.mp each
      cases rest with
      | nil => exact own
      | cons next more =>
          rw [separated, Layout.are_neat_append]
          · exact ⟨own, ⟨by decide, by decide, by decide, by decide⟩, induction others⟩
          · exact List.cons_ne_nil _ _

theorem neat_members (onLines : group.OnLines) :
    ∀ member ∈ membersOf group notification, Layout.AreNeat member := by
  unfold membersOf
  intro member listed
  rcases List.mem_append.mp listed with isEvent | isProperty
  · have start : Layout.Begun "public event " := ⟨⟨'p', rfl, by decide⟩, by decide⟩
    have begun := (start.append_text (show '\n' ∉ eventHandler.toList by decide)).append_text
      (show '\n' ∉ " PropertyChanged;".toList by decide)
    split at isEvent
    · cases isEvent
    · rw [List.mem_singleton.mp isEvent]
      exact ⟨begun.neat, trivial⟩
  · obtain ⟨spec, own, rfl⟩ := List.mem_map.mp isProperty
    exact neat_property (onLines.members spec own)

theorem neat_directives (onLines : group.OnLines) : Layout.AreNeat (directives group.usings) := by
  unfold directives
  split
  · exact trivial
  · rw [Layout.are_neat_append, Layout.are_neat_iff, List.forall_mem_map]
    refine ⟨fun directive listed => ?_, ⟨by decide, by decide, by decide, by decide⟩, trivial⟩
    exact (onLines.directives directive listed).1

theorem neat_layout (onLines : group.OnLines) (named : '\n' ∉ notification.display.toList) :
    Layout.AreNeat (layout group notification) := by
  have type : Layout.Begun (typeHeader group notification) := by
    have start : Layout.Begun "partial " := ⟨⟨'p', rfl, by decide⟩, by decide⟩
    have name := ((start.append_text onLines.kind).append_text
      (show '\n' ∉ " ".toList by decide)).append_text onLines.name
    exact ((name.append_text onLines.typeParameters).append_text
      (show '\n' ∉ " : global::".toList by decide)).append_text named
  have body : Layout.AreNeat (directives group.usings ++ [declaration group notification]) := by
    rw [Layout.are_neat_append]
    exact ⟨neat_directives onLines,
      ⟨type.neat, type.ne_nil, neat_separated (neat_members onLines)⟩, trivial⟩
  have first : Layout.Begun header := ⟨⟨'/', rfl, by decide⟩, by decide⟩
  have space : Layout.Begun ("namespace " ++ group.containing.space) := by
    have start : Layout.Begun "namespace " := ⟨⟨'n', rfl, by decide⟩, by decide⟩
    exact start.append_text onLines.space
  unfold layout
  dsimp only
  refine ⟨first.neat, ?_⟩
  split
  · exact body
  · exact ⟨⟨space.neat, space.ne_nil, body⟩, trivial⟩

end Neat

section Lossless

variable {spec other : PropertySpec} {depth : Nat}

theorem escape_character_inj {first second : Char} {front back : List Char}
    (same : escapeCharacter first ++ front = escapeCharacter second ++ back) :
    first = second ∧ front = back := by
  rcases Xml.escape_cases first with ⟨own, shown⟩ | ⟨own, shown⟩ | ⟨own, shown⟩ |
      ⟨noAmp, noLess, noGreater, shown⟩ <;>
    rcases Xml.escape_cases second with ⟨other, alsoShown⟩ | ⟨other, alsoShown⟩ |
        ⟨other, alsoShown⟩ | ⟨otherAmp, otherLess, otherGreater, alsoShown⟩ <;>
      rw [shown, alsoShown] at same <;>
        grind

theorem escape_character_ne_nil (character : Char) : escapeCharacter character ≠ [] := by
  rcases Xml.escape_cases character with ⟨-, shown⟩ | ⟨-, shown⟩ | ⟨-, shown⟩ | ⟨-, -, -, shown⟩ <;>
    rw [shown] <;> exact List.cons_ne_nil _ _

/-- A text is told from its escaped form. -/
theorem escape_inj {text other : String} (same : escape text = escape other) : text = other := by
  have chars (first second : List Char)
      (same : first.flatMap escapeCharacter = second.flatMap escapeCharacter) :
      first = second := by
    induction first generalizing second with
    | nil =>
        cases second with
        | nil => rfl
        | cons another more =>
            rw [List.flatMap_nil, List.flatMap_cons] at same
            exact absurd (List.append_eq_nil_iff.mp same.symm).1 (escape_character_ne_nil another)
    | cons character rest induction =>
        cases second with
        | nil =>
            rw [List.flatMap_nil, List.flatMap_cons] at same
            exact absurd (List.append_eq_nil_iff.mp same).1 (escape_character_ne_nil character)
        | cons another more =>
            rw [List.flatMap_cons, List.flatMap_cons] at same
            obtain ⟨rfl, later⟩ := escape_character_inj same
            rw [induction more later]
  exact String.toList_inj.mp (chars _ _ (String.ofList_inj.mp same))

theorem comment_lines_inj {summary? other? : Option String}
    (same : commentLines summary? = commentLines other?) : summary? = other? := by
  cases summary? with
  | none =>
      cases other? with
      | none => rfl
      | some other => cases same
  | some summary =>
      cases other? with
      | none => cases same
      | some other =>
          have line := (List.cons_eq_cons.mp (List.cons_eq_cons.mp same).2).1
          rw [escape_inj (Points.of_text_inj.mp (List.append_cancel_left line))]

theorem property_lines_inj (same : propertyLines depth spec = propertyLines depth other) :
    spec.shown = other.shown := by
  obtain ⟨comment, declared⟩ := List.append_inj' same rfl
  have summaries : spec.shown.summary? = other.shown.summary? :=
    comment_lines_inj ((List.map_inj_right fun _ _ => Layout.indented_inj.mp).mp comment)
  simp only [List.cons.injEq, true_and, and_true, Layout.indented_inj] at declared
  obtain ⟨declaration, getter, -, raised⟩ := declared
  have names : spec.name = other.name :=
    List.append_cancel_left (List.append_cancel_right raised)
  have fields : spec.backingField = other.backingField :=
    Points.of_text_inj.mp (List.append_cancel_left (List.append_cancel_right getter))
  have types : spec.type = other.type := by
    rw [names, List.append_left_inj, List.append_left_inj, List.append_right_inj] at declaration
    exact Points.of_text_inj.mp declaration
  unfold PropertySpec.shown at summaries ⊢
  dsimp only at summaries
  rw [summaries, names, fields, types]

theorem members_told {first second : List PropertySpec}
    (same : first.map (propertyLines depth) = second.map (propertyLines depth)) :
    first.map PropertySpec.shown = second.map PropertySpec.shown := by
  induction first generalizing second with
  | nil =>
      rw [List.map_nil, eq_comm, List.map_eq_nil_iff] at same
      rw [same]
  | cons spec rest induction =>
      cases second with
      | nil => cases same
      | cons other more =>
          obtain ⟨own, others⟩ := List.cons_eq_cons.mp same
          rw [List.map_cons, List.map_cons, property_lines_inj own, induction others]

variable {group : TypeGroup} {notification : TypeSymbol}

theorem comment_lines_filled (summary? : Option String) : [] ∉ commentLines summary? := by
  cases summary? with
  | none => exact List.not_mem_nil
  | some summary => simp [commentLines]

theorem property_lines_filled (depth : Nat) (spec : PropertySpec) :
    [] ∉ propertyLines depth spec := by
  have filled (depth : Nat) {text : Points} (some : text ≠ []) : [] ≠ Layout.indented depth text :=
    (Layout.indented_ne_nil depth some).symm
  unfold propertyLines
  simp only [List.mem_append, List.mem_map, List.mem_cons, List.not_mem_nil, or_false, not_or,
    not_exists, not_and]
  refine ⟨fun text listed empty => ?_, filled _ (by simp), filled _ (by decide), filled _ (by simp),
    filled _ (by decide), filled _ (by decide), filled _ (by simp), filled _ (by simp),
    filled _ (by decide), filled _ (by decide)⟩
  exact filled depth (fun none => comment_lines_filled _ (none ▸ listed)) empty.symm

theorem member_lines_parted (group : TypeGroup) (notification : TypeSymbol) (depth : Nat) :
    ∀ member ∈ memberLines group notification depth, member ≠ [] ∧ [] ∉ member := by
  intro member listed
  rcases List.mem_append.mp listed with isEvent | isProperty
  · split at isEvent
    · cases isEvent
    · rw [List.mem_singleton.mp isEvent, List.mem_singleton]
      exact ⟨List.cons_ne_nil _ _, (Layout.indented_ne_nil depth (by decide)).symm⟩
  · obtain ⟨spec, -, rfl⟩ := List.mem_map.mp isProperty
    refine ⟨?_, property_lines_filled depth spec⟩
    exact List.append_ne_nil_of_right_ne_nil _ (List.cons_ne_nil _ _)

/-- What is in front of the first occurrence of a mark is told from what is behind it. -/
theorem append_marked_inj {α : Type} {mark : α} {front other back more : List α}
    (clean : mark ∉ front) (alsoClean : mark ∉ other)
    (same : front ++ mark :: back = other ++ mark :: more) : front = other ∧ back = more := by
  induction front generalizing other with
  | nil =>
      cases other with
      | nil => exact ⟨rfl, (List.cons_eq_cons.mp same).2⟩
      | cons first rest =>
          exact absurd (List.cons_eq_cons.mp same).1 fun own => alsoClean (own ▸ List.mem_cons_self)
  | cons first rest induction =>
      cases other with
      | nil =>
          exact absurd (List.cons_eq_cons.mp same).1 fun own => clean (own ▸ List.mem_cons_self)
      | cons another others =>
          obtain ⟨rfl, later⟩ := List.cons_eq_cons.mp same
          rw [List.mem_cons, not_or] at clean alsoClean
          obtain ⟨rfl, rfl⟩ := induction clean.2 alsoClean.2 later
          exact ⟨rfl, rfl⟩

theorem directive_texts_filled {usings : List Using}
    (neat : ∀ directive ∈ usings, Layout.Neat directive.text ∧ directive.text ≠ "") :
    [] ∉ usings.map fun directive => Layout.indented depth directive.text := by
  intro inside
  obtain ⟨directive, listed, empty⟩ := List.mem_map.mp inside
  have filled := mt Points.of_text_eq_nil.mp (neat directive listed).2
  exact Layout.indented_ne_nil depth filled empty

/-- The directives end with the first empty line, and there are none if a brace is met before it. -/
theorem directive_lines_inj {usings others : List Using} {type : Points} {rest more : List Points}
    (neat : ∀ directive ∈ usings, Layout.Neat directive.text ∧ directive.text ≠ "")
    (alsoNeat : ∀ directive ∈ others, Layout.Neat directive.text ∧ directive.text ≠ "")
    (same : directiveLines depth usings ++ type :: Layout.indented depth "\x7b" :: rest =
      directiveLines depth others ++ type :: Layout.indented depth "\x7b" :: more) :
    usings.map (·.text) = others.map (·.text) ∧ rest = more := by
  -- behind the line of the type comes a brace, and behind the first directive something else does
  have noneOfSome {first : Using} {later : List Using} {rest more : List Points}
      (neat : ∀ directive ∈ first :: later, Layout.Neat directive.text ∧ directive.text ≠ "") :
      type :: Layout.indented depth "\x7b" :: rest ≠
        directiveLines depth (first :: later) ++ more := by
    intro same
    have second := (List.cons_eq_cons.mp same).2
    cases later with
    | nil =>
        exact Layout.indented_ne_nil depth (by decide) (List.cons_eq_cons.mp second).1
    | cons next further =>
        have brace := Layout.indented_inj.mp (List.cons_eq_cons.mp second).1
        exact (neat next (by simp)).1.noOpening brace.symm
  cases usings with
  | nil =>
      cases others with
      | nil => exact ⟨rfl, (List.cons_eq_cons.mp (List.cons_eq_cons.mp same).2).2⟩
      | cons other others => exact absurd same (noneOfSome alsoNeat)
  | cons first later =>
      cases others with
      | nil => exact absurd same.symm (noneOfSome neat)
      | cons other others =>
          unfold directiveLines at same
          rw [if_neg (by simp), if_neg (by simp), List.append_assoc, List.append_assoc,
            List.singleton_append, List.singleton_append] at same
          obtain ⟨texts, below⟩ := append_marked_inj (directive_texts_filled neat)
            (directive_texts_filled alsoNeat) same
          have same : (first :: later).map (·.text) = (other :: others).map (·.text) := by
            apply (List.map_inj_right (f := fun text : String => Layout.indented depth text) _).mp
            · rw [List.map_map, List.map_map]
              exact texts
            · exact fun _ _ own => Points.of_text_inj.mp (Layout.indented_inj.mp own)
          exact ⟨same, (List.cons_eq_cons.mp (List.cons_eq_cons.mp below).2).2⟩

end Lossless

end Render

/-- Lines of a fragment: nested as the braces say, with a closing brace as the last one, and inside
of the braces of the type the members, with one empty line between them. -/
structure TypeGroup.ListedBy (group : TypeGroup) (notification : TypeSymbol) (lines : List Points) :
    Prop where
  nested : Layout.Nested 0 lines
  closed : lines.getLast? = some (Points.ofText "\x7d")
  /-- The event, if there is one, comes before all properties. -/
  members : ∃ above below, lines = above ++
      [[]].intercalate (Render.memberLines group notification (Render.typeDepth group + 1)) ++
        below ∧
    above.getLast?.map Layout.content = some (Points.ofText "\x7b") ∧ below.head?.map Layout.content = some (Points.ofText "\x7d")
  parted : ∀ member ∈ Render.memberLines group notification (Render.typeDepth group + 1),
    member ≠ [] ∧ [] ∉ member

namespace TypeGroup

variable {group other : TypeGroup} {notification : TypeSymbol}

theorem lines_around (group : TypeGroup) (notification : TypeSymbol) :
    ∃ above below, Layout.linesOf 0 (Render.layout group notification) =
        above ++ [[]].intercalate
          (Render.memberLines group notification (Render.typeDepth group + 1)) ++ below ∧
      above.getLast? = some (Layout.indented (Render.typeDepth group) "\x7b") ∧
      below.head? = some (Layout.indented (Render.typeDepth group) "\x7d") ∧
      below.getLast? = some (Points.ofText "\x7d") := by
  refine ⟨Render.spaceOpening group ++
      (Render.directiveLines (Render.typeDepth group) group.usings ++
        [Layout.indented (Render.typeDepth group) (Render.typeHeader group notification)]) ++
        [Layout.indented (Render.typeDepth group) "\x7b"],
    Layout.indented (Render.typeDepth group) "\x7d" :: Render.spaceClosing group, ?_,
    List.getLast?_concat, rfl, ?_⟩
  · rw [Render.lines_of_layout, Render.fragmentLines]
    simp only [List.append_assoc, List.cons_append, List.nil_append]
  · unfold Render.typeDepth Render.spaceClosing
    by_cases isGlobal : group.containing.space = ""
    · rw [if_pos isGlobal, if_pos isGlobal, Layout.indented_zero]
      rfl
    · rw [if_neg isGlobal, if_neg isGlobal]
      rfl

/-- The lines of a group on lines are a listing of it. -/
theorem OnLines.listed (onLines : group.OnLines) (named : '\n' ∉ notification.display.toList) :
    group.ListedBy notification (Layout.linesOf 0 (Render.layout group notification)) := by
  obtain ⟨above, below, whole, opening, closing, last⟩ := lines_around group notification
  constructor
  case nested =>
    have nested := Layout.nested_lines_of _ (Render.neat_layout onLines named) _ _ Layout.nested_nil
    rwa [List.append_nil] at nested
  case closed => rw [whole, List.getLast?_append, last, Option.some_or]
  case members =>
    have brace {text : Points} (flush : text.head? ≠ some (.character ' ')) (filled : text ≠ []) :
        Layout.content (Layout.indented (Render.typeDepth group) text) = text :=
      (Layout.indented_parts _ flush filled).2
    refine ⟨above, below, whole, ?_, ?_⟩
    · rw [opening, Option.map_some, brace (by decide) (by decide)]
    · rw [closing, Option.map_some, brace (by decide) (by decide)]
  case parted => exact Render.member_lines_parted group notification _

theorem OnLines.split (onLines : group.OnLines) (named : '\n' ∉ notification.display.toList) :
    (Layout.text (Render.layout group notification)).splitOn (.character '\n') =
      Layout.linesOf 0 (Render.layout group notification) ++ [[]] :=
  Layout.split_text (Layout.lines_of_unbroken _ (Render.neat_layout onLines named) 0)
    (List.cons_ne_nil _ _)

theorem OnLines.text_ne (onLines : group.OnLines) (otherOnLines : other.OnLines)
    (named : '\n' ∉ notification.display.toList)
    (counts : (Layout.linesOf 0 (Render.layout group notification)).length ≠
      (Layout.linesOf 0 (Render.layout other notification)).length) :
    Layout.text (Render.layout group notification) ≠
      Layout.text (Render.layout other notification) := by
  intro same
  have lines := congrArg (·.splitOn (.character '\n')) same
  rw [onLines.split named, otherOnLines.split named] at lines
  exact counts (congrArg List.length (List.append_cancel_right lines))

theorem OnLines.told (onLines : group.OnLines) (otherOnLines : other.OnLines)
    (type : other.containing = group.containing)
    (same : Layout.linesOf 0 (Render.layout other notification) =
      Layout.linesOf 0 (Render.layout group notification)) :
    other.usings.map (·.text) = group.usings.map (·.text) ∧
      other.members.map PropertySpec.shown = group.members.map PropertySpec.shown := by
  have opening : Render.spaceOpening other = Render.spaceOpening group := by
    unfold Render.spaceOpening
    rw [type]
  have depth : Render.typeDepth other = Render.typeDepth group := by
    unfold Render.typeDepth
    rw [type]
  have header : Render.typeHeader other notification = Render.typeHeader group notification := by
    unfold Render.typeHeader
    rw [type]
  have closing : Render.spaceClosing other = Render.spaceClosing group := by
    unfold Render.spaceClosing
    rw [type]
  rw [Render.lines_of_layout, Render.lines_of_layout, Render.fragmentLines, Render.fragmentLines,
    opening, depth, header, closing] at same
  obtain ⟨directives, inside⟩ := Render.directive_lines_inj otherOnLines.directives
    onLines.directives (List.append_cancel_left same)
  refine ⟨directives, ?_⟩
  have members := Layout.parts_inj (Render.member_lines_parted other notification _)
    (Render.member_lines_parted group notification _) (List.append_cancel_right inside)
  unfold Render.memberLines at members
  rw [type] at members
  exact Render.members_told (List.append_cancel_left members)

end TypeGroup

/-- The fragment of a top-level type has the lines of a listing of its group, each of which ends
with a line break, and no other group of the type has the same text, but for comments with nothing
to show. -/
theorem fragment_lists_group {group : TypeGroup} {notification : TypeSymbol}
    (topLevel : group.containing.isTopLevel = true) (onLines : group.OnLines)
    (named : '\n' ∉ notification.display.toList) :
    ∃ text lines, render notification group = .text text ∧
      text.splitOn (.character '\n') = lines ++ [[]] ∧
      group.ListedBy notification lines ∧
      ∀ other : TypeGroup, other.containing = group.containing → other.OnLines →
        render notification other = .text text →
          other.usings.map (·.text) = group.usings.map (·.text) ∧
            other.members.map PropertySpec.shown = group.members.map PropertySpec.shown := by
  have rendered {group : TypeGroup} (topLevel : group.containing.isTopLevel = true) :
      render notification group = .text (Layout.text (Render.layout group notification)) :=
    if_pos topLevel
  refine ⟨_, _, rendered topLevel, onLines.split named, onLines.listed named, ?_⟩
  intro other type otherOnLines same
  rw [rendered (type ▸ topLevel)] at same
  have texts := congrArg (·.splitOn (.character '\n')) (Rendering.text.inj same)
  rw [otherOnLines.split named, onLines.split named] at texts
  exact onLines.told otherOnLines type (List.append_cancel_right texts)

section Samples

def commentedPair : TypeGroup :=
  { containing :=
      { TypeSymbol.external "N.M.T`1" "class" with
        typeParameters := "<K>"
        locations := [⟨"F0.cs", 0, 0⟩]
        isExternal := false }
    members := [⟨"A", "_a", "int", some "a < b"⟩, ⟨"B", "_b", "V?", some ""⟩]
    usings := [
      ⟨"X", none, false, false, "using X;"⟩,
      ⟨"X.Y", some "V", false, false, "using V = X.Y;"⟩] }

def changeNotification : TypeSymbol :=
  .external "System.ComponentModel.INotifyPropertyChanged" "interface"

theorem fragment_lists_group_commented :
    commentedPair.containing.isTopLevel = true ∧ commentedPair.OnLines ∧
      ∃ text lines, render changeNotification commentedPair = .text text ∧
        text.splitOn (.character '\n') = lines ++ [[]] ∧
        commentedPair.ListedBy changeNotification lines ∧
        ∀ other : TypeGroup, other.containing = commentedPair.containing → other.OnLines →
          render changeNotification other = .text text →
            other.usings.map (·.text) = ["using X;", "using V = X.Y;"] ∧
              other.members.map PropertySpec.shown =
                [⟨"A", "_a", "int", some "a < b"⟩, ⟨"B", "_b", "V?", none⟩] := by
  have onLines : commentedPair.OnLines := by decide +kernel
  have topLevel : commentedPair.containing.isTopLevel = true := rfl
  have named : '\n' ∉ changeNotification.display.toList := by decide +kernel
  obtain ⟨text, lines, rendered, split, listed, told⟩ :=
    fragment_lists_group topLevel onLines named
  refine ⟨topLevel, onLines, text, lines, rendered, split, listed, ?_⟩
  intro other type otherOnLines same
  have shown := told other type otherOnLines same
  rwa [show commentedPair.members.map PropertySpec.shown =
    [⟨"A", "_a", "int", some "a < b"⟩, ⟨"B", "_b", "V?", none⟩] by decide +kernel] at shown

end Samples

end PropertyGen
