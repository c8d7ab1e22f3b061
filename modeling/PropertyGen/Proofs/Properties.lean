import PropertyGen.Proofs.Events

/-!
The names of the properties of a fragment. They are those of the fields of its type, one by one, so
two of them are the same if two fields ask for one name.
-/

namespace PropertyGen

namespace Names

def stem (identifier : String) : List Char := identifier.toList.dropWhile (· = '_')

/-- One character, or the two cases of a letter. -/
def SameLetter (first second : Char) : Prop :=
  first = second ∨
    ('a' ≤ first ∧ first ≤ 'z' ∧ first.toNat = second.toNat + 32) ∨
    ('a' ≤ second ∧ second ≤ 'z' ∧ second.toNat = first.toNat + 32)

def SameButCase : List Char → List Char → Prop
  | first :: rest, second :: more => SameLetter first second ∧ rest = more
  | [], [] => True
  | _, _ => False

theorem upper_to_nat (character : Char) :
    (Text.upperAscii character).toNat =
      if 'a' ≤ character ∧ character ≤ 'z' then character.toNat - 32 else character.toNat := by
  unfold Text.upperAscii
  by_cases isLower : 'a' ≤ character ∧ character ≤ 'z'
  · rw [if_pos isLower, if_pos isLower]
    have upper : character.toNat ≤ 122 := isLower.2
    have valid : (character.toNat - 32).isValidChar := by
      left
      omega
    unfold Char.ofNat
    rw [dif_pos valid]
    rfl
  · rw [if_neg isLower, if_neg isLower]

theorem upper_eq_iff {first second : Char} :
    Text.upperAscii first = Text.upperAscii second ↔ SameLetter first second := by
  have least (character : Char) : 'a' ≤ character ↔ 97 ≤ character.toNat := Iff.rfl
  have most (character : Char) : character ≤ 'z' ↔ character.toNat ≤ 122 := Iff.rfl
  unfold SameLetter
  rw [← Char.toNat_inj, ← Char.toNat_inj, upper_to_nat, upper_to_nat]
  simp only [least, most]
  split
  · split
    · omega
    · omega
  · split
    · omega
    · omega

theorem capitalized_eq_iff {first second : List Char} :
    capitalized first = capitalized second ↔ SameButCase first second := by
  cases first with
  | nil =>
      cases second with
      | nil => simp [capitalized, SameButCase]
      | cons character rest => simp [capitalized, SameButCase]
  | cons character rest =>
      cases second with
      | nil => simp [capitalized, SameButCase]
      | cons other more => rw [capitalized, capitalized, List.cons.injEq, upper_eq_iff, SameButCase]

end Names

/-- Two fields ask for properties of one name. -/
def ResolvedField.SharesName (first second : ResolvedField) : Prop :=
  match first.override?, second.override? with
  | some name, some other => name = other
  | some name, none => name = Names.propertyName second.identifier none
  | none, some other => Names.propertyName first.identifier none = other
  | none, none => Names.SameButCase (Names.stem first.identifier) (Names.stem second.identifier)

theorem ResolvedField.shares_name_iff {first second : ResolvedField} :
    first.SharesName second ↔ first.derivedName = second.derivedName := by
  unfold SharesName derivedName
  cases first.override? with
  | some name =>
      cases second.override? with
      | some other => rfl
      | none => rfl
  | none =>
      cases second.override? with
      | some other => rfl
      | none =>
          rw [← Names.capitalized_eq_iff]
          exact String.ofList_inj.symm.trans Points.of_text_inj.symm

namespace Render

/-- The text of a fragment has properties of some names, and in front of them the event at most. -/
def PropertiesNamed (group : TypeGroup) (notification : TypeSymbol) (text : Points)
    (names : List Points) : Prop :=
  ∃ (events : List (List Points)) (specs : List PropertySpec),
    text = Layout.ended (fragmentLines group notification
      (events ++ specs.map (propertyLines (typeDepth group + 1)))) ∧
    (events = [] ∨ events = [[eventLine (typeDepth group + 1)]]) ∧ specs.map (·.name) = names

theorem properties_named (group : TypeGroup) (notification : TypeSymbol) :
    PropertiesNamed group notification (Layout.text (layout group notification))
      (group.members.map (·.name)) := by
  refine ⟨_, group.members, text_of_layout group notification, ?_, rfl⟩
  by_cases inherited : group.containing.interfaces.contains notification.metadataName = true
  · exact .inl (if_pos inherited)
  · exact .inr (if_neg inherited)

end Render

def shownFields (fields : List ResolvedField) (type : String) : List ResolvedField :=
  (Grouping.fieldsOf fields type).filter ResolvedField.hasUsableName

theorem ResolvedField.spec_names (fields : List ResolvedField) :
    (fields.filterMap ResolvedField.spec?).map (·.name) =
      (fields.filter ResolvedField.hasUsableName).map ResolvedField.derivedName := by
  induction fields with
  | nil => rfl
  | cons field rest induction =>
      by_cases usable : field.hasUsableName = true
      · have shown : field.spec? = some _ := if_pos usable
        rw [List.filter_cons_of_pos usable, List.filterMap_cons_some shown, List.map_cons,
          List.map_cons, induction]
      · have hidden : field.spec? = none := if_neg usable
        rw [List.filter_cons_of_neg usable, List.filterMap_cons_none hidden, induction]

theorem member_names {fields : List ResolvedField} {group : TypeGroup}
    (listed : group ∈ typeGroups fields) :
    group.members.map (·.name) =
      (shownFields fields group.containing.metadataName).map ResolvedField.derivedName := by
  rw [Grouping.group_members listed]
  exact ResolvedField.spec_names _

/-- The properties of a fragment have the names that the fields of its type ask for, in their order,
so a name occurs twice exactly if two of these fields share it. -/
theorem properties_show_names {sources : List Source} {options : Options}
    {result : GenerationResult} (returned : (generate sources options).outcome = .ok result) :
    ∃ bound fields, BoundIn sources options bound ∧
      (findFields sources options).outcome = .ok fields ∧
      result.fragments = (Marker.key, Points.ofText Marker.text) ::
        (bound.published options fields).map (bound.fragment options) ∧
      ∀ group ∈ bound.published options fields,
        Render.PropertiesNamed group bound.notification (bound.fragment options group).2
            ((shownFields fields group.containing.metadataName).map ResolvedField.derivedName) ∧
          (((shownFields fields group.containing.metadataName).map
              ResolvedField.derivedName).Nodup ↔
            (shownFields fields group.containing.metadataName).Pairwise
              fun first second => ¬ first.SharesName second) := by
  obtain ⟨bound, fields, own, resolved, fragments⟩ := generated_fragments returned
  refine ⟨bound, fields, own, find_fields_returns.mpr ⟨bound, own, resolved⟩, fragments, ?_⟩
  intro group published
  have names := member_names (Publication.published_subset published)
  refine ⟨names ▸ Render.properties_named group bound.notification, ?_⟩
  rw [List.Nodup, List.pairwise_map]
  simp only [ResolvedField.shares_name_iff, ne_eq]

section Pairs

open Marker (branch token fieldLeaf fieldBranch)

/-- A class with two marked fields, the second of which has one underscore more. -/
def markedPair (letter : String) : Source :=
  { path := "X.cs"
    bytes := Text.Utf8.encode ("class X \x7b [AutoNotify.NotifiableProperty] int _a; "
      ++ "[AutoNotify.NotifiableProperty] int __" ++ letter ++ "; \x7d")
    root :=
      branch "compilation_unit" 0 92 [
        branch "class_declaration" 0 92 [
          token "class" 0 5,
          fieldLeaf "identifier" "name" 6 7,
          fieldBranch "declaration_list" "body" 8 92 [
            token "\x7b" 8 9,
            markedMember 10 2,
            markedMember 50 3,
            token "\x7d" 91 92]]] }

theorem marked_pair_names :
    ((findFields [markedPair "a"] Options.standard).outcome.map fun fields =>
        (typeGroups fields).map fun group =>
          (group.containing.isTopLevel, group.members.map (·.name))).toOption =
      some [(true, [Points.ofText "A", "A"])] ∧
    ((findFields [markedPair "b"] Options.standard).outcome.map fun fields =>
        (typeGroups fields).map fun group =>
          (group.containing.isTopLevel, group.members.map (·.name))).toOption =
      some [(true, [Points.ofText "A", "B"])] := by
  constructor
  · rw [find_fields_knowing (knows_sole (by decide +kernel))]
    decide +kernel
  · rw [find_fields_knowing (knows_sole (by decide +kernel))]
    decide +kernel

/-- Two fields with names of their own. -/
theorem properties_show_names_pair :
    ∃ bound fields, BoundIn [markedPair "b"] Options.standard bound ∧
      ∃ group ∈ bound.published Options.standard fields,
        Render.PropertiesNamed group bound.notification
            (bound.fragment Options.standard group).2 ["A", "B"] ∧
        (shownFields fields group.containing.metadataName).Pairwise
          fun first second => ¬ first.SharesName second := by
  obtain ⟨result, bound, fields, group, returned, own, found, published, names⟩ :=
    sole_published marked_pair_names.2
  obtain ⟨other, otherFields, otherOwn, otherFound, -, shows⟩ := properties_show_names returned
  obtain rfl := bound_in_unique own otherOwn
  obtain rfl := Except.ok.inj (found.symm.trans otherFound)
  obtain ⟨named, distinctly⟩ := shows group published
  rw [← member_names (Publication.published_subset published), names] at named distinctly
  exact ⟨bound, fields, own, group, published, named, distinctly.mp (by decide)⟩

/-- The fragment of the class has two properties of one name, if the fields share it. -/
theorem pair_shares_name :
    (∃ result bound fields, (generate [markedPair "a"] Options.standard).outcome = .ok result ∧
      BoundIn [markedPair "a"] Options.standard bound ∧
      (findFields [markedPair "a"] Options.standard).outcome = .ok fields ∧
      ∃ group ∈ bound.published Options.standard fields,
        bound.fragment Options.standard group ∈ result.fragments ∧
          Render.PropertiesNamed group bound.notification
            (bound.fragment Options.standard group).2 ["A", "A"]) ∧
      ¬ ∀ (sources : List Source) (options : Options) (result : GenerationResult) (bound : Bound)
        (fields : List ResolvedField), (generate sources options).outcome = .ok result →
        BoundIn sources options bound → (findFields sources options).outcome = .ok fields →
        ∀ group ∈ bound.published options fields, ∀ names,
          Render.PropertiesNamed group bound.notification (bound.fragment options group).2 names →
            names.Nodup := by
  obtain ⟨result, bound, fields, group, returned, own, found, published, names⟩ :=
    sole_published marked_pair_names.1
  have named := Render.properties_named group bound.notification
  rw [names] at named
  refine ⟨⟨result, bound, fields, returned, own, found, group, published,
    fragment_generated returned own found published, named⟩, fun always => ?_⟩
  have apart := always _ _ result bound fields returned own found group published _ named
  exact absurd apart (by decide)

end Pairs

end PropertyGen
