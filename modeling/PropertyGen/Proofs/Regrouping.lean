import Mathlib.Data.List.Find
import PropertyGen.Proofs.Grouping
import PropertyGen.Proofs.Publication

/-!
How groups depend on the list of fields. Fields of other types neither change nor move the groups
of a type, and another symbol of the same name for a type changes nothing but that symbol.
-/

namespace PropertyGen

/-- Lists whose elements of each class are alike are permutations of each other. -/
theorem perm_of_classes {α β : Type} [DecidableEq α] [DecidableEq β] (classOf : α → β)
    {first second : List α}
    (same : ∀ class_, first.filter (fun element => classOf element = class_) =
      second.filter fun element => classOf element = class_) :
    first.Perm second := by
  rw [List.perm_iff_count]
  intro element
  have own (elements : List α) :
      (elements.filter fun other => classOf other = classOf element).count element =
        elements.count element :=
    List.count_filter (decide_eq_true rfl)
  rw [← own first, same, own second]

namespace Grouping

section Append

theorem add_field_behind {first : List Draft} {field : ResolvedField}
    (absent : field.typeName ∉ first.map Draft.name) (second : List Draft) :
    addField (first ++ second) field = first ++ addField second field := by
  induction first with
  | nil => rfl
  | cons draft rest induction =>
      have other : draft.name ≠ field.containing.metadataName := by
        intro same
        exact absent (List.mem_cons.mpr (.inl same.symm))
      have later : field.typeName ∉ rest.map Draft.name :=
        fun member => absent (List.mem_cons_of_mem _ member)
      rw [List.cons_append, addField, if_neg other, induction later, List.cons_append]

theorem fold_fields_behind {first : List Draft} {fields : List ResolvedField}
    (absent : ∀ field ∈ fields, field.typeName ∉ first.map Draft.name) (second : List Draft) :
    fields.foldl addField (first ++ second) = first ++ fields.foldl addField second := by
  induction fields generalizing second with
  | nil => rfl
  | cons field rest induction =>
      obtain ⟨own, others⟩ := List.forall_mem_cons.mp absent
      rw [List.foldl_cons, add_field_behind own, induction others, List.foldl_cons]

theorem type_groups_append {first second : List ResolvedField}
    (apart : ∀ field ∈ second, field.typeName ∉ first.map ResolvedField.typeName) :
    typeGroups (first ++ second) = typeGroups first ++ typeGroups second := by
  have absent : ∀ field ∈ second, field.typeName ∉ (drafts first).map Draft.name := by
    intro field member
    rw [(drafted first).names, mem_distinct]
    exact apart field member
  have behind := fold_fields_behind absent []
  rw [List.append_nil] at behind
  unfold typeGroups
  rw [List.foldl_append, show first.foldl addField [] = drafts first from rfl, behind,
    List.filter_append, List.map_append]

theorem conflict_log_append (drafts : List Draft) (first second : List ResolvedField) :
    conflictLog drafts (first ++ second) =
      conflictLog drafts first ++ conflictLog (first.foldl addField drafts) second := by
  induction first generalizing drafts with
  | nil => rfl
  | cons field rest induction =>
      rw [List.cons_append, conflictLog, conflictLog, induction, List.foldl_cons,
        List.append_assoc]

end Append

section Types

variable (type : String)

theorem fields_of_cons (field : ResolvedField) (rest : List ResolvedField) :
    fieldsOf (field :: rest) type =
      if field.typeName = type then field :: fieldsOf rest type else fieldsOf rest type := by
  unfold fieldsOf
  rw [List.filter_cons]
  simp only [decide_eq_true_eq]

theorem add_field_filter (drafts : List Draft) (field : ResolvedField) :
    ((addField drafts field).filter fun draft => draft.name = type) =
      if field.typeName = type then
        addField (drafts.filter fun draft => draft.name = type) field
      else drafts.filter fun draft => draft.name = type := by
  induction drafts with
  | nil =>
      have own : ((Draft.ofType field.containing).add field).name = field.typeName := rfl
      rw [addField, List.filter_singleton, own]
      by_cases same : field.typeName = type
      · simp [same, addField]
      · simp [same]
  | cons draft rest induction =>
      rw [addField]
      by_cases own : draft.name = field.typeName
      · have kept : (draft.add field).name = field.typeName := own
        rw [if_pos (show draft.name = field.containing.metadataName from own), List.filter_cons,
          List.filter_cons, kept, own]
        by_cases same : field.typeName = type
        · rw [if_pos same, if_pos (decide_eq_true same), if_pos (decide_eq_true same), addField,
            if_pos (show draft.name = field.containing.metadataName from own)]
        · have other := decide_eq_false same
          rw [if_neg same, other, if_neg Bool.false_ne_true, if_neg Bool.false_ne_true]
      · rw [if_neg (show ¬ draft.name = field.containing.metadataName from own), List.filter_cons,
          List.filter_cons, induction]
        by_cases same : field.typeName = type
        · rw [if_pos same, if_pos same]
          by_cases listed : draft.name = type
          · exact absurd (listed.trans same.symm) own
          · rw [decide_eq_false listed]
            rfl
        · rw [if_neg same, if_neg same]

theorem drafts_of_type (drafts : List Draft) (fields : List ResolvedField) :
    ((fields.foldl addField drafts).filter fun draft => draft.name = type) =
      (fieldsOf fields type).foldl addField (drafts.filter fun draft => draft.name = type) := by
  induction fields generalizing drafts with
  | nil => rfl
  | cons field rest induction =>
      rw [List.foldl_cons, induction, add_field_filter, fields_of_cons]
      by_cases own : field.typeName = type
      · rw [if_pos own, if_pos own, List.foldl_cons]
      · rw [if_neg own, if_neg own]

theorem group_of_type (fields : List ResolvedField) :
    ((typeGroups fields).filter fun group => group.containing.metadataName = type) =
      typeGroups (fieldsOf fields type) := by
  have own := drafts_of_type type [] fields
  unfold typeGroups
  rw [List.filter_map, List.filter_filter]
  rw [List.filter_nil] at own
  rw [← own, List.filter_filter]
  congr 1
  apply List.filter_congr
  intro draft _
  exact Bool.and_comm _ _

theorem conflicts_of_type (drafts : List Draft) (fields : List ResolvedField) :
    ((conflictLog drafts fields).filter fun conflict => conflict.typeName = type) =
      conflictLog (drafts.filter fun draft => draft.name = type) (fieldsOf fields type) := by
  induction fields generalizing drafts with
  | nil => rfl
  | cons field rest induction =>
      rw [conflictLog, List.filter_append, induction, add_field_filter, fields_of_cons]
      by_cases own : field.typeName = type
      · have draft : draftFor (drafts.filter fun draft => draft.name = type) field =
            draftFor drafts field := by
          unfold draftFor
          rw [List.find?_filter]
          congr 1
          apply List.find?_congr
          intro draft _
          apply decide_eq_decide.mpr
          rw [decide_eq_true_eq, decide_eq_true_eq]
          exact and_iff_right_of_imp fun same => same.trans own
        have visible : conflictAt? (drafts.filter fun draft => draft.name = type) field =
            conflictAt? drafts field := by
          unfold conflictAt?
          rw [draft]
        rw [if_pos own, if_pos own, conflictLog, visible]
        congr 1
        apply List.filter_eq_self.mpr
        intro conflict member
        rw [conflict_at_type (Option.mem_toList.mp member)]
        exact decide_eq_true own
      · rw [if_neg own, if_neg own]
        have none : (conflictAt? drafts field).toList.filter
            (fun conflict => conflict.typeName = type) = [] := by
          apply List.filter_eq_nil_iff.mpr
          intro conflict member same
          rw [conflict_at_type (Option.mem_toList.mp member)] at same
          exact own (of_decide_eq_true same)
        rw [none, List.nil_append]

end Types

section Reordered

variable {first second : List ResolvedField}

/-- If each type keeps its fields in their order, the groups are the same up to their order. -/
theorem type_groups_reordered (same : ∀ type, fieldsOf first type = fieldsOf second type) :
    (typeGroups first).Perm (typeGroups second) := by
  apply perm_of_classes fun group : TypeGroup => group.containing.metadataName
  intro type
  rw [group_of_type, group_of_type, same]

theorem conflict_log_reordered (same : ∀ type, fieldsOf first type = fieldsOf second type) :
    (conflictLog [] first).Perm (conflictLog [] second) := by
  apply perm_of_classes Conflict.typeName
  intro type
  rw [conflicts_of_type, conflicts_of_type, same]

end Reordered

end Grouping

/-! Groups whose types have other symbols of the same names. -/

def ResolvedField.retyped (change : TypeSymbol → TypeSymbol) (field : ResolvedField) :
    ResolvedField :=
  { field with containing := change field.containing }

def Draft.retyped (change : TypeSymbol → TypeSymbol) (draft : Draft) : Draft :=
  { draft with containing := change draft.containing }

def TypeGroup.retyped (change : TypeSymbol → TypeSymbol) (group : TypeGroup) : TypeGroup :=
  { group with containing := change group.containing }

namespace Grouping

variable {change : TypeSymbol → TypeSymbol}

theorem add_field_retyped (names : ∀ symbol, (change symbol).metadataName = symbol.metadataName)
    (drafts : List Draft) (field : ResolvedField) :
    addField (drafts.map (Draft.retyped change)) (field.retyped change) =
      (addField drafts field).map (Draft.retyped change) := by
  induction drafts with
  | nil => rfl
  | cons draft rest induction =>
      have same : (draft.retyped change).name = (field.retyped change).containing.metadataName ↔
          draft.name = field.containing.metadataName := by
        unfold Draft.name Draft.retyped ResolvedField.retyped
        dsimp only
        rw [names, names]
      rw [List.map_cons, addField, addField]
      by_cases own : draft.name = field.containing.metadataName
      · rw [if_pos (same.mpr own), if_pos own]
        rfl
      · rw [if_neg fun equal => own (same.mp equal), if_neg own, induction]
        rfl

/-- Types with other symbols have the same groups, apart from the symbols. -/
theorem type_groups_retyped
    (names : ∀ symbol, (change symbol).metadataName = symbol.metadataName)
    (fields : List ResolvedField) :
    typeGroups (fields.map (ResolvedField.retyped change)) =
      (typeGroups fields).map (TypeGroup.retyped change) := by
  have folded (drafts : List Draft) :
      (fields.map (ResolvedField.retyped change)).foldl addField
          (drafts.map (Draft.retyped change)) =
        (fields.foldl addField drafts).map (Draft.retyped change) := by
    induction fields generalizing drafts with
    | nil => rfl
    | cons field rest induction =>
        rw [List.map_cons, List.foldl_cons, List.foldl_cons, add_field_retyped names, induction]
  have all := folded []
  rw [List.map_nil] at all
  unfold typeGroups
  rw [all, List.filter_map, List.map_map, List.map_map]
  rfl

end Grouping

namespace Publication

variable {render : TypeGroup → Rendering} {qualified : Bool}

/-- The groups that are published after some earlier ones: those with a text and a free key. -/
def published (render : TypeGroup → Rendering) (qualified : Bool) (earlier : List TypeGroup) :
    List TypeGroup → List TypeGroup
  | [] => []
  | group :: rest =>
      if (holder? render qualified earlier (keyOf qualified group)).isNone &&
          (textOf (render group)).isSome
      then group :: published render qualified (earlier ++ [group]) rest
      else published render qualified (earlier ++ [group]) rest

theorem published_subset {earlier groups : List TypeGroup} {group : TypeGroup}
    (member : group ∈ published render qualified earlier groups) : group ∈ groups := by
  induction groups generalizing earlier with
  | nil => cases member
  | cons first rest induction =>
      rw [published] at member
      split at member
      · rcases List.mem_cons.mp member with same | later
        · exact List.mem_cons.mpr (.inl same)
        · exact List.mem_cons_of_mem _ (induction later)
      · exact List.mem_cons_of_mem _ (induction member)

theorem published_has_text {earlier groups : List TypeGroup} {group : TypeGroup}
    (member : group ∈ published render qualified earlier groups) :
    (textOf (render group)).isSome = true := by
  induction groups generalizing earlier with
  | nil => cases member
  | cons first rest induction =>
      rw [published] at member
      split at member
      · next both =>
          rcases List.mem_cons.mp member with same | later
          · rw [same]
            exact (Bool.and_eq_true _ _ ▸ both).2
          · exact induction later
      · exact induction member

theorem fragments_of_published (earlier groups : List TypeGroup) :
    fragmentsOf qualified (fates render qualified earlier groups) =
      (published render qualified earlier groups).filterMap fun group =>
        (textOf (render group)).map fun text => (keyOf qualified group, text) := by
  induction groups generalizing earlier with
  | nil => rfl
  | cons group rest induction =>
      rw [fates, fragments_cons, induction, published]
      unfold fragment? fate
      cases holder? render qualified earlier (keyOf qualified group) with
      | some holder => rfl
      | none =>
          cases rendered : render group with
          | text text => simp [Fate.ofRendering, Fate.text?, textOf, rendered]
          | nested => rfl
          | failed reason => rfl

theorem published_map {other : TypeGroup → Rendering} {change : TypeGroup → TypeGroup}
    {earlier groups : List TypeGroup}
    (keys : ∀ group ∈ earlier ++ groups, keyOf qualified (change group) = keyOf qualified group)
    (texts : ∀ group ∈ earlier ++ groups,
      (textOf (other (change group))).isSome = (textOf (render group)).isSome) :
    published other qualified (earlier.map change) (groups.map change) =
      (published render qualified earlier groups).map change := by
  induction groups generalizing earlier with
  | nil => rfl
  | cons group rest induction =>
      have free : (holder? other qualified (earlier.map change)
            (keyOf qualified (change group))).isNone =
          (holder? render qualified earlier (keyOf qualified group)).isNone := by
        unfold holder?
        rw [List.find?_map, Option.isNone_map]
        congr 1
        apply List.find?_congr
        intro before member
        have inside : before ∈ earlier ++ group :: rest := List.mem_append_left _ member
        show (decide (keyOf qualified (change before) = _) &&
          (textOf (other (change before))).isSome) = _
        rw [keys before inside, texts before inside,
          keys group (List.mem_append_right _ List.mem_cons_self)]
      have moved : earlier ++ group :: rest = (earlier ++ [group]) ++ rest := by simp
      have later := induction (moved ▸ keys) (moved ▸ texts)
      rw [List.map_append, List.map_singleton] at later
      rw [List.map_cons, published, published, free,
        texts group (List.mem_append_right _ List.mem_cons_self), later]
      split
      · rfl
      · rfl

end Publication

end PropertyGen
