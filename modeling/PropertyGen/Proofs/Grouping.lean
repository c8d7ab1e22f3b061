import Mathlib.Data.List.Induction
import Mathlib.Data.List.Nodup
import PropertyGen.Generation.Group
import PropertyGen.Proofs.Runs
import PropertyGen.Proofs.Tables

/-!
Grouping fields by their types. There is one draft for each type, in the order of first fields,
and it is the fold of the fields of its type; each type in conflict is reported once.
-/

namespace PropertyGen

namespace ResolvedField

def typeName (field : ResolvedField) : String := field.containing.metadataName

end ResolvedField

namespace Grouping

def fieldsOf (fields : List ResolvedField) (type : String) : List ResolvedField :=
  fields.filter fun field => field.typeName = type

theorem fields_of_append (first second : List ResolvedField) (type : String) :
    fieldsOf (first ++ second) type = fieldsOf first type ++ fieldsOf second type :=
  List.filter_append ..

theorem fields_of_own (field : ResolvedField) (rest : List ResolvedField) :
    fieldsOf (field :: rest) field.typeName = field :: fieldsOf rest field.typeName :=
  List.filter_cons_of_pos (decide_eq_true rfl)

def usingsOf (fields : List ResolvedField) (type : String) : List Using :=
  (fieldsOf fields type).flatMap (·.usings)

/-- The first two directives of a type that bind one name to different targets. -/
def clash? (fields : List ResolvedField) (type : String) : Option (Using × Using) :=
  firstConflict? [] (usingsOf fields type)

def drafts (fields : List ResolvedField) : List Draft := fields.foldl addField []

theorem name_add (draft : Draft) (field : ResolvedField) : (draft.add field).name = draft.name := rfl

theorem names_add_field (drafts : List Draft) (field : ResolvedField) :
    (addField drafts field).map Draft.name =
      if field.typeName ∈ drafts.map Draft.name then drafts.map Draft.name
      else drafts.map Draft.name ++ [field.typeName] := by
  induction drafts with
  | nil => rfl
  | cons draft rest induction =>
      by_cases own : draft.name = field.containing.metadataName
      · have known : field.typeName ∈ (draft :: rest).map Draft.name := by
          rw [List.map_cons, own]
          exact List.mem_cons_self
        rw [addField, if_pos own, if_pos known, List.map_cons, List.map_cons, name_add]
      · have other : field.typeName ≠ draft.name := fun same => own same.symm
        rw [addField, if_neg own, List.map_cons, induction, List.map_cons]
        by_cases known : field.typeName ∈ rest.map Draft.name
        · rw [if_pos known, if_pos (List.mem_cons_of_mem _ known)]
        · rw [if_neg known, if_neg (by simp [other, known])]
          rfl

theorem draft_for_cases (drafts : List Draft) (field : ResolvedField) :
    (draftFor drafts field ∈ drafts ∧ (draftFor drafts field).name = field.typeName) ∨
      (field.typeName ∉ drafts.map Draft.name ∧
        draftFor drafts field = Draft.ofType field.containing) := by
  unfold draftFor
  cases found : drafts.find? fun draft => draft.name = field.containing.metadataName with
  | some draft =>
      have same := List.find?_some found
      simp only [decide_eq_true_eq] at same
      exact .inl ⟨List.mem_of_find?_eq_some found, same⟩
  | none =>
      refine .inr ⟨?_, rfl⟩
      intro known
      obtain ⟨draft, member, same⟩ := List.mem_map.mp known
      have absent := List.find?_eq_none.mp found draft member
      exact absent (decide_eq_true same)

theorem draft_for_name (drafts : List Draft) (field : ResolvedField) :
    (draftFor drafts field).name = field.typeName := by
  rcases draft_for_cases drafts field with ⟨-, same⟩ | ⟨-, fresh⟩
  · exact same
  · rw [fresh]
    rfl

theorem mem_add_field {drafts : List Draft} (distinct : (drafts.map Draft.name).Nodup)
    {field : ResolvedField} {draft : Draft} :
    draft ∈ addField drafts field ↔
      (draft ∈ drafts ∧ draft.name ≠ field.typeName) ∨
        draft = (draftFor drafts field).add field := by
  induction drafts with
  | nil => simp [addField, draftFor]
  | cons first rest induction =>
      have restDistinct := (List.nodup_cons.mp distinct).2
      by_cases own : first.name = field.containing.metadataName
      · have found : draftFor (first :: rest) field = first := by simp [draftFor, own]
        have others : ∀ other ∈ rest, other.name ≠ field.typeName := by
          intro other member same
          apply (List.nodup_cons.mp distinct).1
          rw [own, show field.containing.metadataName = field.typeName from rfl, ← same]
          exact List.mem_map_of_mem member
        rw [addField, if_pos own, found, List.mem_cons]
        constructor
        · intro given
          rcases given with same | member
          · exact .inr same
          · exact .inl ⟨List.mem_cons_of_mem _ member, others draft member⟩
        · intro given
          rcases given with ⟨member, other⟩ | same
          · rcases List.mem_cons.mp member with same | member
            · exact absurd (same ▸ own) other
            · exact .inr member
          · exact .inl same
      · have found : draftFor (first :: rest) field = draftFor rest field := by
          simp [draftFor, own]
        rw [addField, if_neg own, found, List.mem_cons, induction restDistinct]
        constructor
        · intro given
          rcases given with same | ⟨member, other⟩ | same
          · exact .inl ⟨by rw [same]; exact List.mem_cons_self, by rw [same]; exact own⟩
          · exact .inl ⟨List.mem_cons_of_mem _ member, other⟩
          · exact .inr same
        · intro given
          rcases given with ⟨member, other⟩ | same
          · rcases List.mem_cons.mp member with same | member
            · exact .inl same
            · exact .inr (.inl ⟨member, other⟩)
          · exact .inr (.inr same)

/-- A draft that holds exactly some fields of one type. -/
def Holds (draft : Draft) (fields : List ResolvedField) : Prop :=
  ∃ first rest, fields = first :: rest ∧
    draft = (first :: rest).foldl Draft.add (Draft.ofType first.containing)

structure Drafted (fields : List ResolvedField) (drafts : List Draft) : Prop where
  names : drafts.map Draft.name = distinct (fields.map ResolvedField.typeName)
  holds : ∀ draft ∈ drafts, Holds draft (fieldsOf fields draft.name)

theorem drafted_add {fields : List ResolvedField} {drafts : List Draft}
    (drafted : Drafted fields drafts) (field : ResolvedField) :
    Drafted (fields ++ [field]) (addField drafts field) := by
  have distinctNames : (drafts.map Draft.name).Nodup := drafted.names ▸ distinct_nodup _
  have known : field.typeName ∈ drafts.map Draft.name ↔
      field.typeName ∈ fields.map ResolvedField.typeName := by
    rw [drafted.names, mem_distinct]
  constructor
  · rw [names_add_field, List.map_append, List.map_singleton, distinct_concat, drafted.names]
    simp only [← drafted.names, known]
  · intro draft member
    rcases (mem_add_field distinctNames).mp member with ⟨old, other⟩ | same
    · have unchanged : fieldsOf (fields ++ [field]) draft.name = fieldsOf fields draft.name := by
        simp [fieldsOf, Ne.symm other]
      rw [unchanged]
      exact drafted.holds draft old
    · have own : fieldsOf (fields ++ [field]) draft.name =
          fieldsOf fields field.typeName ++ [field] := by
        rw [same, name_add, draft_for_name]
        simp [fieldsOf]
      rw [own, same]
      rcases draft_for_cases drafts field with ⟨present, name⟩ | ⟨absent, fresh⟩
      · obtain ⟨first, rest, split, folded⟩ := drafted.holds _ present
        rw [name] at split
        refine ⟨first, rest ++ [field], by rw [split]; rfl, ?_⟩
        rw [← List.cons_append, List.foldl_append, ← folded]
        rfl
      · have none : fieldsOf fields field.typeName = [] := by
          apply List.filter_eq_nil_iff.mpr
          intro other inside same
          exact absent (known.mpr (by
            rw [← of_decide_eq_true same]
            exact List.mem_map_of_mem inside))
        rw [none, fresh]
        exact ⟨field, [], rfl, rfl⟩

theorem drafted (fields : List ResolvedField) : Drafted fields (drafts fields) := by
  induction fields using List.reverseRecOn with
  | nil => exact ⟨rfl, by simp [drafts]⟩
  | append_singleton fields field induction =>
      unfold drafts
      rw [List.foldl_append]
      exact drafted_add induction field

/-! What a draft has gathered from its fields. -/

theorem fold_containing (fields : List ResolvedField) (draft : Draft) :
    (fields.foldl Draft.add draft).containing = draft.containing := by
  induction fields generalizing draft with
  | nil => rfl
  | cons field rest induction => exact induction (draft.add field)

theorem fold_usings (fields : List ResolvedField) (draft : Draft) :
    (fields.foldl Draft.add draft).usings =
      (fields.flatMap (·.usings)).foldl mergeUsing draft.usings := by
  induction fields generalizing draft with
  | nil => rfl
  | cons field rest induction =>
      rw [List.foldl_cons, induction, List.flatMap_cons, List.foldl_append]
      rfl

theorem fold_members (fields : List ResolvedField) (draft : Draft) :
    (fields.foldl Draft.add draft).members =
      draft.members ++ fields.filterMap ResolvedField.spec? := by
  induction fields generalizing draft with
  | nil => exact (List.append_nil _).symm
  | cons field rest induction =>
      rw [List.foldl_cons, induction, List.filterMap_cons]
      show draft.members ++ field.spec?.toList ++ _ = _
      cases field.spec? <;> simp

/-- A conflict in a list of directives is one in its first part or, after that part is merged,
one in its second part. -/
theorem first_conflict_append (space first second : List Using) :
    firstConflict? space (first ++ second) =
      (firstConflict? space first).or (firstConflict? (first.foldl mergeUsing space) second) := by
  induction first generalizing space with
  | nil => rfl
  | cons directive rest induction =>
      rw [List.cons_append, firstConflict?, firstConflict?]
      cases conflict? space directive with
      | some present => rfl
      | none => exact induction (mergeUsing space directive)

theorem fold_conflicting (fields : List ResolvedField) (draft : Draft) :
    (fields.foldl Draft.add draft).isConflicting =
      (draft.isConflicting || (firstConflict? draft.usings (fields.flatMap (·.usings))).isSome) := by
  induction fields generalizing draft with
  | nil => simp [firstConflict?]
  | cons field rest induction =>
      rw [List.foldl_cons, induction, List.flatMap_cons, first_conflict_append]
      show ((draft.isConflicting || (draft.conflictWith? field).isSome) ||
        (firstConflict? (field.usings.foldl mergeUsing draft.usings) _).isSome) = _
      unfold Draft.conflictWith?
      by_cases conflicting : draft.isConflicting
      · simp [conflicting]
      · cases firstConflict? draft.usings field.usings <;> simp [conflicting]

/-- A draft has the merged directives of its type, and conflicts if they clash. -/
theorem draft_state {fields : List ResolvedField} {draft : Draft} (member : draft ∈ drafts fields) :
    draft.usings = (usingsOf fields draft.name).foldl mergeUsing [] ∧
      draft.isConflicting = (clash? fields draft.name).isSome := by
  obtain ⟨first, rest, split, folded⟩ := (drafted fields).holds draft member
  unfold clash? usingsOf
  rw [split]
  generalize first :: rest = own at folded
  rw [folded, fold_usings, fold_conflicting]
  exact ⟨rfl, Bool.false_or _⟩

theorem draft_members {fields : List ResolvedField} {draft : Draft}
    (member : draft ∈ drafts fields) :
    draft.members = (fieldsOf fields draft.name).filterMap ResolvedField.spec? := by
  obtain ⟨first, rest, split, folded⟩ := (drafted fields).holds draft member
  rw [split]
  generalize first :: rest = own at folded
  rw [folded, fold_members]
  rfl

theorem group_members {fields : List ResolvedField} {group : TypeGroup}
    (member : group ∈ typeGroups fields) :
    group.members =
      (fieldsOf fields group.containing.metadataName).filterMap ResolvedField.spec? := by
  obtain ⟨draft, listed, rfl⟩ := List.mem_map.mp member
  exact draft_members (List.mem_filter.mp listed).1

theorem draft_for_state (fields : List ResolvedField) (field : ResolvedField) :
    (draftFor (drafts fields) field).usings =
        (usingsOf fields field.typeName).foldl mergeUsing [] ∧
      (draftFor (drafts fields) field).isConflicting = (clash? fields field.typeName).isSome := by
  rcases draft_for_cases (drafts fields) field with ⟨present, name⟩ | ⟨absent, fresh⟩
  · rw [← name]
    exact draft_state present
  · have none : fieldsOf fields field.typeName = [] := by
      apply List.filter_eq_nil_iff.mpr
      intro other inside same
      rw [(drafted fields).names, mem_distinct] at absent
      exact absent (of_decide_eq_true same ▸ List.mem_map_of_mem inside)
    unfold clash? usingsOf
    rw [fresh, none]
    exact ⟨rfl, rfl⟩

theorem draft_names_nodup (fields : List ResolvedField) :
    ((drafts fields).map Draft.name).Nodup := by
  rw [(drafted fields).names]
  exact distinct_nodup _

theorem type_group_names (fields : List ResolvedField) :
    (typeGroups fields).map (·.containing.metadataName) =
      ((drafts fields).filter fun draft => !draft.isConflicting).map Draft.name := by
  unfold typeGroups
  rw [List.map_map]
  rfl

theorem type_group_names_nodup (fields : List ResolvedField) :
    ((typeGroups fields).map (·.containing.metadataName)).Nodup := by
  rw [type_group_names]
  exact (draft_names_nodup fields).sublist (List.filter_sublist.map Draft.name)

/-! Conflicts as they are met. -/

structure Conflict where
  field : ResolvedField
  present : Using
  added : Using
deriving DecidableEq, Repr

namespace Conflict

def typeName (conflict : Conflict) : String := conflict.field.typeName

def report (conflict : Conflict) : Diagnostic :=
  Templates.conflictingAlias.report conflict.field.location?
    [conflict.added.alias?.getD "", conflict.present.target, conflict.added.target,
      conflict.field.containing.display]

end Conflict

def conflictAt? (drafts : List Draft) (field : ResolvedField) : Option Conflict :=
  ((draftFor drafts field).conflictWith? field).map fun found =>
    { field, present := found.1, added := found.2 }

def conflictLog (drafts : List Draft) : List ResolvedField → List Conflict
  | [] => []
  | field :: rest => (conflictAt? drafts field).toList ++ conflictLog (addField drafts field) rest

theorem diagnostics_group_events (drafts : List Draft) (fields : List ResolvedField) :
    diagnosticsOf (groupEvents drafts fields) = (conflictLog drafts fields).map Conflict.report := by
  induction fields generalizing drafts with
  | nil => rfl
  | cons field rest induction =>
      have display : (draftFor drafts field).containing.display = field.containing.display := by
        show Names.display (draftFor drafts field).name = _
        rw [draft_for_name]
        rfl
      rw [groupEvents, diagnostics_append, diagnostics_append, diagnostics_notes, List.append_nil,
        induction, conflictLog, List.map_append]
      congr 1
      unfold Draft.conflictEvents conflictAt?
      cases (draftFor drafts field).conflictWith? field with
      | none => rfl
      | some found =>
          rw [display]
          rfl

theorem build_groups_reports (fields : List ResolvedField) :
    (buildGroups fields).diagnostics = (conflictLog [] fields).map Conflict.report := by
  rw [← diagnostics_group_events]
  show diagnosticsOf (groupEvents [] fields ++ []) = _
  rw [List.append_nil]

theorem conflict_log_member {drafts : List Draft} {fields : List ResolvedField}
    {conflict : Conflict} (member : conflict ∈ conflictLog drafts fields) :
    ∃ before after, fields = before ++ conflict.field :: after ∧
      conflictAt? (before.foldl addField drafts) conflict.field = some conflict := by
  induction fields generalizing drafts with
  | nil => cases member
  | cons field rest induction =>
      rcases List.mem_append.mp member with own | later
      · have visible := Option.mem_toList.mp own
        obtain ⟨found, -, rfl⟩ := Option.map_eq_some_iff.mp visible
        exact ⟨[], rest, rfl, visible⟩
      · obtain ⟨before, after, split, visible⟩ := induction later
        exact ⟨field :: before, after, by rw [split]; rfl, visible⟩

/-- A conflict of the log is the first clash of its type. -/
theorem conflict_log_clash {fields : List ResolvedField} {conflict : Conflict}
    (member : conflict ∈ conflictLog [] fields) :
    clash? fields conflict.typeName = some (conflict.present, conflict.added) := by
  obtain ⟨before, after, split, visible⟩ := conflict_log_member member
  obtain ⟨found, clash, same⟩ := Option.map_eq_some_iff.mp visible
  obtain ⟨usings, conflicting⟩ := draft_for_state before conflict.field
  have pair : found = (conflict.present, conflict.added) := by rw [← same]
  rw [pair] at clash
  unfold Draft.conflictWith? at clash
  by_cases before_clash : (clash? before conflict.field.typeName).isSome
  · rw [show (before.foldl addField []) = drafts before from rfl, conflicting, if_pos before_clash]
      at clash
    cases clash
  · rw [show (before.foldl addField []) = drafts before from rfl, conflicting,
      if_neg before_clash, usings] at clash
    have own : fieldsOf fields conflict.typeName =
        fieldsOf before conflict.field.typeName ++
          (conflict.field :: fieldsOf after conflict.field.typeName) := by
      rw [split, fields_of_append]
      exact congrArg _ (fields_of_own conflict.field after)
    have none := Option.not_isSome_iff_eq_none.mp before_clash
    unfold clash? usingsOf at none ⊢
    unfold usingsOf at clash
    rw [own, List.flatMap_append, List.flatMap_cons, first_conflict_append, first_conflict_append,
      none, clash]
    rfl

def InConflict (drafts : List Draft) (type : String) : Prop :=
  ∃ draft ∈ drafts, draft.name = type ∧ draft.isConflicting = true

theorem in_conflict_add {drafts : List Draft} (distinct : (drafts.map Draft.name).Nodup)
    (field : ResolvedField) (type : String) :
    InConflict (addField drafts field) type ↔
      InConflict drafts type ∨ (type = field.typeName ∧ (conflictAt? drafts field).isSome) := by
  have conflictingAdd : ((draftFor drafts field).add field).isConflicting =
      ((draftFor drafts field).isConflicting || (conflictAt? drafts field).isSome) := by
    unfold conflictAt?
    rw [Option.isSome_map]
    rfl
  constructor
  · intro given
    rcases given with ⟨draft, member, name, conflicting⟩
    rcases (mem_add_field distinct).mp member with ⟨old, -⟩ | same
    · exact .inl ⟨draft, old, name, conflicting⟩
    · subst same
      rw [name_add, draft_for_name] at name
      rw [conflictingAdd, Bool.or_eq_true] at conflicting
      rcases conflicting with before | now
      · rcases draft_for_cases drafts field with ⟨present, own⟩ | ⟨-, fresh⟩
        · exact .inl ⟨_, present, own.trans name, before⟩
        · rw [fresh] at before
          cases before
      · exact .inr ⟨name.symm, now⟩
  · intro given
    rcases given with ⟨draft, member, name, conflicting⟩ | ⟨same, now⟩
    · by_cases own : draft.name = field.typeName
      · refine ⟨_, (mem_add_field distinct).mpr (.inr rfl), ?_, ?_⟩
        · rw [name_add, draft_for_name, ← own, name]
        · have found : draftFor drafts field = draft := by
            rcases draft_for_cases drafts field with ⟨present, sameName⟩ | ⟨absent, -⟩
            · exact List.inj_on_of_nodup_map distinct present member (sameName.trans own.symm)
            · exact absurd (own ▸ List.mem_map_of_mem member) absent
          rw [conflictingAdd, found, conflicting]
          rfl
      · exact ⟨draft, (mem_add_field distinct).mpr (.inl ⟨member, own⟩), name, conflicting⟩
    · refine ⟨_, (mem_add_field distinct).mpr (.inr rfl), ?_, ?_⟩
      · rw [name_add, draft_for_name, same]
      · rw [conflictingAdd, now, Bool.or_true]

theorem nodup_names_add {drafts : List Draft} (distinct : (drafts.map Draft.name).Nodup)
    (field : ResolvedField) : ((addField drafts field).map Draft.name).Nodup := by
  rw [names_add_field]
  by_cases known : field.typeName ∈ drafts.map Draft.name
  · rwa [if_pos known]
  · rw [if_neg known]
    apply List.Nodup.append distinct (List.nodup_singleton _)
    rwa [List.disjoint_singleton]

theorem conflict_at_fresh {drafts : List Draft} (distinct : (drafts.map Draft.name).Nodup)
    {field : ResolvedField} (visible : (conflictAt? drafts field).isSome) :
    ¬ InConflict drafts field.typeName := by
  intro given
  rcases given with ⟨draft, member, name, conflicting⟩
  have found : draftFor drafts field = draft := by
    rcases draft_for_cases drafts field with ⟨present, sameName⟩ | ⟨absent, -⟩
    · exact List.inj_on_of_nodup_map distinct present member (sameName.trans name.symm)
    · exact absurd (name ▸ List.mem_map_of_mem member) absent
  unfold conflictAt? Draft.conflictWith? at visible
  rw [found, conflicting] at visible
  cases visible

theorem conflict_at_type {drafts : List Draft} {field : ResolvedField} {conflict : Conflict}
    (visible : conflictAt? drafts field = some conflict) : conflict.typeName = field.typeName := by
  obtain ⟨found, -, rfl⟩ := Option.map_eq_some_iff.mp visible
  rfl

theorem in_conflict_fold {drafts : List Draft} (distinct : (drafts.map Draft.name).Nodup)
    {type : String} (conflicting : InConflict drafts type) (fields : List ResolvedField) :
    InConflict (fields.foldl addField drafts) type := by
  induction fields generalizing drafts with
  | nil => exact conflicting
  | cons field rest induction =>
      rw [List.foldl_cons]
      exact induction (nodup_names_add distinct field)
        ((in_conflict_add distinct field type).mpr (.inl conflicting))

theorem conflict_log_types {drafts : List Draft} (distinct : (drafts.map Draft.name).Nodup)
    (fields : List ResolvedField) :
    ((conflictLog drafts fields).map Conflict.typeName).Nodup ∧
      ∀ type, type ∈ (conflictLog drafts fields).map Conflict.typeName ↔
        InConflict (fields.foldl addField drafts) type ∧ ¬ InConflict drafts type := by
  induction fields generalizing drafts with
  | nil =>
      refine ⟨List.nodup_nil, fun type => ⟨fun member => (by cases member), ?_⟩⟩
      intro given
      rcases given with ⟨now, before⟩
      exact absurd now before
  | cons field rest induction =>
      obtain ⟨restNodup, restTypes⟩ := induction (nodup_names_add distinct field)
      have added := in_conflict_add distinct field
      rw [conflictLog, List.map_append, List.foldl_cons]
      cases visible : conflictAt? drafts field with
      | none =>
          have unchanged : ∀ type, InConflict (addField drafts field) type ↔ InConflict drafts type := by
            intro type
            rw [added, visible]
            simp
          refine ⟨restNodup, fun type => ?_⟩
          rw [Option.toList_none, List.map_nil, List.nil_append, restTypes, unchanged]
      | some conflict =>
          have isSome : (conflictAt? drafts field).isSome = true := by rw [visible]; rfl
          have now : InConflict (addField drafts field) field.typeName :=
            (added _).mpr (.inr ⟨rfl, isSome⟩)
          have fresh := conflict_at_fresh distinct isSome
          rw [Option.toList_some, List.map_singleton, List.singleton_append,
            conflict_at_type visible]
          refine ⟨List.nodup_cons.mpr ⟨?_, restNodup⟩, fun type => ?_⟩
          · intro again
            exact ((restTypes _).mp again).2 now
          · rw [List.mem_cons, restTypes, added]
            constructor
            · intro given
              rcases given with same | ⟨after, before⟩
              · rw [same]
                exact ⟨in_conflict_fold (nodup_names_add distinct field) now rest, fresh⟩
              · exact ⟨after, fun inside => before (.inl inside)⟩
            · intro given
              rcases given with ⟨after, before⟩
              by_cases same : type = field.typeName
              · exact .inl same
              · refine .inr ⟨after, ?_⟩
                intro given
                rcases given with inside | ⟨equal, -⟩
                · exact before inside
                · exact same equal

theorem in_conflict_iff_log (fields : List ResolvedField) (type : String) :
    type ∈ (conflictLog [] fields).map Conflict.typeName ↔ InConflict (drafts fields) type := by
  have start : (([] : List Draft).map Draft.name).Nodup := List.nodup_nil
  rw [(conflict_log_types start fields).2]
  constructor
  · exact fun both => both.1
  · intro now
    refine ⟨now, ?_⟩
    intro given
    rcases given with ⟨draft, member, -⟩
    cases member

end Grouping

end PropertyGen
