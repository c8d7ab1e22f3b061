import PropertyGen.Proofs.Fragments
import PropertyGen.Proofs.Regrouping

/-!
Grouping as a partition. A type has a group exactly if no two directives of its fields bind one
alias to different targets. Grouping compares a directive with the first one of its key alone;
that finds a clash if there is one, as the directives before the first clash all agree.
-/

namespace PropertyGen

/-- Two directives bind one alias to different targets. -/
def Using.Clashes (first second : Using) : Prop :=
  first.alias?.isSome = true ∧ first.alias? = second.alias? ∧ first.target ≠ second.target

instance (first second : Using) : Decidable (first.Clashes second) :=
  inferInstanceAs (Decidable (_ ∧ _ ∧ _))

namespace Using

theorem Clashes.symm {first second : Using} (clash : first.Clashes second) :
    second.Clashes first := by
  rcases clash with ⟨named, same, differs⟩
  exact ⟨same ▸ named, same.symm, differs.symm⟩

theorem not_clashes_self (directive : Using) : ¬ directive.Clashes directive :=
  fun clash => clash.2.2 rfl

theorem key_of_alias {first second : Using} (named : first.alias?.isSome = true)
    (same : first.alias? = second.alias?) : first.key = second.key := by
  obtain ⟨label, own⟩ := Option.isSome_iff_exists.mp named
  unfold key
  rw [← same, own]

/-- Directives with one key clash if their targets differ: the key of an import is its target. -/
theorem clashes_of_key {first second : Using} (same : first.key = second.key)
    (differs : first.target ≠ second.target) : first.Clashes second := by
  have sameAlias := alias_of_key same
  refine ⟨?_, sameAlias, differs⟩
  by_contra unnamed
  have first_none := Option.not_isSome_iff_eq_none.mp unnamed
  unfold key at same
  rw [← sameAlias, first_none] at same
  cases one : first.isStatic <;> cases other : second.isStatic <;>
    simp [one, other, differs] at same

end Using

namespace Grouping

/-! Directives of one declaration space. -/

/-- The directives of a list whose keys have not occurred, in it or before it. -/
def unrepeated (before : List Using) : List Using → List Using
  | [] => []
  | directive :: rest =>
      if directive.key ∈ before.map Using.key then unrepeated (before ++ [directive]) rest
      else directive :: unrepeated (before ++ [directive]) rest

theorem unrepeated_sublist (before usings : List Using) :
    (unrepeated before usings).Sublist usings := by
  induction usings generalizing before with
  | nil => exact List.Sublist.slnil
  | cons directive rest induction =>
      rw [unrepeated]
      by_cases known : directive.key ∈ before.map Using.key
      · rw [if_pos known]
        exact (induction _).cons directive
      · rw [if_neg known]
        exact (induction _).cons_cons directive

theorem unrepeated_key (before : List Using) {usings : List Using} {directive : Using}
    (member : directive ∈ usings) :
    directive.key ∈ (before ++ unrepeated before usings).map Using.key := by
  induction usings generalizing before with
  | nil => cases member
  | cons first rest induction =>
      have later (inside : directive ∈ rest) := induction (before ++ [first]) inside
      rw [unrepeated]
      by_cases known : first.key ∈ before.map Using.key
      · rw [if_pos known]
        rcases List.mem_cons.mp member with same | inside
        · rw [same, List.map_append]
          exact List.mem_append_left _ known
        · have found := later inside
          simp only [List.map_append, List.map_singleton, List.mem_append,
            List.mem_singleton] at found ⊢
          rcases found with (old | same) | new
          · exact .inl old
          · exact .inl (same ▸ known)
          · exact .inr new
      · rw [if_neg known]
        rcases List.mem_cons.mp member with same | inside
        · rw [same]
          simp
        · have found := later inside
          rwa [List.append_assoc, List.singleton_append] at found

theorem merge_eq_unrepeated {space before : List Using}
    (keys : ∀ key, key ∈ space.map Using.key ↔ key ∈ before.map Using.key) (usings : List Using) :
    usings.foldl mergeUsing space = space ++ unrepeated before usings := by
  induction usings generalizing space before with
  | nil => exact (List.append_nil space).symm
  | cons directive rest induction =>
      have present : (space.any fun other => other.key = directive.key) = true ↔
          directive.key ∈ before.map Using.key := by
        rw [← keys]
        simp
      rw [List.foldl_cons, mergeUsing, unrepeated]
      by_cases known : directive.key ∈ before.map Using.key
      · have still : ∀ key, key ∈ space.map Using.key ↔
            key ∈ (before ++ [directive]).map Using.key := by
          intro key
          rw [keys, List.map_append, List.mem_append, List.map_singleton, List.mem_singleton]
          exact ⟨.inl, fun given => given.elim id fun same => same ▸ known⟩
        rw [if_pos (present.mpr known), if_pos known]
        exact induction still
      · have grown : ∀ key, key ∈ (space ++ [directive]).map Using.key ↔
            key ∈ (before ++ [directive]).map Using.key := by
          intro key
          rw [List.map_append, List.map_append, List.mem_append, List.mem_append, keys]
        rw [if_neg fun any => known (present.mp any), if_neg known, induction grown,
          List.append_assoc, List.singleton_append]

theorem merged_eq (usings : List Using) :
    usings.foldl mergeUsing [] = unrepeated [] usings :=
  merge_eq_unrepeated (fun _ => Iff.rfl) usings

theorem merged_concat (seen : List Using) (directive : Using) :
    mergeUsing (seen.foldl mergeUsing []) directive =
      (seen ++ [directive]).foldl mergeUsing [] :=
  (List.foldl_concat mergeUsing [] directive seen).symm

def Agree (usings : List Using) : Prop :=
  ∀ first ∈ usings, ∀ second ∈ usings, ¬ first.Clashes second

instance (usings : List Using) : Decidable (Agree usings) :=
  inferInstanceAs (Decidable (∀ first ∈ usings, ∀ second ∈ usings, ¬ first.Clashes second))

theorem agree_nil : Agree [] := by
  intro first member
  cases member

theorem conflict_clashes {seen : List Using} {directive present : Using}
    (met : conflict? (seen.foldl mergeUsing []) directive = some present) :
    present ∈ seen ∧ present.Clashes directive := by
  rw [merged_eq] at met
  obtain ⟨found, differs⟩ := Option.filter_eq_some_iff.mp met
  have sameKey := List.find?_some found
  rw [decide_eq_true_eq] at sameKey
  have inside := List.mem_of_find?_eq_some found
  exact ⟨(unrepeated_sublist [] seen).subset inside,
    Using.clashes_of_key sameKey (of_decide_eq_true differs)⟩

/-- Without a conflict, the first directive of the same key has the same target. -/
theorem agreeing_of_clear {seen : List Using} {directive : Using}
    (clear : conflict? (seen.foldl mergeUsing []) directive = none)
    (known : directive.key ∈ seen.map Using.key) :
    ∃ kept ∈ seen, kept.alias? = directive.alias? ∧ kept.target = directive.target := by
  obtain ⟨other, member, otherKey⟩ := List.mem_map.mp known
  have listed := unrepeated_key [] member
  rw [List.nil_append, otherKey] at listed
  obtain ⟨first, firstMember, firstKey⟩ := List.mem_map.mp listed
  rw [conflict?, merged_eq] at clear
  cases found : (unrepeated [] seen).find? fun present => present.key = directive.key with
  | none => exact absurd (decide_eq_true firstKey) (List.find?_eq_none.mp found first firstMember)
  | some kept =>
      have sameKey := List.find?_some found
      rw [decide_eq_true_eq] at sameKey
      have inside := (unrepeated_sublist [] seen).subset (List.mem_of_find?_eq_some found)
      refine ⟨kept, inside, Using.alias_of_key sameKey, ?_⟩
      by_contra differs
      rw [found, Option.filter_some, if_pos (decide_eq_true differs)] at clear
      cases clear

/-- A directive without a conflict agrees with all the directives, as these agree with the one
that is kept for its key. -/
theorem agree_added {seen : List Using} (agree : Agree seen) {directive : Using}
    (clear : conflict? (seen.foldl mergeUsing []) directive = none) :
    Agree (seen ++ [directive]) := by
  have apart : ∀ other ∈ seen, ¬ other.Clashes directive := by
    intro other member clash
    have known : directive.key ∈ seen.map Using.key :=
      List.mem_map.mpr ⟨other, member, Using.key_of_alias clash.1 clash.2.1⟩
    obtain ⟨kept, inside, sameAlias, sameTarget⟩ := agreeing_of_clear clear known
    apply agree other member kept inside
    refine ⟨clash.1, clash.2.1.trans sameAlias.symm, ?_⟩
    rw [sameTarget]
    exact clash.2.2
  intro first firstMember second secondMember clash
  rcases List.mem_append.mp firstMember with firstSeen | firstNew
  · rcases List.mem_append.mp secondMember with secondSeen | secondNew
    · exact agree first firstSeen second secondSeen clash
    · rw [List.mem_singleton.mp secondNew] at clash
      exact apart first firstSeen clash
  · rw [List.mem_singleton.mp firstNew] at clash
    rcases List.mem_append.mp secondMember with secondSeen | secondNew
    · exact apart second secondSeen clash.symm
    · rw [List.mem_singleton.mp secondNew] at clash
      exact directive.not_clashes_self clash

theorem agree_of_no_conflict {seen usings : List Using} (agree : Agree seen)
    (clear : firstConflict? (seen.foldl mergeUsing []) usings = none) :
    Agree (seen ++ usings) := by
  induction usings generalizing seen with
  | nil =>
      rw [List.append_nil]
      exact agree
  | cons directive rest induction =>
      rw [firstConflict?] at clear
      cases met : conflict? (seen.foldl mergeUsing []) directive with
      | some present =>
          rw [met] at clear
          cases clear
      | none =>
          rw [met] at clear
          dsimp only at clear
          rw [merged_concat] at clear
          have all := induction (agree_added agree met) clear
          rwa [List.append_assoc, List.singleton_append] at all

/-- The first conflict is met at the first directive that clashes with one before it. -/
theorem first_conflict_met {seen usings : List Using} (agree : Agree seen) {present added : Using}
    (met : firstConflict? (seen.foldl mergeUsing []) usings = some (present, added)) :
    ∃ earlier later, usings = earlier ++ added :: later ∧ Agree (seen ++ earlier) ∧
      present ∈ seen ++ earlier ∧ present.Clashes added := by
  induction usings generalizing seen with
  | nil => cases met
  | cons directive rest induction =>
      rw [firstConflict?] at met
      cases conflict : conflict? (seen.foldl mergeUsing []) directive with
      | some other =>
          rw [conflict] at met
          cases met
          obtain ⟨inside, clash⟩ := conflict_clashes conflict
          refine ⟨[], rest, rfl, ?_, ?_, clash⟩
          · rwa [List.append_nil]
          · rwa [List.append_nil]
      | none =>
          rw [conflict] at met
          dsimp only at met
          rw [merged_concat] at met
          obtain ⟨earlier, later, split, agrees, inside, clash⟩ :=
            induction (agree_added agree conflict) met
          rw [List.append_assoc, List.singleton_append] at agrees inside
          exact ⟨directive :: earlier, later, by rw [split]; rfl, agrees, inside, clash⟩

/-! Types in conflict. -/

def Conflicting (fields : List ResolvedField) (type : String) : Prop :=
  ∃ first ∈ usingsOf fields type, ∃ second ∈ usingsOf fields type, first.Clashes second

instance (fields : List ResolvedField) (type : String) : Decidable (Conflicting fields type) :=
  inferInstanceAs (Decidable (∃ first ∈ _, ∃ second ∈ _, Using.Clashes first second))

theorem not_conflicting_iff (fields : List ResolvedField) (type : String) :
    ¬ Conflicting fields type ↔ Agree (usingsOf fields type) := by
  constructor
  · exact fun calm first one second other clash => calm ⟨first, one, second, other, clash⟩
  · rintro agree ⟨first, one, second, other, clash⟩
    exact agree first one second other clash

/-- The first conflict of the directives of a type: one that clashes with an earlier one, where
those before it agree. -/
structure FirstClash (fields : List ResolvedField) (conflict : Conflict) : Prop where
  clashes : conflict.present.Clashes conflict.added
  brought : conflict.added ∈ conflict.field.usings
  first : ∃ earlier later,
    usingsOf fields conflict.typeName = earlier ++ conflict.added :: later ∧
      Agree earlier ∧ conflict.present ∈ earlier

theorem clash_iff_conflicting (fields : List ResolvedField) (type : String) :
    (clash? fields type).isSome = true ↔ Conflicting fields type := by
  constructor
  · intro found
    obtain ⟨⟨present, added⟩, met⟩ := Option.isSome_iff_exists.mp found
    obtain ⟨earlier, later, split, -, inside, clash⟩ :=
      @first_conflict_met [] _ agree_nil _ _ met
    rw [List.nil_append] at inside
    refine ⟨present, ?_, added, ?_, clash⟩ <;> rw [split]
    · exact List.mem_append_left _ inside
    · exact List.mem_append_right _ List.mem_cons_self
  · intro conflicting
    by_contra absent
    apply (not_conflicting_iff fields type).mpr _ conflicting
    exact @agree_of_no_conflict [] _ agree_nil (Option.not_isSome_iff_eq_none.mp absent)

theorem in_conflict_iff (fields : List ResolvedField) (type : String) :
    InConflict (drafts fields) type ↔ Conflicting fields type := by
  constructor
  · rintro ⟨draft, member, rfl, conflicting⟩
    rwa [(draft_state member).2, clash_iff_conflicting] at conflicting
  · intro conflicting
    have known : type ∈ (drafts fields).map Draft.name := by
      obtain ⟨first, inside, -⟩ := conflicting
      obtain ⟨field, listed, -⟩ := List.mem_flatMap.mp inside
      obtain ⟨member, own⟩ := List.mem_filter.mp listed
      rw [(drafted fields).names, mem_distinct]
      exact of_decide_eq_true own ▸ List.mem_map_of_mem member
    obtain ⟨draft, member, rfl⟩ := List.mem_map.mp known
    refine ⟨draft, member, rfl, ?_⟩
    rwa [(draft_state member).2, clash_iff_conflicting]

def Exposes (before : List ResolvedField) (field : ResolvedField) : Prop :=
  ¬ Conflicting before field.typeName ∧ Conflicting (before ++ [field]) field.typeName

instance (before : List ResolvedField) (field : ResolvedField) :
    Decidable (Exposes before field) :=
  inferInstanceAs (Decidable (_ ∧ _))

/-- The fields that bring their types into conflict, after some others. -/
def exposing (before : List ResolvedField) : List ResolvedField → List ResolvedField
  | [] => []
  | field :: rest =>
      if Exposes before field then field :: exposing (before ++ [field]) rest
      else exposing (before ++ [field]) rest

theorem conflict_at_exposes (before : List ResolvedField) (field : ResolvedField) :
    (conflictAt? (drafts before) field).isSome = true ↔ Exposes before field := by
  obtain ⟨usings, conflicting⟩ := draft_for_state before field
  have all : usingsOf (before ++ [field]) field.typeName =
      usingsOf before field.typeName ++ field.usings := by
    unfold usingsOf
    rw [fields_of_append, fields_of_own, List.flatMap_append, List.flatMap_cons]
    simp [fieldsOf]
  unfold Exposes conflictAt? Draft.conflictWith?
  rw [Option.isSome_map, conflicting, usings, ← clash_iff_conflicting, ← clash_iff_conflicting]
  rw [clash?, clash?, all, first_conflict_append]
  cases firstConflict? [] (usingsOf before field.typeName) <;> simp

theorem log_fields (before fields : List ResolvedField) :
    (conflictLog (drafts before) fields).map Conflict.field = exposing before fields := by
  induction fields generalizing before with
  | nil => rfl
  | cons field rest induction =>
      have next : addField (drafts before) field = drafts (before ++ [field]) :=
        (List.foldl_concat addField [] field before).symm
      have exposes := conflict_at_exposes before field
      rw [conflictLog, List.map_append, next, induction, exposing]
      cases visible : conflictAt? (drafts before) field with
      | none =>
          rw [visible] at exposes
          rw [if_neg fun exposed => by cases exposes.mpr exposed]
          rfl
      | some conflict =>
          rw [visible] at exposes
          obtain ⟨found, -, rfl⟩ := Option.map_eq_some_iff.mp visible
          rw [if_pos (exposes.mp rfl)]
          rfl

theorem exposing_types (fields : List ResolvedField) :
    (exposing [] fields).map ResolvedField.typeName =
      (conflictLog [] fields).map Conflict.typeName := by
  rw [← log_fields [] fields, List.map_map]
  rfl

theorem exposing_types_nodup (fields : List ResolvedField) :
    ((exposing [] fields).map ResolvedField.typeName).Nodup := by
  have start : (([] : List Draft).map Draft.name).Nodup := List.nodup_nil
  rw [exposing_types]
  exact (conflict_log_types start fields).1

theorem mem_exposing_types (fields : List ResolvedField) (type : String) :
    type ∈ (exposing [] fields).map ResolvedField.typeName ↔ Conflicting fields type := by
  rw [exposing_types, in_conflict_iff_log, in_conflict_iff]

theorem log_first_clash {fields : List ResolvedField} {conflict : Conflict}
    (member : conflict ∈ conflictLog [] fields) : FirstClash fields conflict := by
  obtain ⟨earlier, later, split, agree, inside, clash⟩ :=
    @first_conflict_met [] _ agree_nil _ _ (conflict_log_clash member)
  refine ⟨clash, ?_, earlier, later, split, agree, inside⟩
  obtain ⟨before, after, -, visible⟩ := conflict_log_member member
  obtain ⟨found, met, same⟩ := Option.map_eq_some_iff.mp visible
  have pair : found = (conflict.present, conflict.added) := by rw [← same]
  obtain ⟨usings, conflicting⟩ := draft_for_state before conflict.field
  unfold Draft.conflictWith? at met
  rw [pair, show before.foldl addField [] = drafts before from rfl, usings, conflicting] at met
  by_cases clashed : (clash? before conflict.field.typeName).isSome = true
  · rw [if_pos clashed] at met
    cases met
  · have calm := fun conflicting => clashed ((clash_iff_conflicting _ _).mpr conflicting)
    rw [if_neg clashed] at met
    obtain ⟨first, rest, brought, -⟩ :=
      first_conflict_met ((not_conflicting_iff _ _).mp calm) met
    rw [brought]
    exact List.mem_append_right _ List.mem_cons_self

/-- The report on the first conflict of a type: at the field that brings it about, with the alias
and both of its targets. -/
def ReportOf (fields : List ResolvedField) (field : ResolvedField) (report : Diagnostic) : Prop :=
  ∃ conflict label, conflict.field = field ∧ FirstClash fields conflict ∧
    conflict.added.alias? = some label ∧
    report = Diagnostic.ofMessage "ANG006" .warning field.location?
      ("Using alias '" ++ label ++ "' names '" ++ conflict.present.target ++ "' and '" ++
        conflict.added.target ++ "' in different parts of '" ++ field.containing.display ++
        "'; no properties can be generated for it")

theorem report_of_conflict {fields : List ResolvedField} {conflict : Conflict}
    (clash : FirstClash fields conflict) : ReportOf fields conflict.field conflict.report := by
  obtain ⟨named, same, -⟩ := clash.clashes
  obtain ⟨label, own⟩ := Option.isSome_iff_exists.mp (same ▸ named)
  refine ⟨conflict, label, rfl, clash, own, ?_⟩
  simp [Conflict.report, own, Templates.conflictingAlias, Template.report, Template.diagnostic,
    Diagnostic.ofMessage, fillAll, String.join, String.append_assoc]

theorem reports_exposing (fields : List ResolvedField) :
    List.Forall₂ (ReportOf fields) (exposing [] fields) (buildGroups fields).diagnostics := by
  rw [build_groups_reports, ← log_fields [] fields]
  show List.Forall₂ _ ((conflictLog [] fields).map _) ((conflictLog [] fields).map _)
  rw [List.forall₂_map_left_iff, List.forall₂_map_right_iff, List.forall₂_same]
  exact fun conflict member => report_of_conflict (log_first_clash member)

/-! Types without a conflict. -/

/-- What the fields of a type make its group: the type of the first one, their properties in order,
and their directives without repetitions. -/
structure GroupOf (fields : List ResolvedField) (type : String) (group : TypeGroup) : Prop where
  containing : (fieldsOf fields type).head?.map (·.containing) = some group.containing
  members : group.members = (fieldsOf fields type).filterMap ResolvedField.spec?
  usings : group.usings = unrepeated [] (usingsOf fields type)

def settledTypes (fields : List ResolvedField) : List String :=
  (distinct (fields.map ResolvedField.typeName)).filter fun type => ¬ Conflicting fields type

theorem draft_group_of {fields : List ResolvedField} {draft : Draft}
    (member : draft ∈ drafts fields) : GroupOf fields draft.name draft.group := by
  obtain ⟨usings, -⟩ := draft_state member
  refine ⟨?_, draft_members member, ?_⟩
  · obtain ⟨first, rest, own, folded⟩ := (drafted fields).holds draft member
    have containing : draft.group.containing = first.containing := by
      rw [folded]
      exact fold_containing (first :: rest) _
    rw [own, containing]
    rfl
  · rw [← merged_eq]
    exact usings

theorem settled_types_eq (fields : List ResolvedField) :
    settledTypes fields =
      ((drafts fields).filter fun draft => !draft.isConflicting).map Draft.name := by
  unfold settledTypes
  rw [← (drafted fields).names, List.filter_map]
  congr 1
  apply List.filter_congr
  intro draft member
  have same := clash_iff_conflicting fields draft.name
  rw [← (draft_state member).2] at same
  show decide (¬ Conflicting fields draft.name) = !draft.isConflicting
  rw [decide_not, Bool.not_inj_iff, Bool.eq_iff_iff, decide_eq_true_eq, same]

theorem groups_of_types (fields : List ResolvedField) :
    List.Forall₂ (GroupOf fields) (settledTypes fields) (typeGroups fields) := by
  rw [settled_types_eq]
  show List.Forall₂ _ (List.map _ _) (((drafts fields).filter _).map Draft.group)
  rw [List.forall₂_map_left_iff, List.forall₂_map_right_iff, List.forall₂_same]
  intro draft member
  exact draft_group_of (List.mem_filter.mp member).1

/-! Other orders, and fields without their imports. -/

theorem conflicting_of_perm {first second : List ResolvedField} (same : first.Perm second)
    (type : String) : Conflicting first type ↔ Conflicting second type := by
  have directives : ∀ directive, directive ∈ usingsOf first type ↔
      directive ∈ usingsOf second type := by
    intro directive
    exact ((same.filter _).flatMap_right _).mem_iff
  unfold Conflicting
  simp only [directives]

theorem settled_types_of_perm {first second : List ResolvedField} (same : first.Perm second) :
    (settledTypes first).Perm (settledTypes second) := by
  apply (List.perm_ext_iff_of_nodup ((distinct_nodup _).filter _)
    ((distinct_nodup _).filter _)).mpr
  intro type
  rw [List.mem_filter, List.mem_filter, mem_distinct, mem_distinct,
    (same.map ResolvedField.typeName).mem_iff, decide_eq_true_eq, decide_eq_true_eq,
    conflicting_of_perm same]

theorem exposing_types_of_perm {first second : List ResolvedField} (same : first.Perm second) :
    ((exposing [] first).map ResolvedField.typeName).Perm
      ((exposing [] second).map ResolvedField.typeName) := by
  apply (List.perm_ext_iff_of_nodup (exposing_types_nodup first)
    (exposing_types_nodup second)).mpr
  intro type
  rw [mem_exposing_types, mem_exposing_types, conflicting_of_perm same]

def withoutImports (field : ResolvedField) : ResolvedField :=
  { field with usings := field.usings.filter fun directive => directive.alias?.isSome }

theorem usings_without_imports (fields : List ResolvedField) (type : String) :
    usingsOf (fields.map withoutImports) type =
      (usingsOf fields type).filter fun directive => directive.alias?.isSome := by
  unfold usingsOf fieldsOf
  rw [List.filter_map, List.flatMap_map, List.filter_flatMap]
  rfl

theorem conflicting_without_imports (fields : List ResolvedField) (type : String) :
    Conflicting (fields.map withoutImports) type ↔ Conflicting fields type := by
  unfold Conflicting
  rw [usings_without_imports]
  constructor
  · rintro ⟨first, one, second, other, clash⟩
    exact ⟨first, (List.mem_filter.mp one).1, second, (List.mem_filter.mp other).1, clash⟩
  · rintro ⟨first, one, second, other, clash⟩
    exact ⟨first, List.mem_filter.mpr ⟨one, clash.1⟩, second,
      List.mem_filter.mpr ⟨other, clash.symm.1⟩, clash⟩

theorem settled_types_without_imports (fields : List ResolvedField) :
    settledTypes (fields.map withoutImports) = settledTypes fields := by
  unfold settledTypes
  rw [List.map_map]
  simp only [conflicting_without_imports]
  rfl

theorem exposing_without_imports (before fields : List ResolvedField) :
    exposing (before.map withoutImports) (fields.map withoutImports) =
      (exposing before fields).map withoutImports := by
  induction fields generalizing before with
  | nil => rfl
  | cons field rest induction =>
      have grown : before.map withoutImports ++ [withoutImports field] =
          (before ++ [field]).map withoutImports := by
        rw [List.map_append, List.map_singleton]
      have exposes : Exposes (before.map withoutImports) (withoutImports field) ↔
          Exposes before field := by
        unfold Exposes
        rw [grown, conflicting_without_imports, conflicting_without_imports]
        rfl
      rw [List.map_cons, exposing, exposing, grown, induction]
      by_cases exposed : Exposes before field
      · rw [if_pos (exposes.mpr exposed), if_pos exposed, List.map_cons]
      · rw [if_neg fun given => exposed (exposes.mp given), if_neg exposed]

/-- Grouping makes one group of the fields of each type without a conflict and reports each type
with one, where it becomes visible. Neither the order of the fields nor their imports have a part
in which types these are. -/
theorem build_groups_partition (fields : List ResolvedField) :
    (∃ groups, (buildGroups fields).outcome = .ok groups ∧
      List.Forall₂ (GroupOf fields) (settledTypes fields) groups) ∧
    List.Forall₂ (ReportOf fields) (exposing [] fields) (buildGroups fields).diagnostics ∧
    ((exposing [] fields).map ResolvedField.typeName).Nodup ∧
    (∀ type, type ∈ (exposing [] fields).map ResolvedField.typeName ↔ Conflicting fields type) ∧
    (∀ other : List ResolvedField, other.Perm fields →
      (settledTypes other).Perm (settledTypes fields) ∧
      ((exposing [] other).map ResolvedField.typeName).Perm
        ((exposing [] fields).map ResolvedField.typeName)) ∧
    settledTypes (fields.map withoutImports) = settledTypes fields ∧
    exposing [] (fields.map withoutImports) = (exposing [] fields).map withoutImports := by
  refine ⟨⟨typeGroups fields, rfl, groups_of_types fields⟩, reports_exposing fields,
    exposing_types_nodup fields, mem_exposing_types fields, ?_,
    settled_types_without_imports fields, exposing_without_imports [] fields⟩
  intro other same
  exact ⟨settled_types_of_perm same, exposing_types_of_perm same⟩

def aliasedField (identifier type target : String) : ResolvedField :=
  { identifier
    declaredType := "V"
    containing := TypeSymbol.external type "class"
    nameArgument? := none
    documentation? := none
    location? := some { path := type ++ ".cs", line := 4, column := 8 }
    usings := [{ target, alias? := some "V", isGlobal := false, isStatic := false, text := "" }] }

def aliasedFields : List ResolvedField :=
  [aliasedField "_a" "Sample.Foo" "System.Int32", aliasedField "_b" "Sample.Foo" "System.String",
    aliasedField "_c" "Sample.Foo" "System.String", aliasedField "_d" "Sample.Bar" "System.Int32"]

theorem build_groups_partition_conflict :
    (∃ groups, (buildGroups aliasedFields).outcome = .ok groups ∧
      List.Forall₂ (GroupOf aliasedFields) ["Sample.Bar"] groups) ∧
    List.Forall₂ (ReportOf aliasedFields) [aliasedField "_b" "Sample.Foo" "System.String"]
      (buildGroups aliasedFields).diagnostics ∧
    (buildGroups aliasedFields).diagnostics =
      [{ id := "ANG006"
         severity := .warning
         message := "Using alias 'V' names 'System.Int32' and 'System.String' in different " ++
           "parts of 'Sample.Foo'; no properties can be generated for it"
         path := some "Sample.Foo.cs"
         line := some 4
         column := some 8 }] ∧
    aliasedFields.reverse.Perm aliasedFields ∧
    ((exposing [] aliasedFields.reverse).map ResolvedField.typeName).Perm ["Sample.Foo"] := by
  obtain ⟨groups, reports, -, -, reordered, -⟩ := build_groups_partition aliasedFields
  have reversed := List.reverse_perm aliasedFields
  have types : settledTypes aliasedFields = ["Sample.Bar"] := by decide +kernel
  have exposed : exposing [] aliasedFields =
      [aliasedField "_b" "Sample.Foo" "System.String"] := by decide +kernel
  obtain ⟨-, reported⟩ := reordered _ reversed
  rw [types] at groups
  rw [exposed] at reports reported
  exact ⟨groups, reports, by decide +kernel, reversed, reported⟩

end Grouping

end PropertyGen
