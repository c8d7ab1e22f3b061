import PropertyGen.Proofs.Events
import PropertyGen.Proofs.Partition

/-!
Types that stand in other types. They get no fragment and are reported as nested, but the key of a
group is looked up before the group is rendered: a nested type whose key an earlier type has is
reported for the collision instead, as if a free key could give it a fragment.
-/

namespace PropertyGen

/-- The report on a type that stands in another one. -/
def TypeGroup.nestedReport (group : TypeGroup) : Diagnostic :=
  Templates.typeNotTopLevel.report group.containing.locations.head? [group.containing.display]

namespace Publication

/-- An earlier type outside of all others has the key of a group. -/
def Held (qualified : Bool) (earlier : List TypeGroup) (group : TypeGroup) : Prop :=
  ∃ other ∈ earlier, other.containing.isTopLevel = true ∧
    keyOf qualified other = keyOf qualified group

instance (qualified : Bool) (earlier : List TypeGroup) (group : TypeGroup) :
    Decidable (Held qualified earlier group) :=
  inferInstanceAs (Decidable (∃ other ∈ earlier, _ ∧ _))

inductive ReportsOn (qualified : Bool) (earlier : List TypeGroup) (group : TypeGroup) :
    List Diagnostic → Prop
  | collided {holder : TypeGroup} (listed : holder ∈ earlier)
      (outermost : holder.containing.isTopLevel = true)
      (sameKey : keyOf qualified holder = keyOf qualified group) :
      ReportsOn qualified earlier group
        [collision qualified (keyOf qualified group) group.containing holder.containing]
  | nested (free : ¬ Held qualified earlier group) (inType : group.containing.isTopLevel = false) :
      ReportsOn qualified earlier group [group.nestedReport]
  | published (free : ¬ Held qualified earlier group)
      (outermost : group.containing.isTopLevel = true) : ReportsOn qualified earlier group []

section Reports

variable {qualified : Bool} {earlier : List TypeGroup} {group : TypeGroup}

theorem ReportsOn.ids {reports : List Diagnostic}
    (own : ReportsOn qualified earlier group reports) :
    reports.map (·.id) =
      if Held qualified earlier group then ["ANG004"]
      else if group.containing.isTopLevel = true then [] else ["ANG001"] := by
  cases own with
  | @collided holder listed outermost sameKey =>
      rw [if_pos ⟨holder, listed, outermost, sameKey⟩]
      cases qualified <;> rfl
  | nested free inType =>
      rw [if_neg free, inType]
      rfl
  | published free outermost => rw [if_neg free, if_pos outermost, List.map_nil]

theorem ReportsOn.collided_iff {reports : List Diagnostic}
    (own : ReportsOn qualified earlier group reports) :
    reports.map (·.id) = ["ANG004"] ↔ Held qualified earlier group := by
  rw [own.ids]
  by_cases held : Held qualified earlier group
  · simp [held]
  · by_cases outermost : group.containing.isTopLevel = true <;> simp [held, outermost]

theorem ReportsOn.nested_iff {reports : List Diagnostic}
    (own : ReportsOn qualified earlier group reports)
    (inType : group.containing.isTopLevel = false) :
    reports.map (·.id) = ["ANG001"] ↔ ¬ Held qualified earlier group := by
  rw [own.ids, inType]
  by_cases held : Held qualified earlier group <;> simp [held]

variable (notification : TypeSymbol)

theorem text_iff_top_level :
    (textOf (render notification group)).isSome = true ↔ group.containing.isTopLevel = true := by
  unfold render
  by_cases outermost : group.containing.isTopLevel = true
  · rw [if_pos outermost]
    exact iff_of_true rfl outermost
  · rw [if_neg outermost]
    exact iff_of_false Bool.false_ne_true outermost

theorem reports_on_fate :
    ReportsOn qualified earlier group
      ((fate (render notification) qualified earlier group).reports qualified group) := by
  unfold fate
  cases found : holder? (render notification) qualified earlier (keyOf qualified group) with
  | some holder =>
      have holds := List.find?_some found
      rw [Bool.and_eq_true, decide_eq_true_eq, text_iff_top_level] at holds
      exact .collided (List.mem_of_find?_eq_some found) holds.2 holds.1
  | none =>
      have free : ¬ Held qualified earlier group := by
        rintro ⟨other, listed, outermost, sameKey⟩
        apply List.find?_eq_none.mp found other listed
        rw [Bool.and_eq_true, decide_eq_true_eq, text_iff_top_level]
        exact ⟨sameKey, outermost⟩
      unfold render
      by_cases outermost : group.containing.isTopLevel = true
      · rw [if_pos outermost]
        exact .published free outermost
      · rw [if_neg outermost]
        exact .nested free (Bool.eq_false_iff.mpr outermost)

end Reports

variable {render : TypeGroup → Rendering} {qualified : Bool}

/-- The fate of a group looks back on the groups before it. -/
theorem fates_split {earlier groups : List TypeGroup} {before after : List (TypeGroup × Fate)}
    {settled : TypeGroup × Fate}
    (split : fates render qualified earlier groups = before ++ settled :: after) :
    settled.2 = fate render qualified (earlier ++ before.map (·.1)) settled.1 := by
  induction before generalizing earlier groups with
  | nil =>
      cases groups with
      | nil => cases split
      | cons group rest =>
          obtain ⟨rfl, -⟩ := List.cons.inj split
          rw [List.map_nil, List.append_nil]
  | cons first before induction =>
      cases groups with
      | nil => cases split
      | cons group rest =>
          obtain ⟨rfl, later⟩ := List.cons.inj split
          rw [induction later, List.append_assoc]
          rfl

theorem fragment_keys_unreported (settled : List (TypeGroup × Fate)) :
    (fragmentsOf qualified settled).keys =
      (settled.filter fun entry => (entry.2.reports qualified entry.1).isEmpty).map fun entry =>
        keyOf qualified entry.1 := by
  induction settled with
  | nil => rfl
  | cons entry rest induction =>
      obtain ⟨group, fate⟩ := entry
      rw [fragments_cons, Table.keys_append, induction, List.filter_cons]
      cases fate <;> rfl

end Publication

open Publication

theorem other_report_ids {program : Program} {marker : String} {candidates : List Candidate}
    {fields : List ResolvedField}
    (resolved : (program.resolveFields marker candidates).outcome = .ok fields) :
    ∀ report ∈ (program.resolveFields marker candidates).diagnostics ++
        (Grouping.conflictLog [] fields).map Grouping.Conflict.report,
      report.id ≠ "ANG001" ∧ report.id ≠ "ANG004" := by
  intro report member
  rcases List.mem_append.mp member with onField | onConflict
  · obtain ⟨symbols, -, -, reports⟩ := program.resolve_fields_returns marker resolved
    rw [reports] at onField
    obtain ⟨marking, -, own⟩ := List.mem_flatMap.mp onField
    have listed : report.id ∈ marking.reportIds marking.verdict := by
      rw [← marking.reports_ids]
      exact List.mem_map_of_mem own
    unfold Marking.reportIds at listed
    rcases List.mem_append.mp listed with duplicate | verdict
    · split at duplicate
      · rw [List.mem_singleton.mp duplicate]
        decide
      · cases duplicate
    · cases marked : marking.verdict <;> rw [marked] at verdict
      · rw [List.mem_singleton.mp verdict]
        decide
      · rw [List.mem_singleton.mp verdict]
        decide
      · cases verdict
  · obtain ⟨conflict, -, rfl⟩ := List.mem_map.mp onConflict
    have number : conflict.report.id = "ANG006" := rfl
    rw [number]
    decide

def Bound.accounts (bound : Bound) (options : Options) (fields : List ResolvedField) :
    List (TypeGroup × List Diagnostic) :=
  (settledGroups render options bound fields).map fun settled =>
    (settled.1, settled.2.reports options.qualifiedKeys settled.1)

namespace Bound

variable (bound : Bound) (options : Options) (fields : List ResolvedField)

theorem accounts_groups : (bound.accounts options fields).map (·.1) = typeGroups fields := by
  unfold accounts
  rw [List.map_map]
  exact fates_groups (render bound.notification) options.qualifiedKeys [] (typeGroups fields)

theorem accounts_reports :
    (bound.accounts options fields).flatMap (·.2) =
      (settledGroups render options bound fields).flatMap fun settled =>
        settled.2.reports options.qualifiedKeys settled.1 :=
  List.flatMap_map ..

theorem reports_on_account {bound : Bound} {options : Options} {fields : List ResolvedField}
    {earlier later : List (TypeGroup × List Diagnostic)} {account : TypeGroup × List Diagnostic}
    (split : bound.accounts options fields = earlier ++ account :: later) :
    ReportsOn options.qualifiedKeys (earlier.map (·.1)) account.1 account.2 := by
  obtain ⟨before, rest, parts, rfl, others⟩ := List.map_eq_append_iff.mp split
  obtain ⟨settled, after, rfl, rfl, rfl⟩ := List.map_eq_cons_iff.mp others
  have looked := fates_split parts
  rw [List.map_map]
  show ReportsOn _ (before.map (·.1)) settled.1 (settled.2.reports _ settled.1)
  rw [looked]
  exact reports_on_fate bound.notification

end Bound

/-- What is reported on the types of a run: on a nested type without a conflict that it is nested,
exactly if no earlier type has its key, and else that it collides with such a type. -/
theorem nested_reported_iff {sources : List Source} {options : Options} {result : GenerationResult}
    (returned : (generate sources options).outcome = .ok result) :
    ∃ bound fields others, ∃ accounts : List (TypeGroup × List Diagnostic),
      BoundIn sources options bound ∧
      (bound.program.resolveFields bound.marker.metadataName
        (sources.flatMap Source.candidates)).outcome = .ok fields ∧
      result.diagnostics = others ++ accounts.flatMap (·.2) ∧
      (∀ report ∈ others, report.id ≠ "ANG001" ∧ report.id ≠ "ANG004") ∧
      result.keys = Marker.key :: (accounts.filter (·.2.isEmpty)).map
        (fun account => keyOf options.qualifiedKeys account.1) ∧
      accounts.map (·.1) = typeGroups fields ∧
      (∀ type ∈ fields.map ResolvedField.typeName, ¬ Grouping.Conflicting fields type →
        (accounts.map fun account => account.1.containing.metadataName).count type = 1) ∧
      ∀ earlier group reports later, accounts = earlier ++ (group, reports) :: later →
        ReportsOn options.qualifiedKeys (earlier.map (·.1)) group reports ∧
        (reports.map (·.id) = ["ANG004"] ↔
          Held options.qualifiedKeys (earlier.map (·.1)) group) ∧
        (group.containing.isTopLevel = false →
          (reports.map (·.id) = ["ANG001"] ↔
            ¬ Held options.qualifiedKeys (earlier.map (·.1)) group)) := by
  obtain ⟨program, bound, fields, built, bind, resolved, -, fragments, diagnostics⟩ :=
    generate_returns.mp returned
  refine ⟨bound, fields, _, bound.accounts options fields, ⟨program, built, bind⟩, resolved, ?_,
    other_report_ids resolved, ?_, bound.accounts_groups options fields, ?_, ?_⟩
  · rw [diagnostics, bound.accounts_reports]
  · unfold GenerationResult.keys Bound.accounts
    rw [fragments, List.map_cons, List.filter_map, List.map_map]
    exact congrArg (Marker.key :: ·) (fragment_keys_unreported _)
  · intro type known calm
    have grouped : type ∈ (typeGroups fields).map (·.containing.metadataName) := by
      rw [Grouping.type_group_names, ← Grouping.settled_types_eq]
      exact List.mem_filter.mpr ⟨mem_distinct.mpr known, decide_eq_true calm⟩
    have names : ((bound.accounts options fields).map fun account =>
        account.1.containing.metadataName) =
          (typeGroups fields).map (·.containing.metadataName) := by
      rw [← bound.accounts_groups options fields, List.map_map]
      rfl
    rw [names, (Grouping.type_group_names_nodup fields).count, if_pos grouped]
  · intro earlier group reports later split
    have own := Bound.reports_on_account split
    exact ⟨own, own.collided_iff, own.nested_iff⟩

section Samples

open Marker (branch)

/-- A class, and a class with two others in it, of which one has the name of the first class. -/
def namesakes : Source :=
  { path := "F0.cs"
    bytes := Text.Utf8.encode ("class I \x7b [AutoNotify.NotifiableProperty] int _a; \x7d class O "
      ++ "\x7b class I \x7b [AutoNotify.NotifiableProperty] int _b; \x7d "
      ++ "class J \x7b [AutoNotify.NotifiableProperty] int _c; \x7d \x7d")
    root :=
      branch "compilation_unit" 0 167 [
        classWith 0 1 51 [markedMember 10 2],
        classWith 52 1 167 [
          classWith 62 1 113 [markedMember 72 2],
          classWith 114 1 165 [markedMember 124 2]]] }

theorem namesakes_found :
    ((findFields [namesakes] Options.standard).outcome.toOption.any fun fields =>
      ((typeGroups fields).map fun group =>
        (group.containing.isTopLevel, group.containing.metadataName, group.containing.name)) =
          [(true, "I", "I"), (false, "O+I", "I"), (false, "O+J", "J")]) = true := by
  decide +kernel

theorem namesakes_groups {fields : List ResolvedField}
    (found : (findFields [namesakes] Options.standard).outcome = .ok fields) :
    ∃ first second third, typeGroups fields = [first, second, third] ∧
      (first.containing.isTopLevel = true ∧ first.containing.name = "I") ∧
      (second.containing.isTopLevel = false ∧ second.containing.metadataName = "O+I" ∧
        second.containing.name = "I") ∧
      third.containing.isTopLevel = false ∧ third.containing.metadataName = "O+J" ∧
        third.containing.name = "J" := by
  have listed := namesakes_found
  rw [found] at listed
  obtain ⟨first, _, all, own, rest⟩ := List.map_eq_cons_iff.mp (of_decide_eq_true listed)
  obtain ⟨second, _, rfl, other, last⟩ := List.map_eq_cons_iff.mp rest
  obtain ⟨third, rfl, another⟩ := List.map_eq_singleton_iff.mp last
  simp only [Prod.mk.injEq] at own other another
  exact ⟨first, second, third, all, ⟨own.1, own.2.2⟩, other, another⟩

theorem namesakes_generate :
    ∃ result, (generate [namesakes] Options.standard).outcome = .ok result := by
  obtain ⟨fields, found, -⟩ := except_any_returns namesakes_found
  obtain ⟨first, second, third, groups, ⟨outermost, -⟩, -⟩ := namesakes_groups found
  obtain ⟨result, bound, returned, -⟩ := first_group_published found rfl groups outermost
  exact ⟨result, returned⟩

theorem key_of_name {group : TypeGroup} {name : String} (own : group.containing.name = name) :
    keyOf false group = name ++ keySuffix := by
  rw [← own]
  rfl

/-- Accounts of three groups are what is reported on each of these. -/
theorem three_accounts {accounts : List (TypeGroup × List Diagnostic)}
    {first second third : TypeGroup} (groups : accounts.map (·.1) = [first, second, third]) :
    ∃ one two three, accounts = [(first, one), (second, two), (third, three)] := by
  obtain ⟨⟨_, one⟩, _, all, rfl, rest⟩ := List.map_eq_cons_iff.mp groups
  obtain ⟨⟨_, two⟩, _, rfl, rfl, last⟩ := List.map_eq_cons_iff.mp rest
  obtain ⟨⟨_, three⟩, rfl, rfl⟩ := List.map_eq_singleton_iff.mp last
  exact ⟨one, two, three, all⟩

theorem nested_reported_iff_namesakes :
    ∃ result, ∃ first second third : TypeGroup, ∃ others reports : List Diagnostic,
      (generate [namesakes] Options.standard).outcome = .ok result ∧
      third.containing.metadataName = "O+J" ∧ third.containing.isTopLevel = false ∧
      ¬ Held false [first, second] third ∧
      result.diagnostics = others ++ reports ∧ reports.map (·.id) = ["ANG001"] := by
  obtain ⟨result, returned⟩ := namesakes_generate
  obtain ⟨bound, fields, others, accounts, own, resolved, diagnostics, -, -, listed, -, looked⟩ :=
    nested_reported_iff returned
  obtain ⟨first, second, third, groups, ⟨-, firstName⟩, ⟨-, -, secondName⟩, inType, name,
    thirdName⟩ := namesakes_groups (find_fields_returns.mpr ⟨bound, own, resolved⟩)
  obtain ⟨one, two, three, rfl⟩ := three_accounts (listed.trans groups)
  have free : ¬ Held false [first, second] third := by
    rintro ⟨other, member, -, sameKey⟩
    have otherName : other.containing.name = "I" := by
      rcases List.mem_cons.mp member with same | later
      · rw [same, firstName]
      · rw [List.mem_singleton.mp later, secondName]
    rw [key_of_name thirdName, key_of_name otherName] at sameKey
    exact absurd sameKey (by decide)
  obtain ⟨-, -, nested⟩ := looked [(first, one), (second, two)] third three [] rfl
  refine ⟨result, first, second, third, others ++ (one ++ two), three, returned, name, inType, free,
    ?_, (nested inType).mpr free⟩
  rw [diagnostics]
  simp

/-- A nested class is reported for a collision with a class of its name outside of all others. -/
theorem nested_collides :
    (∃ result bound fields, ∃ group ∈ typeGroups fields, ∃ holder,
      (generate [namesakes] Options.standard).outcome = .ok result ∧
      BoundIn [namesakes] Options.standard bound ∧
      (bound.program.resolveFields bound.marker.metadataName
        ([namesakes].flatMap Source.candidates)).outcome = .ok fields ∧
      group.containing.metadataName = "O+I" ∧ group.containing.isTopLevel = false ∧
      collision false (keyOf false group) group.containing holder ∈ result.diagnostics) ∧
    ¬ ∀ (sources : List Source) (options : Options) (result : GenerationResult) (bound : Bound)
      (fields : List ResolvedField), (generate sources options).outcome = .ok result →
        BoundIn sources options bound →
        (bound.program.resolveFields bound.marker.metadataName
          (sources.flatMap Source.candidates)).outcome = .ok fields →
        ∀ group ∈ typeGroups fields, group.containing.isTopLevel = false → ∀ holder,
          collision options.qualifiedKeys (keyOf options.qualifiedKeys group) group.containing
            holder ∉ result.diagnostics := by
  obtain ⟨result, returned⟩ := namesakes_generate
  obtain ⟨program, bound, fields, built, bind, resolved, -, -, diagnostics⟩ :=
    generate_returns.mp returned
  have own : BoundIn [namesakes] Options.standard bound := ⟨program, built, bind⟩
  obtain ⟨first, second, third, groups, ⟨outermost, firstName⟩, ⟨inType, name, secondName⟩, -⟩ :=
    namesakes_groups (find_fields_returns.mpr ⟨bound, own, resolved⟩)
  have member : second ∈ typeGroups fields := by
    rw [groups]
    simp
  obtain ⟨one, two, three, all⟩ :=
    three_accounts ((bound.accounts_groups Options.standard fields).trans groups)
  have split : bound.accounts Options.standard fields =
      [(first, one)] ++ (second, two) :: [(third, three)] := all
  have held : Held false [first] second :=
    ⟨first, List.mem_singleton_self _, outermost, by
      rw [key_of_name firstName, key_of_name secondName]⟩
  obtain ⟨holder, reported⟩ : ∃ holder,
      collision false (keyOf false second) second.containing holder ∈ two := by
    have reports : ReportsOn false [first] second two := Bound.reports_on_account split
    cases reports with
    | @collided holder _ _ _ => exact ⟨holder.containing, List.mem_singleton_self _⟩
    | nested free _ => exact absurd held free
    | published free _ => exact absurd held free
  have listed : collision false (keyOf false second) second.containing holder ∈
      result.diagnostics := by
    rw [diagnostics, ← bound.accounts_reports Options.standard, all]
    simp [reported]
  refine ⟨⟨result, bound, fields, second, member, holder, returned, own, resolved, name, inType,
    listed⟩, fun never => ?_⟩
  exact never _ _ result bound fields returned own resolved second member inType holder listed

end Samples

end PropertyGen
