import PropertyGen.Proofs.Evaluation

/-!
The account of a generation run. Each marked field is settled once and each type of a resolved
field comes to one fragment or one report; nothing else is published or reported.
-/

namespace PropertyGen

open Grouping Publication

inductive TypeOutcome where
  | conflicting (conflict : Conflict)
  | grouped (group : TypeGroup) (fate : Fate)
deriving DecidableEq, Repr

namespace TypeOutcome

def conflict? : TypeOutcome → Option Conflict
  | .conflicting conflict => some conflict
  | .grouped _ _ => none

def settled? : TypeOutcome → Option (TypeGroup × Fate)
  | .conflicting _ => none
  | .grouped group fate => some (group, fate)

variable (qualified : Bool)

def fragment? (outcome : TypeOutcome) : Option (String × Points) :=
  outcome.settled?.bind (Publication.fragment? qualified)

def reports : TypeOutcome → List Diagnostic
  | .conflicting conflict => [conflict.report]
  | .grouped group fate => fate.reports qualified group

def reportIds : TypeOutcome → List String
  | .conflicting _ => ["ANG006"]
  | .grouped _ (.published _) => []
  | .grouped _ (.collided _) => ["ANG004"]
  | .grouped _ .nested => ["ANG001"]
  | .grouped _ (.failed _) => ["ANG000"]

theorem reports_ids (outcome : TypeOutcome) :
    (outcome.reports qualified).map (·.id) = outcome.reportIds := by
  cases outcome with
  | conflicting conflict => rfl
  | grouped group fate =>
      cases fate with
      | published text => rfl
      | collided holder => cases qualified <;> rfl
      | nested => rfl
      | failed reason => rfl

theorem one_result (outcome : TypeOutcome) :
    (outcome.fragment? qualified).toList.length + (outcome.reports qualified).length = 1 := by
  cases outcome with
  | conflicting conflict => rfl
  | grouped group fate => cases fate <;> rfl

end TypeOutcome

/-- The ways in which a type can come out, given the resolved fields and how groups are
rendered. A fate looks back at the groups before. -/
inductive ComesOut (render : TypeGroup → Rendering) (qualified : Bool)
    (fields : List ResolvedField) (type : String) : TypeOutcome → Prop
  | conflicting (conflict : Conflict) (logged : conflict ∈ conflictLog [] fields)
      (own : conflict.typeName = type)
      (clash : clash? fields type = some (conflict.present, conflict.added)) :
      ComesOut render qualified fields type (.conflicting conflict)
  | grouped (before after : List TypeGroup) (group : TypeGroup)
      (own : group.containing.metadataName = type) (agreement : clash? fields type = none)
      (place : typeGroups fields = before ++ group :: after) :
      ComesOut render qualified fields type
        (.grouped group (Publication.fate render qualified before group))

/-- How the entry of a type in an account comes from its draft. -/
inductive Entered (log : List Conflict) (draft : Draft) : String × TypeOutcome → Prop
  | conflicting (conflict : Conflict) (conflicting : draft.isConflicting = true)
      (logged : conflict ∈ log) (own : conflict.typeName = draft.name) :
      Entered log draft (draft.name, .conflicting conflict)
  | grouped (fate : Fate) (agreeing : draft.isConflicting = false) :
      Entered log draft (draft.name, .grouped draft.group fate)

section Entries

variable {log : List Conflict} {drafts : List Draft} {entries : List (String × TypeOutcome)}

theorem entered_names (entered : List.Forall₂ (Entered log) drafts entries) :
    entries.map (·.1) = drafts.map Draft.name := by
  induction entered with
  | nil => rfl
  | cons head rest induction =>
      rw [List.map_cons, List.map_cons, induction]
      cases head <;> rfl

theorem mem_entered {entry : String × TypeOutcome} (entered : List.Forall₂ (Entered log) drafts entries)
    (member : entry ∈ entries) : ∃ draft ∈ drafts, Entered log draft entry :=
  forall_two_member entered member

theorem entered_mem {draft : Draft} (entered : List.Forall₂ (Entered log) drafts entries)
    (member : draft ∈ drafts) : ∃ entry ∈ entries, Entered log draft entry := by
  induction entered with
  | nil => cases member
  | cons head rest induction =>
      rcases List.mem_cons.mp member with rfl | later
      · exact ⟨_, List.mem_cons_self, head⟩
      · obtain ⟨entry, inside, own⟩ := induction later
        exact ⟨entry, List.mem_cons_of_mem _ inside, own⟩

/-- Every draft can be entered: the conflicting ones with their conflict, the others with the
fates of their groups in order. -/
theorem exists_entries (render : TypeGroup → Rendering) (qualified : Bool)
    (earlier : List TypeGroup)
    (logged : ∀ draft ∈ drafts, draft.isConflicting = true →
      ∃ conflict ∈ log, conflict.typeName = draft.name) :
    ∃ entries, List.Forall₂ (Entered log) drafts entries ∧
      entries.filterMap (·.2.settled?) =
        fates render qualified earlier
          ((drafts.filter fun draft => !draft.isConflicting).map Draft.group) := by
  induction drafts generalizing earlier with
  | nil => exact ⟨[], .nil, rfl⟩
  | cons draft rest induction =>
      have restLogged : ∀ other ∈ rest, other.isConflicting = true →
          ∃ conflict ∈ log, conflict.typeName = other.name :=
        fun other inside => logged other (List.mem_cons_of_mem _ inside)
      cases conflicting : draft.isConflicting with
      | true =>
          obtain ⟨conflict, inLog, own⟩ := logged draft List.mem_cons_self conflicting
          obtain ⟨entries, entered, settled⟩ := induction earlier restLogged
          refine ⟨(draft.name, .conflicting conflict) :: entries,
            .cons (.conflicting conflict conflicting inLog own) entered, ?_⟩
          rw [List.filter_cons_of_neg (by simp [conflicting]), ← settled]
          rfl
      | false =>
          obtain ⟨entries, entered, settled⟩ := induction (earlier ++ [draft.group]) restLogged
          refine ⟨(draft.name, .grouped draft.group
              (Publication.fate render qualified earlier draft.group)) :: entries,
            .cons (.grouped _ conflicting) entered, ?_⟩
          rw [List.filter_cons_of_pos (by simp [conflicting]), List.map_cons, fates, ← settled]
          rfl

theorem entry_reports (qualified : Bool) (entries : List (String × TypeOutcome)) :
    ((entries.filterMap (·.2.conflict?)).map Conflict.report ++
        (entries.filterMap (·.2.settled?)).flatMap fun settled =>
          settled.2.reports qualified settled.1).Perm
      (entries.flatMap fun entry => entry.2.reports qualified) := by
  induction entries with
  | nil => exact .nil
  | cons entry rest induction =>
      obtain ⟨name, outcome⟩ := entry
      cases outcome with
      | conflicting conflict => exact induction.cons _
      | grouped group fate =>
          show (_ ++ (fate.reports qualified group ++ _)).Perm (fate.reports qualified group ++ _)
          rw [← List.append_assoc]
          apply (List.Perm.append_right _ List.perm_append_comm).trans
          rw [List.append_assoc]
          exact induction.append_left _

theorem entry_fragments (qualified : Bool) (entries : List (String × TypeOutcome)) :
    fragmentsOf qualified (entries.filterMap (·.2.settled?)) =
      entries.filterMap (·.2.fragment? qualified) :=
  List.filterMap_filterMap

theorem entered_conflict_names (entered : List.Forall₂ (Entered log) drafts entries) :
    ((entries.filterMap (·.2.conflict?)).map Conflict.typeName).Sublist (drafts.map Draft.name) := by
  induction entered with
  | nil => exact .slnil
  | cons head rest induction =>
      cases head with
      | conflicting conflict _ _ own =>
          show (conflict.typeName :: _).Sublist (_ :: _)
          rw [own]
          exact induction.cons_cons _
      | grouped fate _ => exact induction.cons _

theorem entry_conflicts {fields : List ResolvedField}
    (entered : List.Forall₂ (Entered (conflictLog [] fields)) (Grouping.drafts fields) entries) :
    (entries.filterMap (·.2.conflict?)).Perm (conflictLog [] fields) := by
  have start : (([] : List Draft).map Draft.name).Nodup := List.nodup_nil
  have logNodup := (conflict_log_types start fields).1
  have names := entered_conflict_names entered
  have entriesNodup := List.Nodup.of_map _ (names.nodup (draft_names_nodup fields))
  apply (List.perm_ext_iff_of_nodup entriesNodup (List.Nodup.of_map _ logNodup)).mpr
  intro conflict
  constructor
  · intro member
    obtain ⟨entry, inside, found⟩ := List.mem_filterMap.mp member
    obtain ⟨draft, -, own⟩ := mem_entered entered inside
    cases own with
    | conflicting met _ logged _ => exact Option.some.inj found ▸ logged
    | grouped => cases found
  · intro member
    have named := List.mem_map_of_mem (f := Conflict.typeName) member
    obtain ⟨draft, inside, name, conflicting⟩ := (in_conflict_iff_log fields _).mp named
    obtain ⟨entry, entryInside, own⟩ := entered_mem entered inside
    cases own with
    | grouped fate agreeing => cases conflicting.symm.trans agreeing
    | conflicting met _ logged metName =>
        have same : met = conflict :=
          List.inj_on_of_nodup_map logNodup logged member (metName.trans name)
        exact List.mem_filterMap.mpr ⟨_, entryInside, congrArg some same⟩

end Entries

section Uniqueness

variable {render : TypeGroup → Rendering} {qualified : Bool} {fields : List ResolvedField}
  {type : String}

/-- The groups before a group and the group itself are known from the name of its type. -/
theorem place_unique {before after otherBefore otherAfter : List TypeGroup}
    {group other : TypeGroup} (place : typeGroups fields = before ++ group :: after)
    (otherPlace : typeGroups fields = otherBefore ++ other :: otherAfter)
    (same : group.containing.metadataName = other.containing.metadataName) :
    before = otherBefore ∧ group = other := by
  have names := type_group_names_nodup fields
  have inside : group ∈ typeGroups fields := by
    rw [place]
    simp
  have otherInside : other ∈ typeGroups fields := by
    rw [otherPlace]
    simp
  have equal : group = other := List.inj_on_of_nodup_map names inside otherInside same
  have once := List.Nodup.of_map _ names
  have apart : other ∉ before ∧ other ∉ after := by
    rw [place, ← equal] at *
    rw [List.nodup_middle, List.nodup_cons] at once
    simpa using once.1
  have split := (List.append_cons_inj_of_notMem apart.1 apart.2).mp (place.symm.trans otherPlace)
  exact ⟨split.1, equal⟩

theorem comes_out_unique {outcome other : TypeOutcome}
    (comes : ComesOut render qualified fields type outcome)
    (otherComes : ComesOut render qualified fields type other) : outcome = other := by
  cases comes with
  | conflicting conflict logged own clash =>
      cases otherComes with
      | conflicting another anotherLogged anotherOwn _ =>
          have start : (([] : List Draft).map Draft.name).Nodup := List.nodup_nil
          have once := (conflict_log_types start fields).1
          rw [List.inj_on_of_nodup_map once logged anotherLogged (own.trans anotherOwn.symm)]
      | grouped _ _ _ _ agreement _ => cases clash.symm.trans agreement
  | grouped before after group own agreement place =>
      cases otherComes with
      | conflicting _ _ _ clash => cases clash.symm.trans agreement
      | grouped otherBefore _ another anotherOwn _ anotherPlace =>
          obtain ⟨rfl, rfl⟩ := place_unique place anotherPlace (own.trans anotherOwn.symm)
          rfl

theorem entered_comes_out {entries : List (String × TypeOutcome)}
    (entered : List.Forall₂ (Entered (conflictLog [] fields)) (Grouping.drafts fields) entries)
    (settled : entries.filterMap (·.2.settled?) = fates render qualified [] (typeGroups fields))
    {entry : String × TypeOutcome} (member : entry ∈ entries) :
    ComesOut render qualified fields entry.1 entry.2 := by
  obtain ⟨draft, inside, own⟩ := mem_entered entered member
  cases own with
  | conflicting conflict _ logged name =>
      exact .conflicting conflict logged name (name ▸ conflict_log_clash logged)
  | grouped fate agreeing =>
      have listed : (draft.group, fate) ∈ fates render qualified [] (typeGroups fields) := by
        rw [← settled]
        exact List.mem_filterMap.mpr ⟨_, member, rfl⟩
      obtain ⟨before, after, place, looked⟩ := fates_member listed
      have agreement : clash? fields draft.name = none := by
        rw [← Option.isNone_iff_eq_none, ← Option.not_isSome, ← (draft_state inside).2, agreeing]
        rfl
      have fateEq : fate = Publication.fate render qualified before draft.group := looked
      show ComesOut render qualified fields draft.name (.grouped draft.group fate)
      rw [fateEq]
      exact .grouped before after draft.group rfl agreement place

end Uniqueness

/-- The books of a run: what each declarator declares, the marked ones among these with how they
are settled, the fields that are resolved, and how each of their types comes out. -/
structure Account where
  symbols : List (Option FieldSymbol)
  markings : List Marking
  verdicts : List Verdict
  fields : List ResolvedField
  types : List (String × TypeOutcome)

/-- The books are in balance with the sources on one side and the result on the other. -/
structure Account.Balanced (renderer : Renderer) (options : Options) (bound : Bound)
    (sources : List Source) (result : GenerationResult) (account : Account) : Prop where
  symbols : bound.program.HaveSymbols
    (Program.declaratorsOf (sources.flatMap Source.candidates)) account.symbols
  marked : account.markings.map Marking.field = (account.symbols.filterMap id).filter fun field =>
    ∃ used ∈ field.attributes, used.type? = some bound.marker.metadataName
  markings : ∀ marking ∈ account.markings, marking.Reads bound.marker.metadataName
  verdicts : List.Forall₂ Marking.Settles account.markings account.verdicts
  one_verdict : ∀ marking ∈ account.markings, ∃! verdict, marking.Settles verdict
  fields : account.fields = account.verdicts.filterMap Verdict.field?
  types_listed : account.types.map (·.1) = distinct (account.fields.map ResolvedField.typeName)
  types_come_out : ∀ entry ∈ account.types,
    ComesOut (renderer bound.notification) options.qualifiedKeys account.fields entry.1 entry.2
  one_outcome : ∀ entry ∈ account.types,
    (∃! outcome, ComesOut (renderer bound.notification) options.qualifiedKeys account.fields
      entry.1 outcome) ∧
    (entry.2.fragment? options.qualifiedKeys).toList.length +
      (entry.2.reports options.qualifiedKeys).length = 1
  fragments : result.fragments = (Marker.key, Points.ofText Marker.text) ::
    account.types.filterMap (·.2.fragment? options.qualifiedKeys)
  reports : result.diagnostics.Perm
    (account.markings.flatMap Marking.reports ++
      account.types.flatMap (·.2.reports options.qualifiedKeys))
  report_ids : (result.diagnostics.map (·.id)).Perm
    ((List.zipWith Marking.reportIds account.markings account.verdicts).flatten ++
      account.types.flatMap (·.2.reportIds))

theorem settled_verdicts (markings : List Marking) :
    List.Forall₂ Marking.Settles markings (markings.map Marking.verdict) := by
  induction markings with
  | nil => exact .nil
  | cons marking rest induction => exact .cons marking.verdict_settles induction

theorem report_ids_of_markings (markings : List Marking) :
    (markings.flatMap Marking.reports).map (·.id) =
      (List.zipWith Marking.reportIds markings (markings.map Marking.verdict)).flatten := by
  induction markings with
  | nil => rfl
  | cons marking rest induction =>
      rw [List.flatMap_cons, List.map_append, induction, marking.reports_ids]
      rfl

theorem report_ids_of_types (qualified : Bool) (entries : List (String × TypeOutcome)) :
    (entries.flatMap (·.2.reports qualified)).map (·.id) = entries.flatMap (·.2.reportIds) := by
  rw [List.map_flatMap]
  congr 1
  funext entry
  exact entry.2.reports_ids qualified

/-- Every marked field and every type of a resolved field is accounted for exactly once, and
nothing but the marker is published, and nothing is reported, beside what they come to. -/
theorem generate_balances_account (renderer : Renderer) (sources : List Source) (options : Options)
    (result : GenerationResult)
    (returned : (generateWith renderer sources options).outcome = .ok result) :
    ∃ program bound account, Program.build sources References.standard = .ok program ∧
      (program.bind options).outcome = .ok bound ∧
      Account.Balanced renderer options bound sources result account := by
  obtain ⟨program, bound, fields, built, bind, resolved, readable, fragments, diagnostics⟩ :=
    generate_returns.mp returned
  obtain ⟨symbols, haveSymbols, fieldsEq, reports⟩ :=
    bound.program.resolve_fields_returns bound.marker.metadataName resolved
  have logged : ∀ draft ∈ Grouping.drafts fields, draft.isConflicting = true →
      ∃ conflict ∈ conflictLog [] fields, conflict.typeName = draft.name := by
    intro draft inside conflicting
    exact List.mem_map.mp ((in_conflict_iff_log fields draft.name).mpr
      ⟨draft, inside, rfl, conflicting⟩)
  obtain ⟨types, entered, settled⟩ :=
    exists_entries (renderer bound.notification) options.qualifiedKeys [] logged
  have settledGroups : types.filterMap (·.2.settled?) =
      settledGroups renderer options bound fields := settled
  have comesOut : ∀ entry ∈ types, ComesOut (renderer bound.notification) options.qualifiedKeys
      fields entry.1 entry.2 := fun entry member => entered_comes_out entered settled member
  have allReports : result.diagnostics.Perm
      ((Program.markingsOf bound.marker.metadataName symbols).flatMap Marking.reports ++
        types.flatMap (·.2.reports options.qualifiedKeys)) := by
    rw [diagnostics, reports, List.append_assoc, ← settledGroups]
    apply List.Perm.append_left _
    refine List.Perm.trans ?_ (entry_reports options.qualifiedKeys types)
    exact List.Perm.append_right _ ((entry_conflicts entered).symm.map Conflict.report)
  refine ⟨program, bound,
    { symbols, fields, types
      markings := Program.markingsOf bound.marker.metadataName symbols
      verdicts := (Program.markingsOf bound.marker.metadataName symbols).map Marking.verdict },
    built, bind, ?_⟩
  exact
    { symbols := haveSymbols
      marked := Program.markings_of_fields _ symbols
      markings := fun _ member => Program.markings_of_read member
      verdicts := settled_verdicts _
      one_verdict := fun marking _ => marking.verdict_unique
      fields := fieldsEq
      types_listed := (entered_names entered).trans (drafted fields).names
      types_come_out := comesOut
      one_outcome := fun entry member =>
        ⟨⟨entry.2, comesOut entry member, fun _ other =>
          comes_out_unique other (comesOut entry member)⟩,
          entry.2.one_result options.qualifiedKeys⟩
      fragments := by rw [fragments, ← settledGroups, entry_fragments]
      reports := allReports
      report_ids := by
        apply (allReports.map (·.id)).trans
        rw [List.map_append, report_ids_of_markings, report_ids_of_types] }

open Marker (branch leaf token fieldLeaf fieldBranch) in
/-- A type with a static and an instance field, both of them marked. -/
def twoFields : Source :=
  { path := "Two.cs"
    bytes := Text.Utf8.encode ("using AutoNotify;\npartial class X \x7b [NotifiableProperty] static "
      ++ "int _a; [NotifiableProperty] int _b; \x7d")
    root := branch "compilation_unit" 0 102 [
      branch "using_directive" 0 17 [
        token "using" 0 5,
        leaf "identifier" 6 16,
        token ";" 16 17],
      branch "class_declaration" 18 102 [
        branch "modifier" 18 25 [token "partial" 18 25],
        token "class" 26 31,
        fieldLeaf "identifier" "name" 32 33,
        fieldBranch "declaration_list" "body" 34 102 [
          token "\x7b" 34 35,
          branch "field_declaration" 36 71 [
            branch "attribute_list" 36 56 [
              token "[" 36 37,
              branch "attribute" 37 55 [fieldLeaf "identifier" "name" 37 55],
              token "]" 55 56],
            branch "modifier" 57 63 [token "static" 57 63],
            branch "variable_declaration" 64 70 [
              fieldLeaf "predefined_type" "type" 64 67,
              branch "variable_declarator" 68 70 [fieldLeaf "identifier" "name" 68 70]],
            token ";" 70 71],
          branch "field_declaration" 72 100 [
            branch "attribute_list" 72 92 [
              token "[" 72 73,
              branch "attribute" 73 91 [fieldLeaf "identifier" "name" 73 91],
              token "]" 91 92],
            branch "variable_declaration" 93 99 [
              fieldLeaf "predefined_type" "type" 93 96,
              branch "variable_declarator" 97 99 [fieldLeaf "identifier" "name" 97 99]],
            token ";" 99 100],
          token "\x7d" 101 102]]] }

def twoField (name : String) (modifiers : List String) (marker column : Nat) : FieldSymbol :=
  { name
    type := "int"
    containing :=
      { metadataName := "X"
        name := "X"
        space := ""
        kind := "class"
        typeParameters := ""
        containing? := none
        interfaces := []
        locations := [{ path := "Two.cs", line := 1, column := 0 }]
        isExternal := false }
    attributes :=
      [{ type? := some Marker.metadataName
         positional := []
         named := []
         location? := some { path := "Two.cs", line := 1, column := marker } }]
    modifiers
    documentation? := none
    location := { path := "Two.cs", line := 1, column }
    usings :=
      [{ target := "AutoNotify"
         alias? := none
         isGlobal := false
         isStatic := false
         text := "using AutoNotify;" }] }

def twoSymbols : List FieldSymbol := [twoField "_a" ["static"] 19 50, twoField "_b" [] 55 79]

theorem two_fields_known : Knows [twoFields] (runNames ["X"] []) := knows_sole (by decide +kernel)

theorem two_fields_run :
    (((Bound.knowing? (runNames ["X"] []) [twoFields]).map fun bound =>
        (bound.marker.metadataName, (Program.declaratorsOf ([twoFields].flatMap Source.candidates)).map
          fun declarator =>
            (bound.program.fieldSymbol? declarator.1 declarator.2).outcome.toOption)) =
      some (Marker.metadataName, (twoSymbols.map some).map some)) ∧
    ((resultKnowing? (runNames ["X"] []) [twoFields]).map fun result =>
        (result.fragments.map (·.1), result.diagnostics.map (·.id))) =
      some ([Marker.key, "X_autoNotify"], ["ANG003"]) := by
  decide +kernel

theorem static_settled {marking : Marking} {verdict : Verdict}
    (isStatic : marking.field.modifiers = ["static"]) (settles : marking.Settles verdict) :
    verdict = .unsupported "static" := by
  apply marking.settles_unique settles
  exact .unsupported "static" (.static (by simp [isStatic]) (by simp [isStatic]))

theorem plain_settled {marking : Marking} {verdict : Verdict}
    (plain : marking.field.modifiers = []) (unnamed : marking.first.named = [])
    (settles : marking.Settles verdict) :
    verdict = .accepted marking.resolved ∧ marking.resolved.override? = none := by
  have gives : marking.Gives none := .absent (by simp [unnamed])
  have override : marking.resolved.override? = none := by
    simp [ResolvedField.override?, Marking.resolved, marking.gives_iff.mp gives]
  refine ⟨marking.settles_unique settles ?_, override⟩
  exact .accepted none (by simp [Marking.Plain, plain]) gives (override ▸ .absent)

theorem two_fields_settled {markings : List Marking} {verdicts : List Verdict} {marker : String}
    (fields : markings.map Marking.field = twoSymbols)
    (reads : ∀ marking ∈ markings, marking.Reads marker)
    (settled : List.Forall₂ Marking.Settles markings verdicts) :
    ∃ field, verdicts = [.unsupported "static", .accepted field] ∧ field.identifier = "_b" ∧
      field.override? = none := by
  unfold twoSymbols at fields
  obtain ⟨first, rest, rfl, isStatic, fields⟩ := List.map_eq_cons_iff.mp fields
  obtain ⟨second, rest, rfl, plain, fields⟩ := List.map_eq_cons_iff.mp fields
  obtain rfl := List.map_eq_nil_iff.mp fields
  cases settled with
  | cons firstSettles settled =>
      cases settled with
      | cons secondSettles settled =>
          cases settled
          have unnamed : second.first.named = [] := by
            obtain ⟨before, after, place, -⟩ := (reads second (by simp)).place
            have listed : second.first ∈ second.field.attributes := by simp [place]
            rw [plain] at listed
            rw [List.mem_singleton.mp listed]
          obtain ⟨accepted, override⟩ := plain_settled (by rw [plain]; rfl) unnamed secondSettles
          rw [static_settled (by rw [isStatic]; rfl) firstSettles, accepted]
          exact ⟨second.resolved, rfl, congrArg FieldSymbol.name plain, override⟩

/-- The static field is reported, and the other one gets the only fragment of the type. -/
theorem generate_balances_account_two_fields :
    ∃ result, (generateWith render [twoFields] Options.standard).outcome = .ok result ∧
      result.fragments.map (·.1) = [Marker.key, "X_autoNotify"] ∧
      result.diagnostics.map (·.id) = ["ANG003"] ∧
      ∃ program bound account, Program.build [twoFields] References.standard = .ok program ∧
        (program.bind Options.standard).outcome = .ok bound ∧
        Account.Balanced render Options.standard bound [twoFields] result account ∧
        account.markings.map Marking.field = twoSymbols ∧
        ∃ field, account.verdicts = [.unsupported "static", .accepted field] ∧
          field.identifier = "_b" ∧ field.override? = none := by
  obtain ⟨seen, run⟩ := two_fields_run
  obtain ⟨result, found, evaluated⟩ := Option.map_eq_some_iff.mp run
  have returned : (generateWith render [twoFields] Options.standard).outcome = .ok result :=
    (generates_knowing two_fields_known).mpr found
  obtain ⟨program, bound, account, built, bind, balanced⟩ :=
    generate_balances_account render [twoFields] Options.standard result returned
  rw [(bound_knowing two_fields_known).mp ⟨program, built, bind⟩, Option.map_some, Option.some.injEq,
    Prod.mk.injEq] at seen
  obtain ⟨marker, symbolsSeen⟩ := seen
  have symbols : account.symbols = twoSymbols.map some := by
    rw [balanced.symbols.outcomes] at symbolsSeen
    exact List.map_injective_iff.mpr (fun _ _ => Option.some.inj) symbolsSeen
  have fields : account.markings.map Marking.field = twoSymbols := by
    rw [balanced.marked, symbols, marker]
    decide +kernel
  exact ⟨result, returned, congrArg Prod.fst evaluated, congrArg Prod.snd evaluated, program, bound,
    account, built, bind, balanced, fields,
    two_fields_settled fields balanced.markings balanced.verdicts⟩

end PropertyGen
