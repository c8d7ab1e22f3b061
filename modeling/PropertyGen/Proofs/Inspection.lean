import PropertyGen.Proofs.Accounts
import PropertyGen.Proofs.Listings

/-!
Inspection and generation. Both look at the same fields: what inspection reports is the beginning
of what generation reports, and the fragments show the fields that inspection finds.
-/

namespace PropertyGen

/-- Some blocks of lines come from some fields: one for each field that has a property, in order. -/
def Render.ShowFields (depth : Nat) (blocks : List (List Points)) (fields : List ResolvedField) :
    Prop :=
  List.Forall₂ (fun field block => ∃ spec, field.spec? = some spec ∧ block = propertyLines depth spec)
    (fields.filter fun field => field.spec?.isSome) blocks

theorem Render.properties_show_fields (depth : Nat) (fields : List ResolvedField) :
    Render.ShowFields depth ((fields.filterMap ResolvedField.spec?).map (propertyLines depth))
      fields := by
  unfold Render.ShowFields
  induction fields with
  | nil => exact .nil
  | cons field rest induction =>
      cases shown : field.spec? with
      | none =>
          rw [List.filter_cons_of_neg (by simp [shown]), List.filterMap_cons_none shown]
          exact induction
      | some spec =>
          rw [List.filter_cons_of_pos (by simp [shown]), List.filterMap_cons_some shown]
          exact .cons ⟨spec, shown, rfl⟩ induction

/-- A fragment of the type of a group: the members in its text are the event, unless the type asks
for the interface already, and after it the blocks of the fields of the type. -/
structure FragmentShows (notification : TypeSymbol) (qualified : Bool)
    (fields : List ResolvedField) (group : TypeGroup) (fragment : String × Points) : Prop where
  key : fragmentKey group.containing qualified = .ok fragment.1
  text : ∃ blocks,
    fragment.2 = Layout.ended (Render.fragmentLines group notification
      ((if group.containing.interfaces.contains notification.metadataName then []
        else [[Render.eventLine (Render.typeDepth group + 1)]]) ++ blocks)) ∧
    Render.ShowFields (Render.typeDepth group + 1) blocks
      (Grouping.fieldsOf fields group.containing.metadataName)

/-- A run that goes on from the fields that inspection finds. -/
structure Continues (sources : List Source) (options : Options) (bound : Bound)
    (fields : List ResolvedField) (groups : List TypeGroup) (result : GenerationResult) : Prop where
  grouped : (buildGroups fields).outcome = .ok groups
  published : (Publication.run (render bound.notification) options.qualifiedKeys groups).outcome =
    .ok ((), result.fragments)
  reports : result.diagnostics = (findFields sources options).diagnostics ++
    ((buildGroups fields).diagnostics ++
      (Publication.run (render bound.notification) options.qualifiedKeys groups).diagnostics)
  shown : ∀ fragment ∈ result.fragments, fragment = (Marker.key, Points.ofText Marker.text) ∨
    ∃ group ∈ groups,
      FragmentShows bound.notification options.qualifiedKeys fields group fragment

section Paths

variable {sources : List Source} {options : Options}

theorem find_fields_reports {bound : Bound} (own : BoundIn sources options bound) :
    (findFields sources options).diagnostics =
      (bound.program.resolveFields bound.marker.metadataName
        (sources.flatMap Source.candidates)).diagnostics := by
  rw [← bound_candidates own]
  obtain ⟨program, built, bind⟩ := own
  have created := Program.create_returns.mpr built
  have createSilent : diagnosticsOf (Program.create sources References.standard).events = [] :=
    Program.create_silent sources References.standard
  have bindSilent : diagnosticsOf (program.bind options).events = [] := program.bind_silent options
  unfold findFields Logged.diagnostics
  rw [Logged.events_bind_ok created, Logged.events_bind_ok bind, diagnostics_append,
    diagnostics_append, createSilent, bindSilent]
  rfl

theorem inspection_returns {renderer : Renderer} {result : GenerationResult}
    (returned : (generateWith renderer sources options).outcome = .ok result) :
    ∃ fields, (findFields sources options).outcome = .ok fields := by
  obtain ⟨program, bound, fields, built, bind, resolved, -⟩ := generate_returns.mp returned
  exact ⟨fields, find_fields_returns.mpr ⟨bound, ⟨program, built, bind⟩, resolved⟩⟩

/-- The fault that ends inspection ends generation at the same step. -/
theorem generation_faults (renderer : Renderer) {fault : Fault}
    (faulted : (findFields sources options).outcome = .error fault) :
    (generateWith renderer sources options).outcome = .error fault := by
  unfold findFields at faulted
  unfold generateWith
  rw [Logged.outcome_bind] at faulted ⊢
  cases created : (Program.create sources References.standard).outcome with
  | error other =>
      rw [created] at faulted
      have same : other = fault := Except.error.inj faulted
      rw [same]
      rfl
  | ok program =>
      rw [created] at faulted
      have built := Program.create_returns.mp created
      obtain ⟨bound, bind⟩ := Program.bind_returns options built
      have own : BoundIn sources options bound := ⟨program, built, bind⟩
      have resolved : (bound.program.resolveFields bound.marker.metadataName
          (program.sources.flatMap Source.candidates)).outcome = .error fault := by
        rw [(Program.build_eq built).1, ← bound_candidates own]
        simp only [Except.bind, Logged.outcome_bind, bind] at faulted
        exact faulted
      have outlined : (outline renderer options program).outcome = .error fault := by
        unfold outline
        rw [Logged.outcome_bind, bind]
        simp only [Except.bind, Logged.outcome_bind, resolved]
      show (runGenerators [propertyGenerator renderer options] program).outcome = _
      unfold runGenerators
      simp only [Logged.for_each_cons, Logged.outcome_bind, generator_run_eq, outlined, Except.bind]

end Paths

open Publication in
theorem fragments_show_fields {notification : TypeSymbol} {qualified : Bool}
    {fields : List ResolvedField}
    (readable : ∀ group ∈ typeGroups fields, Readable qualified group) :
    ∀ fragment ∈ fragmentsOf qualified (fates (render notification) qualified [] (typeGroups fields)),
      ∃ group ∈ typeGroups fields, FragmentShows notification qualified fields group fragment := by
  intro fragment member
  obtain ⟨settled, inside, written⟩ := List.mem_filterMap.mp member
  obtain ⟨text, published, rfl⟩ := Option.map_eq_some_iff.mp written
  obtain ⟨before, after, place, looked⟩ := fates_member inside
  have listed : settled.1 ∈ typeGroups fields := by
    rw [place]
    exact List.mem_append_right _ List.mem_cons_self
  rw [looked] at published
  have rendered := (fate_text published).2
  have text : text = Layout.text (Render.layout settled.1 notification) := by
    unfold render at rendered
    by_cases topLevel : settled.1.containing.isTopLevel = true
    · rw [if_pos topLevel] at rendered
      exact (Rendering.text.inj rendered).symm
    · rw [if_neg topLevel] at rendered
      cases rendered
  refine ⟨settled.1, listed, readable settled.1 listed,
    settled.1.members.map (Render.propertyLines (Render.typeDepth settled.1 + 1)), ?_, ?_⟩
  · exact text.trans (Render.text_of_layout settled.1 notification)
  · rw [Grouping.group_members listed]
    exact Render.properties_show_fields _ _

/-- Generation is inspection and then publication: it ends with the fault that inspection ends with,
and otherwise it goes on from the fields that inspection finds. -/
theorem generation_continues_inspection (sources : List Source) (options : Options) :
    (∀ fault, (findFields sources options).outcome = .error fault →
      (generate sources options).outcome = .error fault) ∧
    ∀ fields result, (findFields sources options).outcome = .ok fields →
      (generate sources options).outcome = .ok result →
      ∃ bound groups, BoundIn sources options bound ∧
        Continues sources options bound fields groups result := by
  constructor
  · intro fault faulted
    exact generation_faults render faulted
  · intro fields result found returned
    obtain ⟨program, bound, others, built, bind, resolved, readable, fragments, diagnostics⟩ :=
      generate_returns.mp returned
    have own : BoundIn sources options bound := ⟨program, built, bind⟩
    obtain ⟨other, otherOwn, otherResolved⟩ := find_fields_returns.mp found
    rw [← bound_in_unique own otherOwn, resolved] at otherResolved
    have same : others = fields := Except.ok.inj otherResolved
    subst same
    refine ⟨bound, typeGroups others, own, rfl, ?published, ?reports, ?shown⟩
    case published => rw [Publication.run_eq readable, fragments]
    case reports =>
      rw [diagnostics, find_fields_reports own, Grouping.build_groups_reports,
        Publication.run_reports readable, List.append_assoc]
    case shown =>
      intro fragment member
      rw [fragments] at member
      rcases List.mem_cons.mp member with marker | later
      · exact .inl marker
      · exact .inr (fragments_show_fields readable fragment later)

open Marker (branch token fieldLeaf fieldBranch) in
def danglingConstant : Source :=
  { path := "D.cs"
    bytes := Text.Utf8.encode "class D \x7b const int =; \x7d"
    root := branch "compilation_unit" 0 24 [
      branch "class_declaration" 0 24 [
        token "class" 0 5,
        fieldLeaf "identifier" "name" 6 7,
        fieldBranch "declaration_list" "body" 8 24 [
          token "\x7b" 8 9,
          branch "field_declaration" 10 22 [
            branch "modifier" 10 15 [token "const" 10 15],
            branch "variable_declaration" 16 21 [
              fieldLeaf "predefined_type" "type" 16 19,
              branch "variable_declarator" 20 21 [token "=" 20 21]],
            token ";" 21 22],
          token "\x7d" 23 24]]] }

/-- The lines of a text that declare a property of type `int`. -/
def numberProperties (text : Points) : List Points :=
  (text.splitOn (.character '\n')).filter (Layout.indented 1 "public int ").isPrefixOf

theorem two_fields_shown :
    ((resultKnowing? (runNames ["X"] []) [twoFields]).map fun result =>
      result.fragments.tail.map fun fragment => numberProperties fragment.2) =
        some [[Layout.indented 1 "public int B"]] := by
  decide +kernel

/-- Sources on which both paths end with one fault, and sources on which both return. The fragment
has a property for the field that is not static, and no other. -/
theorem generation_continues_inspection_two_fields :
    (generate [danglingConstant] Options.standard).outcome = .error .emptySequence ∧
      ∃ fields result, (findFields [twoFields] Options.standard).outcome = .ok fields ∧
        (generate [twoFields] Options.standard).outcome = .ok result ∧
        result.fragments.map (·.1) = [Marker.key, "X_autoNotify"] ∧
        result.diagnostics.map (·.id) = ["ANG003"] ∧
        (result.fragments.tail.map fun fragment => numberProperties fragment.2) =
          [[Layout.indented 1 "public int B"]] ∧
        ∃ bound groups, BoundIn [twoFields] Options.standard bound ∧
          Continues [twoFields] Options.standard bound fields groups result := by
  have faulted : (findFields [danglingConstant] Options.standard).outcome =
      .error .emptySequence := by decide +kernel
  obtain ⟨result, found, evaluated⟩ := Option.map_eq_some_iff.mp two_fields_run.2
  have returned : (generate [twoFields] Options.standard).outcome = .ok result :=
    (generates_knowing two_fields_known).mpr found
  obtain ⟨fields, inspected⟩ := inspection_returns returned
  obtain ⟨other, otherFound, shown⟩ := Option.map_eq_some_iff.mp two_fields_shown
  obtain rfl : result = other := Option.some.inj (found.symm.trans otherFound)
  exact ⟨(generation_continues_inspection [danglingConstant] Options.standard).1 _ faulted,
    fields, result, inspected, returned, congrArg Prod.fst evaluated, congrArg Prod.snd evaluated, shown,
    (generation_continues_inspection [twoFields] Options.standard).2 _ _ inspected returned⟩

end PropertyGen
