import PropertyGen.Proofs.Building
import PropertyGen.Proofs.Grouping
import PropertyGen.Proofs.Publication

/-!
A generation run from its sources to its result: the program, the marker bound in it, the
resolved fields, their groups, and the publication of the groups.
-/

namespace PropertyGen

theorem candidate_visit_fold (source : Source) (sites : List Site) (candidates : List Candidate) :
    sites.foldl (fun candidates site => Candidate.visit source site candidates) candidates =
      candidates ++ (sites.filter fun site => site.node.isCandidate).map (Candidate.mk source) := by
  induction sites generalizing candidates with
  | nil => simp
  | cons site rest induction =>
      rw [List.foldl_cons, induction]
      unfold Candidate.visit
      by_cases found : site.node.isCandidate <;> simp [found]

theorem candidates_eq (source : Source) :
    source.candidates =
      (source.sites.filter fun site => site.node.isCandidate).map (Candidate.mk source) :=
  candidate_visit_fold source source.sites []

theorem collect_candidates (sources : List Source) :
    candidateReceiver.collect sources = some (sources.flatMap Source.candidates) := by
  have visits (source : Source) (sites : List Site) (candidates : List Candidate) :
      sites.foldl (fun state site => candidateReceiver.visit source site state) (some candidates) =
        some (sites.foldl (fun candidates site => Candidate.visit source site candidates)
          candidates) := by
    induction sites generalizing candidates with
    | nil => rfl
    | cons site rest induction => exact induction (Candidate.visit source site candidates)
  have walk (candidates : List Candidate) :
      sources.foldl (fun state source =>
        source.sites.foldl (fun state site => candidateReceiver.visit source site state) state)
        (some candidates) = some (candidates ++ sources.flatMap Source.candidates) := by
    induction sources generalizing candidates with
    | nil => simp
    | cons source rest induction =>
        rw [List.foldl_cons, visits, induction, candidate_visit_fold, ← candidates_eq,
          List.flatMap_cons, List.append_assoc]
  exact walk []

/-- What remains of a session of the generator once the marker is added. -/
def outline (renderer : Renderer) (options : Options) (program : Program) :
    Logged (Unit × Table Points) := do
  let bound ← program.bind options
  let fields ← bound.program.resolveFields bound.marker.metadataName
    (program.sources.flatMap Source.candidates)
  let groups ← buildGroups fields
  (publish (renderer bound.notification) options.qualifiedKeys [] groups).run
    [(Marker.key, Points.ofText Marker.text)]

theorem generator_run_eq (renderer : Renderer) (options : Options) (program : Program) :
    (propertyGenerator renderer options).run program =
      outline renderer options program >>= fun result => pure result.2 := by
  unfold Generator.run propertyGenerator
  simp only [Option.map_some, collect_candidates, Option.join_some]
  rw [Session.run_add_source (by simp [Table.keys]), List.nil_append, Session.run_lift]
  apply congrArg (· >>= _)
  unfold outline
  refine congrArg (program.bind options >>= ·) (funext fun bound => ?_)
  rw [Session.run_lift]
  refine congrArg (_ >>= ·) (funext fun fields => ?_)
  rw [Session.run_lift]

theorem generator_run_reports {renderer : Renderer} {options : Options} {program : Program}
    {result : Unit × Table Points}
    (returned : (outline renderer options program).outcome = .ok result) :
    ((propertyGenerator renderer options).run program).diagnostics =
      (outline renderer options program).diagnostics := by
  rw [generator_run_eq, Logged.diagnostics, Logged.events_bind_ok returned, Logged.events_pure,
    List.append_nil]
  rfl

theorem run_generators_returns {generator : Generator} {program : Program}
    {result : GenerationResult} :
    (runGenerators [generator] program).outcome = .ok result ↔
      ∃ added, (generator.run program).outcome = .ok added ∧
        result = { fragments := added, diagnostics := (generator.run program).diagnostics } := by
  have reports {added : Table Points} (returned : (generator.run program).outcome = .ok added) :
      (Logged.forEach (fun generator => Generator.run generator program) [generator]).diagnostics =
        (generator.run program).diagnostics := by
    rw [Logged.diagnostics, Logged.for_each_cons, Logged.events_bind_ok returned]
    simp [Logged.for_each_nil, Logged.diagnostics]
  unfold runGenerators
  constructor
  · intro returned
    obtain ⟨made, assembled, later⟩ := Logged.bind_returns.mp returned
    obtain ⟨tables, all, same⟩ := Logged.bind_returns.mp assembled
    have single := Logged.for_each_returns.mp all
    cases single with
    | cons head rest =>
        cases rest
        refine ⟨_, head, ?_⟩
        rw [← reports head]
        rw [← Except.ok.inj later, ← Except.ok.inj same]
        simp
  · intro given
    rcases given with ⟨added, returned, same⟩
    refine Logged.bind_returns.mpr ⟨result, Logged.bind_returns.mpr ⟨[added], ?_, ?_⟩, rfl⟩
    · exact Logged.for_each_returns.mpr (.cons returned .nil)
    · rw [reports returned, same]
      simp

open Publication

/-- The groups of some fields with what becomes of each. -/
abbrev settledGroups (renderer : Renderer) (options : Options) (bound : Bound)
    (fields : List ResolvedField) : List (TypeGroup × Fate) :=
  fates (renderer bound.notification) options.qualifiedKeys [] (typeGroups fields)

/-- A session returns if the marker is bound, the fields are resolved and the keys are read. -/
theorem outline_returns (renderer : Renderer) {options : Options} {program : Program}
    {result : Unit × Table Points} :
    (outline renderer options program).outcome = .ok result ↔
      ∃ bound fields, (program.bind options).outcome = .ok bound ∧
        (bound.program.resolveFields bound.marker.metadataName
          (program.sources.flatMap Source.candidates)).outcome = .ok fields ∧
        (∀ group ∈ typeGroups fields, Readable options.qualifiedKeys group) ∧
        result = ((), (Marker.key, Points.ofText Marker.text) :: fragmentsOf options.qualifiedKeys
          (settledGroups renderer options bound fields)) := by
  constructor
  · intro returned
    obtain ⟨bound, bind, resolve⟩ := Logged.bind_returns.mp returned
    obtain ⟨fields, resolved, group⟩ := Logged.bind_returns.mp resolve
    obtain ⟨groups, grouped, published⟩ := Logged.bind_returns.mp group
    have same : typeGroups fields = groups := Except.ok.inj grouped
    subst same
    have readable := publish_reads_keys published
    rw [publish_marked_eq readable] at published
    exact ⟨bound, fields, bind, resolved, readable, (Except.ok.inj published).symm⟩
  · intro given
    rcases given with ⟨bound, fields, bind, resolved, readable, same⟩
    refine Logged.bind_returns.mpr ⟨bound, bind, ?_⟩
    refine Logged.bind_returns.mpr ⟨fields, resolved, ?_⟩
    refine Logged.bind_returns.mpr ⟨typeGroups fields, rfl, ?_⟩
    rw [publish_marked_eq readable, same]

/-- A session reports on fields, then on conflicts between parts, then on groups. -/
theorem outline_reports (renderer : Renderer) {options : Options} {program : Program}
    {bound : Bound} {fields : List ResolvedField}
    (bind : (program.bind options).outcome = .ok bound)
    (resolved : (bound.program.resolveFields bound.marker.metadataName
      (program.sources.flatMap Source.candidates)).outcome = .ok fields)
    (readable : ∀ group ∈ typeGroups fields, Readable options.qualifiedKeys group) :
    (outline renderer options program).diagnostics =
      (bound.program.resolveFields bound.marker.metadataName
          (program.sources.flatMap Source.candidates)).diagnostics ++
        (Grouping.conflictLog [] fields).map Grouping.Conflict.report ++
        (settledGroups renderer options bound fields).flatMap
          fun settled => settled.2.reports options.qualifiedKeys settled.1 := by
  have silent : diagnosticsOf (program.bind options).events = [] := program.bind_silent options
  have grouped : (buildGroups fields).outcome = .ok (typeGroups fields) := rfl
  have conflicts : diagnosticsOf (buildGroups fields).events =
      (Grouping.conflictLog [] fields).map Grouping.Conflict.report :=
    Grouping.build_groups_reports fields
  unfold outline Logged.diagnostics
  rw [Logged.events_bind_ok bind, Logged.events_bind_ok resolved, Logged.events_bind_ok grouped,
    diagnostics_append, diagnostics_append, diagnostics_append, silent, conflicts,
    publish_marked_eq readable, fates_reports, List.nil_append, List.append_assoc]

/-- A run returns exactly if all its steps do, and this is what it comes to. -/
theorem generate_returns {renderer : Renderer} {sources : List Source} {options : Options}
    {result : GenerationResult} :
    (generateWith renderer sources options).outcome = .ok result ↔
      ∃ program bound fields, Program.build sources References.standard = .ok program ∧
        (program.bind options).outcome = .ok bound ∧
        (bound.program.resolveFields bound.marker.metadataName
          (sources.flatMap Source.candidates)).outcome = .ok fields ∧
        (∀ group ∈ typeGroups fields, Readable options.qualifiedKeys group) ∧
        result.fragments = (Marker.key, Points.ofText Marker.text) :: fragmentsOf options.qualifiedKeys
          (settledGroups renderer options bound fields) ∧
        result.diagnostics =
          (bound.program.resolveFields bound.marker.metadataName
            (sources.flatMap Source.candidates)).diagnostics ++
          (Grouping.conflictLog [] fields).map Grouping.Conflict.report ++
          (settledGroups renderer options bound fields).flatMap
            fun settled => settled.2.reports options.qualifiedKeys settled.1 := by
  constructor
  · intro returned
    obtain ⟨program, created, ran⟩ := Logged.bind_returns.mp returned
    have built := Program.create_returns.mp created
    obtain ⟨added, generated, same⟩ := run_generators_returns.mp ran
    rw [generator_run_eq] at generated
    obtain ⟨outcome, outlined, last⟩ := Logged.bind_returns.mp generated
    obtain ⟨bound, fields, bind, resolved, readable, rfl⟩ := (outline_returns renderer).mp outlined
    have reports := outline_reports renderer bind resolved readable
    rw [(Program.build_eq built).1] at resolved reports
    refine ⟨program, bound, fields, built, bind, resolved, readable, ?_, ?_⟩
    · rw [same, ← Except.ok.inj last]
    · rw [same, ← reports, ← generator_run_reports outlined]
  · intro given
    rcases given with ⟨program, bound, fields, built, bind, resolved, readable, fragments, diagnostics⟩
    rw [← (Program.build_eq built).1] at resolved diagnostics
    have outlined := (outline_returns renderer).mpr ⟨bound, fields, bind, resolved, readable, rfl⟩
    refine Logged.bind_returns.mpr ⟨program, Program.create_returns.mpr built, ?_⟩
    refine run_generators_returns.mpr ⟨(Marker.key, Points.ofText Marker.text) ::
      fragmentsOf options.qualifiedKeys (settledGroups renderer options bound fields), ?_, ?_⟩
    · rw [generator_run_eq]
      exact Logged.bind_returns.mpr ⟨_, outlined, rfl⟩
    · have reports := outline_reports renderer bind resolved readable
      rw [generator_run_reports outlined, reports, ← fragments, ← diagnostics]

end PropertyGen
