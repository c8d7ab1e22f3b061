import PropertyGen.Proofs.Returns

/-!
Binding in one step. The program that a run works on is built from its sources and the marker, with
the standard references and those of the options.
-/

namespace PropertyGen

def Options.references (options : Options) : References :=
  if options.extraReferences.isEmpty then References.standard
  else References.standard.merge (referenceTable options.extraReferences)

namespace Program

theorem look_up_returns {complete : Program} {bound : Bound} :
    (lookUp complete).outcome = .ok bound ↔
      bound.program = complete ∧ complete.type? Marker.metadataName = some bound.marker ∧
        complete.type? notificationName = some bound.notification := by
  unfold lookUp
  cases marked : complete.type? Marker.metadataName with
  | none => simp [Logged.fail]
  | some marker =>
      cases notified : complete.type? notificationName with
      | none => simp [Logged.fail]
      | some notification =>
          obtain ⟨program, ownMarker, ownNotification⟩ := bound
          simp [eq_comm]

theorem complete_iff {sources : List Source} {program complete : Program} {options : Options}
    (built : build sources References.standard = .ok program) :
    (program.complete options).outcome = .ok complete ↔
      build (sources ++ [Marker.source]) options.references = .ok complete := by
  obtain ⟨sourcesEq, referencesEq, -⟩ := build_eq built
  have added (marked : Program) : (program.addSources [Marker.source]).outcome = .ok marked ↔
      build (sources ++ [Marker.source]) References.standard = .ok marked := by
    unfold addSources
    rw [sourcesEq, referencesEq]
    exact create_returns
  unfold Program.complete Options.references
  rw [Logged.bind_returns]
  by_cases plain : options.extraReferences.isEmpty = true
  · simp only [plain, if_true, added]
    constructor
    · intro given
      rcases given with ⟨marked, markedBuilt, same⟩
      rw [← Except.ok.inj same]
      exact markedBuilt
    · intro completeBuilt
      exact ⟨complete, completeBuilt, rfl⟩
  · simp only [plain, added]
    constructor
    · intro given
      rcases given with ⟨marked, markedBuilt, extended⟩
      obtain ⟨markedSources, markedReferences, -⟩ := build_eq markedBuilt
      unfold addReferences at extended
      rw [if_neg Bool.false_ne_true, markedSources, markedReferences] at extended
      exact create_returns.mp extended
    · intro completeBuilt
      obtain ⟨marked, markedBuilt⟩ := build_with_marker built References.standard
      obtain ⟨markedSources, markedReferences, -⟩ := build_eq markedBuilt
      refine ⟨marked, markedBuilt, ?_⟩
      unfold addReferences
      rw [if_neg Bool.false_ne_true, markedSources, markedReferences]
      exact create_returns.mpr completeBuilt

end Program

theorem bound_in_iff {sources : List Source} {options : Options} {bound : Bound} :
    BoundIn sources options bound ↔
      Program.build (sources ++ [Marker.source]) options.references = .ok bound.program ∧
        bound.program.type? Marker.metadataName = some bound.marker ∧
        bound.program.type? notificationName = some bound.notification := by
  unfold BoundIn
  constructor
  · intro given
    rcases given with ⟨program, built, bind⟩
    rw [Program.bind_eq] at bind
    obtain ⟨complete, completed, lookedUp⟩ := Logged.bind_returns.mp bind
    obtain ⟨same, marker, notification⟩ := Program.look_up_returns.mp lookedUp
    rw [same]
    exact ⟨(Program.complete_iff built).mp completed, marker, notification⟩
  · intro given
    rcases given with ⟨completeBuilt, marker, notification⟩
    have initialized := (Program.build_returns _ _).mp ⟨bound.program, completeBuilt⟩
    obtain ⟨program, built⟩ := (Program.build_returns sources References.standard).mpr
      fun source member => initialized source (List.mem_append_left _ member)
    refine ⟨program, built, ?_⟩
    rw [Program.bind_eq]
    refine Logged.bind_returns.mpr ⟨bound.program, (Program.complete_iff built).mpr completeBuilt, ?_⟩
    exact Program.look_up_returns.mpr ⟨rfl, marker, notification⟩

theorem marker_candidates : Marker.source.candidates = [] := by
  rw [candidates_eq]
  have none : (Marker.source.sites.filter fun site => site.node.isCandidate).isEmpty = true := by
    decide +kernel
  rw [List.isEmpty_iff.mp none, List.map_nil]

/-- The marker has no fields, so the candidates of a bound program are those of its sources. -/
theorem bound_candidates {sources : List Source} {options : Options} {bound : Bound}
    (own : BoundIn sources options bound) :
    bound.program.sources.flatMap Source.candidates = sources.flatMap Source.candidates := by
  obtain ⟨built, -⟩ := bound_in_iff.mp own
  rw [(Program.build_eq built).1, List.flatMap_append, List.flatMap_singleton, marker_candidates,
    List.append_nil]

theorem find_fields_returns {sources : List Source} {options : Options}
    {fields : List ResolvedField} :
    (findFields sources options).outcome = .ok fields ↔
      ∃ bound, BoundIn sources options bound ∧
        (bound.program.resolveFields bound.marker.metadataName
          (sources.flatMap Source.candidates)).outcome = .ok fields := by
  constructor
  · intro returned
    obtain ⟨program, created, later⟩ := Logged.bind_returns.mp returned
    obtain ⟨bound, bind, resolved⟩ := Logged.bind_returns.mp later
    have own : BoundIn sources options bound := ⟨program, Program.create_returns.mp created, bind⟩
    rw [bound_candidates own] at resolved
    exact ⟨bound, own, resolved⟩
  · intro given
    rcases given with ⟨bound, own, resolved⟩
    rw [← bound_candidates own] at resolved
    obtain ⟨program, built, bind⟩ := own
    refine Logged.bind_returns.mpr ⟨program, Program.create_returns.mpr built, ?_⟩
    exact Logged.bind_returns.mpr ⟨bound, bind, resolved⟩

end PropertyGen
