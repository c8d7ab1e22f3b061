import PropertyGen.Proofs.Binding

/-!
Runs with the known names written out. Whatever a run looks up depends on the names that its
program knows. If these are the names of a list, inspection and generation come to what they come to
with the list, and the names do not have to be collected where a run is evaluated.
-/

namespace PropertyGen

def standardSpaces : List String :=
  List.replicate 4 "System" ++ List.replicate 4 "System.ComponentModel"

theorem space_of_standard : References.standard.keys.map Names.spaceOf = standardSpaces := by
  decide +kernel

/-- The names that a program of some sources and the marker knows. -/
def Knows (sources : List Source) (known : KnownNames) : Prop :=
  knownNames (declarationsOf (sources ++ [Marker.source])) References.standard = known

def runNames (types spaces : List String) : KnownNames :=
  { types := types ++ [Marker.metadataName] ++ References.standard.keys
    spaces := spaces ++ [Marker.space, "System", "System.ComponentModel"] }

/-- Beside the standard references a program knows the types that its sources and the marker declare,
and the namespaces around them. -/
theorem knows_listed {sources : List Source} {types spaces : List String}
    (declared : List (String × String))
    (each : ((declarationsOf (sources ++ [Marker.source])).map fun declaration =>
      (declaration.metadataName, declaration.scope.space)) = declared)
    (apart : distinct (declared.map (·.1) ++ References.standard.keys) =
      (runNames types spaces).types)
    (around : distinct ((declared.map (·.2) ++
      ((types ++ [Marker.metadataName]).map Names.spaceOf ++
        standardSpaces)).flatMap Names.spacesAround) = (runNames types spaces).spaces) :
    Knows sources (runNames types spaces) := by
  have names : (declarationsOf (sources ++ [Marker.source])).map (·.metadataName) =
      declared.map (·.1) := by
    rw [← each, List.map_map]
    rfl
  have within : (declarationsOf (sources ++ [Marker.source])).map (·.scope.space) =
      declared.map (·.2) := by
    rw [← each, List.map_map]
    rfl
  unfold runNames at apart around
  unfold Knows knownNames
  dsimp only at apart around ⊢
  rw [names, within, apart, List.map_append, space_of_standard, around]
  rfl

section Flat

variable {sources : List Source} {declared : List (String × String)}

theorem by_nesting_flat {declarations : List TypeDeclaration}
    (flat : ∀ declaration ∈ declarations, Names.nesting declaration.metadataName = 0) :
    byNesting declarations = declarations := by
  have depths : declarations.map (fun declaration => Names.nesting declaration.metadataName) =
      List.replicate declarations.length 0 := List.map_eq_replicate_iff.mpr flat
  have deepest (count : Nat) : (List.replicate count 0).foldl max 0 = 0 := by
    induction count with
    | zero => rfl
    | succ count induction => exact induction
  unfold byNesting
  dsimp only
  rw [depths, deepest]
  simpa [List.range_succ] using flat

theorem marker_declares (globals : List Using) :
    (TypeDeclaration.all Marker.source globals).map (fun declaration =>
      (declaration.metadataName, declaration.scope.space)) = [(Marker.metadataName, Marker.space)] := by
  have plain : (TypeDeclaration.all Marker.source []).map (fun declaration =>
      (declaration.metadataName, declaration.scope.space)) =
        [(Marker.metadataName, Marker.space)] := by
    decide +kernel
  rw [← plain]
  unfold TypeDeclaration.all
  simp only [List.map_map]
  apply List.map_congr_left
  intro site _
  have name := TypeDeclaration.name_of_site Marker.source globals [] site
  have space := (Surroundings.ofSite Marker.source site).scope_space globals []
  rw [Function.comp_apply, Function.comp_apply, name]
  exact congrArg _ space

/-- The marker stands behind types none of which is nested in another one. -/
theorem declared_flat (flat : ∀ entry ∈ declared, Names.nesting entry.1 = 0)
    (each : (sources.flatMap fun source =>
      TypeDeclaration.all source (globalUsings (sources ++ [Marker.source]))).map (fun declaration =>
        (declaration.metadataName, declaration.scope.space)) = declared) :
    (declarationsOf (sources ++ [Marker.source])).map (fun declaration =>
      (declaration.metadataName, declaration.scope.space)) =
        declared ++ [(Marker.metadataName, Marker.space)] := by
  have whole : ((sources ++ [Marker.source]).flatMap fun source =>
      TypeDeclaration.all source (globalUsings (sources ++ [Marker.source]))).map (fun declaration =>
        (declaration.metadataName, declaration.scope.space)) =
          declared ++ [(Marker.metadataName, Marker.space)] := by
    rw [List.flatMap_append, List.map_append, each, List.flatMap_singleton, marker_declares]
  unfold declarationsOf
  rw [by_nesting_flat, whole]
  intro declaration listed
  have entry := List.mem_map_of_mem (f := fun declaration : TypeDeclaration =>
    (declaration.metadataName, declaration.scope.space)) listed
  rw [whole] at entry
  rcases List.mem_append.mp entry with own | isMarker
  · exact flat _ own
  · rw [(Prod.mk.inj (List.mem_singleton.mp isMarker)).1]
    decide +kernel

theorem knows_declared (declared : List (String × String)) (spaces : List String)
    (flat : ∀ entry ∈ declared, Names.nesting entry.1 = 0)
    (each : (sources.flatMap fun source =>
      TypeDeclaration.all source (globalUsings (sources ++ [Marker.source]))).map (fun declaration =>
        (declaration.metadataName, declaration.scope.space)) = declared)
    (apart : distinct (runNames (declared.map (·.1)) spaces).types =
      (runNames (declared.map (·.1)) spaces).types)
    (around : distinct ((declared.map (·.2) ++ [Marker.space] ++
      ((declared.map (·.1) ++ [Marker.metadataName]).map Names.spaceOf ++
        standardSpaces)).flatMap Names.spacesAround) =
      (runNames (declared.map (·.1)) spaces).spaces) :
    Knows sources (runNames (declared.map (·.1)) spaces) := by
  apply knows_listed _ (declared_flat flat each)
  · rw [List.map_append]
    exact apart
  · rw [List.map_append]
    exact around

/-- A class `X` without a namespace is the only type. -/
theorem knows_sole
    (each : (sources.flatMap fun source =>
      TypeDeclaration.all source (globalUsings (sources ++ [Marker.source]))).map (fun declaration =>
        (declaration.metadataName, declaration.scope.space)) = [("X", "")]) :
    Knows sources (runNames ["X"] []) :=
  knows_declared [("X", "")] [] (by decide) each (by decide +kernel) (by decide +kernel)

end Flat

def Program.knowing? (known : KnownNames) (sources : List Source) (references : References) :
    Option Program :=
  (sources.mapM fun source => ConstantDeclaration.all source (globalUsings sources)).toOption.map
    fun constants =>
      { sources
        references
        globals := globalUsings sources
        known
        types := typeTable (declarationsOf sources) references known
        constants := constants.flatten }

theorem Program.build_knowing {sources : List Source} {references : References} {known : KnownNames}
    (names : knownNames (declarationsOf sources) references = known) {program : Program} :
    build sources references = .ok program ↔ knowing? known sources references = some program := by
  unfold build knowing?
  dsimp only
  rw [names]
  cases sources.mapM fun source => ConstantDeclaration.all source (globalUsings sources) with
  | error fault =>
      constructor
      · intro built
        cases built
      · intro built
        cases built
  | ok constants =>
      constructor
      · intro built
        exact congrArg some (Except.ok.inj built)
      · intro built
        exact congrArg Except.ok (Option.some.inj built)

def Bound.knowing? (known : KnownNames) (sources : List Source) : Option Bound := do
  let program ← Program.knowing? known (sources ++ [Marker.source]) References.standard
  let marker ← program.type? Marker.metadataName
  let notification ← program.type? notificationName
  pure { program, marker, notification }

/-- The fields that are found if these are the known names, with what they are found in. -/
def fieldsKnowing? (known : KnownNames) (sources : List Source) :
    Option (Bound × List ResolvedField) := do
  let bound ← Bound.knowing? known sources
  let fields ← (bound.program.resolveFields bound.marker.metadataName
    (sources.flatMap Source.candidates)).outcome.toOption
  pure (bound, fields)

open Publication in
/-- What is generated if these are the known names. -/
def resultKnowing? (known : KnownNames) (sources : List Source) : Option GenerationResult :=
  (fieldsKnowing? known sources).map fun found =>
    let settled := settledGroups render Options.standard found.1 found.2
    { fragments := (Marker.key, Points.ofText Marker.text) :: fragmentsOf false settled
      diagnostics :=
        (found.1.program.resolveFields found.1.marker.metadataName
          (sources.flatMap Source.candidates)).diagnostics ++
        (Grouping.conflictLog [] found.2).map Grouping.Conflict.report ++
        settled.flatMap fun settled => settled.2.reports false settled.1 }

section Runs

variable {sources : List Source} {known : KnownNames} (knows : Knows sources known)

include knows

theorem bound_knowing {bound : Bound} :
    BoundIn sources Options.standard bound ↔ Bound.knowing? known sources = some bound := by
  have references : Options.standard.references = References.standard := rfl
  rw [bound_in_iff, references, Program.build_knowing knows]
  unfold Bound.knowing?
  constructor
  · intro given
    rcases given with ⟨built, marker, notification⟩
    simp [built, marker, notification]
  · intro bind
    simp only [Option.bind_eq_bind, Option.bind_eq_some_iff, Option.pure_def,
      Option.some.injEq] at bind
    obtain ⟨program, built, marker, markerFound, notification, notificationFound, rfl⟩ := bind
    exact ⟨built, markerFound, notificationFound⟩

theorem fields_knowing {bound : Bound} {fields : List ResolvedField} :
    (BoundIn sources Options.standard bound ∧
        (bound.program.resolveFields bound.marker.metadataName
          (sources.flatMap Source.candidates)).outcome = .ok fields) ↔
      fieldsKnowing? known sources = some (bound, fields) := by
  rw [bound_knowing knows]
  unfold fieldsKnowing?
  constructor
  · intro given
    rcases given with ⟨bind, resolved⟩
    simp [bind, resolved, Except.toOption]
  · intro found
    simp only [Option.bind_eq_bind, Option.bind_eq_some_iff, Option.pure_def, Option.some.injEq,
      Prod.mk.injEq] at found
    obtain ⟨own, bind, others, resolved, rfl, rfl⟩ := found
    refine ⟨bind, ?_⟩
    cases outcome : (own.program.resolveFields own.marker.metadataName
        (sources.flatMap Source.candidates)).outcome with
    | error fault =>
        rw [outcome] at resolved
        cases resolved
    | ok fields =>
        rw [outcome] at resolved
        exact congrArg Except.ok (Option.some.inj resolved)

theorem find_fields_knowing {α : Type} {view : List ResolvedField → α} :
    ((findFields sources Options.standard).outcome.map view).toOption =
      (fieldsKnowing? known sources).map fun found => view found.2 := by
  apply Option.ext
  intro seen
  rw [Option.map_eq_some_iff]
  constructor
  · intro looked
    cases returned : (findFields sources Options.standard).outcome with
    | error fault =>
        rw [returned] at looked
        cases looked
    | ok fields =>
        rw [returned] at looked
        obtain ⟨bound, own, resolved⟩ := find_fields_returns.mp returned
        exact ⟨(bound, fields), (fields_knowing knows).mp ⟨own, resolved⟩, Option.some.inj looked⟩
  · intro given
    rcases given with ⟨⟨bound, fields⟩, found, rfl⟩
    rw [find_fields_returns.mpr ⟨bound, (fields_knowing knows).mpr found⟩]
    rfl

theorem generates_knowing {result : GenerationResult} :
    (generate sources Options.standard).outcome = .ok result ↔
      resultKnowing? known sources = some result := by
  unfold resultKnowing?
  rw [Option.map_eq_some_iff]
  constructor
  · intro returned
    obtain ⟨program, bound, fields, built, bind, resolved, -, fragments, diagnostics⟩ :=
      generate_returns.mp returned
    refine ⟨(bound, fields), (fields_knowing knows).mp ⟨⟨program, built, bind⟩, resolved⟩, ?_⟩
    cases result with
    | mk ownFragments ownDiagnostics =>
        dsimp only at fragments diagnostics
        rw [fragments, diagnostics]
        rfl
  · rintro ⟨⟨bound, fields⟩, found, rfl⟩
    obtain ⟨⟨program, built, bind⟩, resolved⟩ := (fields_knowing knows).mpr found
    have readable : ∀ group ∈ typeGroups fields,
        Publication.Readable Options.standard.qualifiedKeys group := fun group _ =>
      (Publication.readable_iff _ group).mpr fun qualified => absurd qualified (by decide)
    exact generate_returns.mpr ⟨program, bound, fields, built, bind, resolved, readable, rfl, rfl⟩

/-- In a run with one group, which is of a top-level type, this group gets the only fragment beside
the marker. -/
theorem sole_fragment {bound : Bound} {fields : List ResolvedField} {group : TypeGroup}
    (found : fieldsKnowing? known sources = some (bound, fields)) (groups : typeGroups fields = [group])
    (topLevel : group.containing.isTopLevel = true) :
    (findFields sources Options.standard).outcome = .ok fields ∧
      ∃ result, (generate sources Options.standard).outcome = .ok result ∧
        result.fragments = [(Marker.key, Points.ofText Marker.text),
          (Publication.keyOf false group,
            Layout.text (Render.layout group bound.notification))] := by
  obtain ⟨own, resolved⟩ := (fields_knowing knows).mpr found
  obtain ⟨result, generated, fragments⟩ :
      ∃ result, resultKnowing? known sources = some result ∧ result.fragments =
        (Marker.key, Points.ofText Marker.text) :: Publication.fragmentsOf false
          (settledGroups render Options.standard bound fields) := by
    rw [resultKnowing?, found, Option.map_some]
    exact ⟨_, rfl, rfl⟩
  refine ⟨find_fields_returns.mpr ⟨bound, own, resolved⟩, result,
    (generates_knowing knows).mpr generated, ?_⟩
  have text : render bound.notification group =
      .text (Layout.text (Render.layout group bound.notification)) := if_pos topLevel
  have fate : Publication.fate (render bound.notification) false [] group =
      .published (Layout.text (Render.layout group bound.notification)) := by
    simp [Publication.fate, Publication.holder?, text, Publication.Fate.ofRendering]
  have plain : Options.standard.qualifiedKeys = false := rfl
  rw [fragments, settledGroups, groups, plain, Publication.fates, fate]
  rfl

end Runs

end PropertyGen
