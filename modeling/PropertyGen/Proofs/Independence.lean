import PropertyGen.Proofs.Runs
import PropertyGen.Proofs.Trees

/-!
Generators that run over one program. A run of two lists of generators is the run of the first
list and the run of the second one, put together; every receiver visits every site of the program
once; and within a generator the first text of a key stays.
-/

namespace PropertyGen

namespace Site

theorem walk_all_append (first second : List Site) :
    walkAll (first ++ second) = walkAll first ++ walkAll second := by
  induction first using walkAll.induct with
  | case1 => simp [walkAll]
  | case2 site pending induction =>
      rw [List.cons_append, walkAll, walkAll, List.cons_append, ← induction, List.append_assoc]

theorem walk_all_eq (pending : List Site) : walkAll pending = pending.flatMap walk := by
  induction pending with
  | nil => simp [walkAll]
  | cons site rest induction =>
      rw [List.flatMap_cons, ← induction, walk, ← walk_all_append]
      rfl

theorem walk_eq (site : Site) : site.walk = site :: site.children.flatMap walk := by
  rw [walk, walkAll, List.append_nil, walk_all_eq]

end Site

def visits (sources : List Source) : List (Source × Site) :=
  sources.flatMap fun source => source.sites.map fun site => (source, site)

/-- What a generator is given: the state of its receiver after its visits. They begin with a fresh
state and go through every source in turn, to every site of it once, to each site before those
under it and to those under one child before the next child. -/
structure Generator.SeesAll (generator : Generator) (program : Program) : Prop where
  given : generator.run program =
    (generator.execute program (generator.receiver?.map fun receiver =>
      (visits program.sources).foldl (fun state visit => receiver.visit visit.1 visit.2 state)
        receiver.start)).run [] >>= fun session => pure session.2
  inOrder : ∀ source ∈ program.sources, source.sites = (Site.root source.root).walk ∧
    ∀ site ∈ source.sites, site.walk = site :: site.children.flatMap Site.walk
  once : ∀ source ∈ program.sources, source.sites.Nodup
  every : ∀ source ∈ program.sources, ∀ site,
    site ∈ source.sites ↔ (Site.root source.root).Below site

theorem Receiver.collect_eq {State : Type} (receiver : Receiver State) (sources : List Source) :
    receiver.collect sources =
      (visits sources).foldl (fun state visit => receiver.visit visit.1 visit.2 state)
        receiver.start := by
  unfold collect visits
  rw [List.foldl_flatMap]
  simp only [List.foldl_map]

theorem Generator.sees_all (generator : Generator) (program : Program) :
    generator.SeesAll program := by
  constructor
  · unfold Generator.run
    simp only [Receiver.collect_eq]
  · intro source _
    exact ⟨rfl, fun site _ => site.walk_eq⟩
  · intro source _
    exact Site.walk_nodup _
  · intro source _ site
    exact Source.mem_sites

namespace Session

def attempt (key : String) (text : Points) : Session (Option Fault) := fun sources =>
  match (addSource key text sources).outcome with
  | .ok added => pure (none, added.2)
  | .error fault => pure (some fault, sources)

def attemptAll : List (String × Points) → Session (List (Option Fault))
  | [] => pure []
  | addition :: rest => do
      let answer ← attempt addition.1 addition.2
      let answers ← attemptAll rest
      pure (answer :: answers)

/-- What becomes of some additions: a key that is in use is refused, and every key keeps the
first of its texts. -/
structure Settled (sources additions : Table Points) (answers : List (Option Fault))
    (kept : Table Points) : Prop where
  answered : ∀ index (inside : index < additions.length), answers[index]? =
    some (if additions[index].1 ∈ (sources ++ additions.take index).keys
      then some (.duplicateSource additions[index].1) else none)
  texts : ∀ key, kept.get? key = Table.get? (sources ++ additions) key

variable {sources : Table Points}

theorem run_taken {key : String} (taken : key ∈ sources.keys) (text : Points) :
    (addSource key text).run sources = Logged.fail (.duplicateSource key) := by
  have present : sources.keys.contains key = true := by simpa using taken
  show (if sources.keys.contains key then _ else _) = _
  rw [if_pos present]

theorem run_free {key : String} (free : key ∉ sources.keys) (text : Points) :
    (addSource key text).run sources = pure ((), sources ++ [(key, text)]) := by
  have absent : ¬ sources.keys.contains key = true := by simpa using free
  show (if sources.keys.contains key then _ else _) = _
  rw [if_neg absent]

theorem run_attempt (sources : Table Points) (key : String) (text : Points) :
    (attempt key text).run sources =
      if key ∈ sources.keys then pure (some (.duplicateSource key), sources)
      else pure (none, sources ++ [(key, text)]) := by
  by_cases taken : key ∈ sources.keys
  · have refused : (addSource key text sources).outcome = .error (.duplicateSource key) :=
      congrArg Logged.outcome (run_taken taken text)
    rw [if_pos taken]
    show (match (addSource key text sources).outcome with | .ok added => _ | .error fault => _) = _
    rw [refused]
  · have added : (addSource key text sources).outcome = .ok ((), sources ++ [(key, text)]) :=
      congrArg Logged.outcome (run_free taken text)
    rw [if_neg taken]
    show (match (addSource key text sources).outcome with | .ok added => _ | .error fault => _) = _
    rw [added]

theorem refused_says_nothing {key : String} (taken : key ∈ sources.keys) (text : Points)
    (rest : Table Points) :
    (∀ other, other ∈ Table.keys (sources ++ (key, text) :: rest) ↔
        other ∈ Table.keys (sources ++ rest)) ∧
      ∀ other, Table.get? (sources ++ (key, text) :: rest) other =
        Table.get? (sources ++ rest) other := by
  constructor
  · intro other
    simp only [Table.keys, List.map_append, List.map_cons, List.mem_append, List.mem_cons]
    constructor
    · rintro (inside | rfl | later)
      · exact .inl inside
      · exact .inl taken
      · exact .inr later
    · rintro (inside | later)
      · exact .inl inside
      · exact .inr (.inr later)
  · intro other
    unfold Table.get?
    rw [List.find?_append, List.find?_append, List.find?_cons]
    by_cases same : key = other
    · subst same
      obtain ⟨entry, inside, own⟩ := List.mem_map.mp taken
      cases found : sources.find? fun entry => entry.1 = key with
      | none => exact absurd (List.find?_eq_none.mp found entry inside) (by simp [own])
      | some held => rfl
    · simp [same]

/-- Whatever a generator attempts to add, its keys keep their first texts. -/
theorem attempt_all_settles (sources : Table Points) (additions : List (String × Points)) :
    ∃ answers kept, (attemptAll additions).run sources = pure (answers, kept) ∧
      Settled sources additions answers kept := by
  induction additions generalizing sources with
  | nil => exact ⟨[], sources, rfl, by simp, by simp⟩
  | cons addition rest induction =>
      obtain ⟨key, text⟩ := addition
      have step (answer : Option Fault) (after : Table Points)
          (attempted : (attempt key text).run sources = pure (answer, after)) :
          (attemptAll ((key, text) :: rest)).run sources =
            (attemptAll rest).run after >>= fun others =>
              pure (answer :: others.1, others.2) := by
        show (attempt key text).run sources >>= _ = _
        rw [attempted]
        rfl
      by_cases taken : key ∈ sources.keys
      · obtain ⟨answers, kept, ran, answered, texts⟩ := induction sources
        have refused := run_attempt sources key text
        rw [if_pos taken] at refused
        refine ⟨_, kept, by rw [step _ _ refused, ran]; rfl, ?_, ?_⟩
        · intro index inside
          cases index with
          | zero => simp [taken]
          | succ index =>
              have later := answered index (by simpa using inside)
              simp only [List.getElem?_cons_succ, later, List.getElem_cons_succ,
                List.take_succ_cons, (refused_says_nothing taken text _).1]
        · intro other
          rw [texts, (refused_says_nothing taken text rest).2]
      · obtain ⟨answers, kept, ran, answered, texts⟩ := induction (sources ++ [(key, text)])
        have added := run_attempt sources key text
        rw [if_neg taken] at added
        refine ⟨_, kept, by rw [step _ _ added, ran]; rfl, ?_, ?_⟩
        · intro index inside
          cases index with
          | zero => simp [taken]
          | succ index =>
              have later := answered index (by simpa using inside)
              simp only [List.append_assoc, List.singleton_append] at later
              simp only [List.getElem?_cons_succ, List.getElem_cons_succ, List.take_succ_cons]
              exact later
        · intro other
          simpa using texts other

end Session

section Runs

def AllReturn (generators : List Generator) (program : Program) : Prop :=
  ∀ generator ∈ generators, ∃ sources, (generator.run program).outcome = .ok sources

def FirstFault (generators : List Generator) (program : Program) (fault : Fault) : Prop :=
  ∃ before generator after, generators = before ++ generator :: after ∧
    AllReturn before program ∧ (generator.run program).outcome = .error fault

/-- Two lists of generators do not influence each other. -/
structure Independent (first second : List Generator) (program : Program) : Prop where
  returns : (∃ joined, (runGenerators (first ++ second) program).outcome = .ok joined) ↔
    (∃ own, (runGenerators first program).outcome = .ok own) ∧
      ∃ other, (runGenerators second program).outcome = .ok other
  together : ∀ joined own other,
    (runGenerators (first ++ second) program).outcome = .ok joined →
    (runGenerators first program).outcome = .ok own →
    (runGenerators second program).outcome = .ok other →
      joined.fragments = own.fragments ++ other.fragments ∧
      joined.diagnostics = own.diagnostics ++ other.diagnostics ∧
      joined.hasErrors = (own.hasErrors || other.hasErrors)
  faults : ∀ fault, (runGenerators (first ++ second) program).outcome = .error fault ↔
    FirstFault (first ++ second) program fault

variable {program : Program}

/-- A run returns the sources of its generators and what they report, in order. -/
theorem run_returns_iff {generators : List Generator} {result : GenerationResult} :
    (runGenerators generators program).outcome = .ok result ↔
      ∃ tables, List.Forall₂ (fun generator sources => (generator.run program).outcome = .ok sources)
          generators tables ∧
        result = { fragments := tables.flatten
                   diagnostics := generators.flatMap fun generator =>
                     (generator.run program).diagnostics } := by
  have reports {tables : List (Table Points)}
      (all : (Logged.forEach (fun generator => Generator.run generator program)
        generators).outcome = .ok tables) :
      (Logged.forEach (fun generator => Generator.run generator program) generators).diagnostics =
        generators.flatMap fun generator => (generator.run program).diagnostics := by
    unfold Logged.diagnostics
    rw [Logged.for_each_events all]
    exact List.filterMap_flatMap
  unfold runGenerators
  simp only [Logged.bind_returns, Logged.outcome_pure, Except.ok.injEq]
  constructor
  · rintro ⟨made, ⟨tables, all, rfl⟩, _, -, rfl⟩
    exact ⟨tables, Logged.for_each_returns.mp all, by rw [reports all]⟩
  · rintro ⟨tables, each, rfl⟩
    have all := Logged.for_each_returns.mpr each
    exact ⟨_, ⟨tables, all, rfl⟩, (), rfl, by rw [reports all]⟩

theorem run_succeeds_iff {generators : List Generator} :
    (∃ result, (runGenerators generators program).outcome = .ok result) ↔
      AllReturn generators program := by
  unfold AllReturn
  rw [← Logged.for_each_succeeds]
  simp only [run_returns_iff, Logged.for_each_returns]
  constructor
  · rintro ⟨_, tables, each, -⟩
    exact ⟨tables, each⟩
  · rintro ⟨tables, each⟩
    exact ⟨_, tables, each, rfl⟩

theorem run_faults_iff {generators : List Generator} {fault : Fault} :
    (runGenerators generators program).outcome = .error fault ↔
      FirstFault generators program fault := by
  unfold FirstFault AllReturn
  rw [← Logged.for_each_faults]
  unfold runGenerators
  simp only [Logged.outcome_bind]
  cases (Logged.forEach (fun generator => Generator.run generator program) generators).outcome with
  | error other => simp [Except.bind]
  | ok tables => simp [Except.bind]

/-- Each list of generators runs as if it were alone. -/
theorem lists_independent (first second : List Generator) (program : Program) :
    Independent first second program := by
  constructor
  case returns =>
    simp only [run_succeeds_iff, AllReturn, List.mem_append]
    constructor
    · intro all
      exact ⟨fun generator inside => all generator (.inl inside),
        fun generator inside => all generator (.inr inside)⟩
    · rintro ⟨own, others⟩ generator inside
      exact inside.elim (own generator) (others generator)
  case together =>
    intro joined own other joinedReturned ownReturned otherReturned
    obtain ⟨tables, each, rfl⟩ := run_returns_iff.mp ownReturned
    obtain ⟨more, eachOther, rfl⟩ := run_returns_iff.mp otherReturned
    have both := run_returns_iff.mpr ⟨tables ++ more, List.rel_append each eachOther, rfl⟩
    rw [Except.ok.inj (joinedReturned.symm.trans both)]
    refine ⟨by simp, by simp, ?_⟩
    simp [GenerationResult.hasErrors]
  case faults =>
    intro fault
    exact run_faults_iff

end Runs

/-- Generators do not influence each other, whatever they do. Each of them is given what its own
receiver makes of all sites of the program, and adds its sources to a table of its own, where the
first text of a key stays and a second one is refused. -/
theorem generators_independent (first second : List Generator) (program : Program) :
    Independent first second program ∧
      (∀ generator : Generator, generator.SeesAll program) ∧
      (∀ (sources : Table Points) (key : String) (text : Points), key ∈ sources.keys →
        ((Session.addSource key text).run sources).outcome = .error (.duplicateSource key)) ∧
      ∀ (sources additions : Table Points), ∃ answers kept,
        ((Session.attemptAll additions).run sources).outcome = .ok (answers, kept) ∧
          Session.Settled sources additions answers kept := by
  refine ⟨lists_independent first second program, fun generator => generator.sees_all program,
    ?refused, ?attempted⟩
  case refused =>
    intro sources key text taken
    rw [Session.run_taken taken]
    rfl
  case attempted =>
    intro sources additions
    obtain ⟨answers, kept, ran, settled⟩ := Session.attempt_all_settles sources additions
    exact ⟨answers, kept, by rw [ran]; rfl, settled⟩

end PropertyGen
