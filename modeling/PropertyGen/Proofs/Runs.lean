import Mathlib.Data.List.Forall2
import PropertyGen.Generation.Host

/-!
Runs that report on their way. A run that returns is a chain of steps that return, and its
events are those of the steps in order.
-/

namespace PropertyGen

def Diagnostic.ofMessage (id : String) (severity : Severity) (location? : Option Location)
    (message : String) : Diagnostic :=
  { id
    severity
    message
    path := location?.map (·.path)
    line := location?.map (·.line)
    column := location?.map (·.column) }

theorem diagnostics_append (first second : List Event) :
    diagnosticsOf (first ++ second) = diagnosticsOf first ++ diagnosticsOf second :=
  List.filterMap_append

theorem diagnostics_flatMap {α : Type} (values : List α) (events : α → List Event) :
    diagnosticsOf (values.flatMap events) = values.flatMap fun value => diagnosticsOf (events value) :=
  List.filterMap_flatMap

theorem diagnostics_notes (notes : List Note) : diagnosticsOf (notes.map .note) = [] := by
  induction notes with
  | nil => rfl
  | cons note notes induction => exact induction

theorem forall_two_member {α β : Type} {relation : α → β → Prop} {elements : List α}
    {results : List β} (each : List.Forall₂ relation elements results) {result : β}
    (member : result ∈ results) : ∃ element ∈ elements, relation element result := by
  induction each with
  | nil => cases member
  | cons head rest induction =>
      rcases List.mem_cons.mp member with rfl | later
      · exact ⟨_, List.mem_cons_self, head⟩
      · obtain ⟨element, inside, own⟩ := induction later
        exact ⟨element, List.mem_cons_of_mem _ inside, own⟩

/-- The first element that is asked for has the first of the selected values that are chosen, if the
elements that are asked for are those with such a value. -/
theorem forall_two_find {α β γ : Type} {relation : α → β → Prop} {elements : List α}
    {results : List β} (each : List.Forall₂ relation elements results) {asked : α → Bool}
    {select : β → Option γ} {chosen : γ → Bool}
    (agrees : ∀ element result, relation element result →
      (select result).any chosen = asked element)
    {element : α} (found : elements.find? asked = some element) :
    ∃ result value, relation element result ∧ select result = some value ∧
      (results.filterMap select).find? chosen = some value := by
  induction each with
  | nil => cases found
  | @cons first result elements results related rest induction =>
      have same := agrees first result related
      rw [List.find?_cons] at found
      cases isAsked : asked first with
      | true =>
          rw [isAsked] at found same
          cases selected : select result with
          | none =>
              rw [selected] at same
              cases same
          | some value =>
              rw [selected, Option.any_some] at same
              refine ⟨result, value, Option.some.inj found ▸ related, selected, ?_⟩
              rw [List.filterMap_cons_some selected, List.find?_cons, same]
      | false =>
          rw [isAsked] at found same
          obtain ⟨later, value, own, laterSelected, isFirst⟩ := induction found
          refine ⟨later, value, own, laterSelected, ?_⟩
          cases selected : select result with
          | none => rw [List.filterMap_cons_none selected, isFirst]
          | some other =>
              rw [selected, Option.any_some] at same
              rw [List.filterMap_cons_some selected, List.find?_cons, same]
              exact isFirst

section Faults

variable {α β : Type}

theorem except_bind_returns {first : Except Fault α} {next : α → Except Fault β} {result : β} :
    first >>= next = .ok result ↔ ∃ value, first = .ok value ∧ next value = .ok result := by
  cases first with
  | error fault => simp [Bind.bind, Except.bind]
  | ok value => simp [Bind.bind, Except.bind]

theorem except_any_returns {step : Except Fault α} {test : α → Bool}
    (found : step.toOption.any test = true) : ∃ value, step = .ok value ∧ test value = true := by
  cases step with
  | error fault => cases found
  | ok value => exact ⟨value, rfl, found⟩

theorem last_returns {step : Except Fault α} {change : α → β} :
    (∃ result, (step >>= fun value => pure (change value)) = .ok result) ↔
      ∃ value, step = .ok value := by
  cases step with
  | error fault => simp [Bind.bind, Except.bind]
  | ok value => simp [Bind.bind, Except.bind, pure, Except.pure]

theorem except_each_succeeds {action : α → Except Fault β} {elements : List α} :
    (∃ results, elements.mapM action = .ok results) ↔
      ∀ element ∈ elements, ∃ result, action element = .ok result := by
  induction elements with
  | nil => simp [Pure.pure, Except.pure]
  | cons element rest induction =>
      rw [List.mapM_cons, List.forall_mem_cons, ← induction]
      constructor
      · intro given
        rcases given with ⟨results, returned⟩
        obtain ⟨result, head, later⟩ := except_bind_returns.mp returned
        obtain ⟨others, rests, -⟩ := except_bind_returns.mp later
        exact ⟨⟨result, head⟩, others, rests⟩
      · intro given
        rcases given with ⟨⟨result, head⟩, others, rests⟩
        exact ⟨_, except_bind_returns.mpr ⟨result, head,
          except_bind_returns.mpr ⟨others, rests, rfl⟩⟩⟩

theorem except_each_returns {action : α → Except Fault β} {elements : List α} {results : List β}
    (returned : elements.mapM action = .ok results) :
    List.Forall₂ (fun element result => action element = .ok result) elements results := by
  induction elements generalizing results with
  | nil =>
      rw [List.mapM_nil] at returned
      rw [← Except.ok.inj returned]
      exact .nil
  | cons element rest induction =>
      rw [List.mapM_cons] at returned
      obtain ⟨result, head, later⟩ := except_bind_returns.mp returned
      obtain ⟨others, rests, same⟩ := except_bind_returns.mp later
      rw [← Except.ok.inj same]
      exact .cons head (induction rests)

theorem chain_faults {first : Except Fault α} {next : α → Except Fault β} :
    (∃ fault, first >>= next = .error fault) ↔
      (∃ fault, first = .error fault) ∨
        ∃ value, first = .ok value ∧ ∃ fault, next value = .error fault := by
  cases first with
  | error fault => simp [Bind.bind, Except.bind]
  | ok value => simp [Bind.bind, Except.bind]

theorem last_faults {step : Except Fault α} {result : α → β} :
    (∃ fault, (step >>= fun value => pure (result value)) = .error fault) ↔
      ∃ fault, step = .error fault := by
  cases step with
  | error fault => simp [Bind.bind, Except.bind]
  | ok value => simp [Bind.bind, Except.bind, pure, Except.pure]

theorem map_returns {Error : Type} {step : Except Error α} {change : α → β} {result : β} :
    step.map change = .ok result ↔ ∃ value, step = .ok value ∧ change value = result := by
  cases step with
  | error fault => simp [Except.map]
  | ok value => simp [Except.map]

theorem map_faults {step : Except Fault α} {change : α → β} :
    (∃ fault, step.map change = .error fault) ↔ ∃ fault, step = .error fault := by
  cases step with
  | error fault => simp [Except.map]
  | ok value => simp [Except.map]

end Faults

namespace Logged

section Chains

variable {α β : Type}

instance : LawfulMonad Logged :=
  LawfulMonad.mk' Logged
    (fun first => by
      show Logged.bind first _ = first
      unfold Logged.bind
      cases first with
      | mk events outcome => cases outcome <;> simp [Logged.pure])
    (fun value next => rfl)
    (fun first next last => by
      show Logged.bind (Logged.bind _ _) _ = Logged.bind _ _
      unfold Logged.bind
      cases first with
      | mk events outcome =>
          cases outcome with
          | error fault => rfl
          | ok value =>
              cases later : (next value).outcome <;> simp [Bind.bind, Logged.bind, later])

/-- A chain of two steps returns exactly if both return. -/
theorem bind_returns {first : Logged α} {next : α → Logged β} {result : β} :
    (first >>= next).outcome = .ok result ↔
      ∃ value, first.outcome = .ok value ∧ (next value).outcome = .ok result := by
  rw [outcome_bind]
  cases first.outcome with
  | error fault => simp [Except.bind]
  | ok value => simp [Except.bind]

theorem outcome_emit_bind (events : List Event) (next : Unit → Logged β) :
    (emit events >>= next).outcome = (next ()).outcome := rfl

theorem bind_succeeds {first : Logged α} {next : α → Logged β}
    (passes : ∀ value, ∃ result, (next value).outcome = .ok result) :
    (∃ result, (first >>= next).outcome = .ok result) ↔ ∃ value, first.outcome = .ok value := by
  constructor
  · intro given
    rcases given with ⟨result, returned⟩
    obtain ⟨value, own, -⟩ := bind_returns.mp returned
    exact ⟨value, own⟩
  · intro given
    rcases given with ⟨value, own⟩
    obtain ⟨result, later⟩ := passes value
    exact ⟨result, bind_returns.mpr ⟨value, own, later⟩⟩

theorem bind_faults {first : Logged α} {next : α → Logged β} :
    (∃ fault, (first >>= next).outcome = .error fault) ↔
      (∃ fault, first.outcome = .error fault) ∨
        ∃ value, first.outcome = .ok value ∧ ∃ fault, (next value).outcome = .error fault := by
  simp only [outcome_bind]
  exact chain_faults

theorem bind_fault_iff {first : Logged α} {next : α → Logged β} {fault : Fault} :
    (first >>= next).outcome = .error fault ↔
      first.outcome = .error fault ∨
        ∃ value, first.outcome = .ok value ∧ (next value).outcome = .error fault := by
  rw [outcome_bind]
  cases first.outcome with
  | error own => simp [Except.bind]
  | ok value => simp [Except.bind]

theorem bind_of_eq {first : Logged α} {events : List Event} {value : α}
    (same : first = { events, outcome := .ok value }) (next : α → Logged β) :
    first >>= next =
      { events := events ++ (next value).events, outcome := (next value).outcome } := by
  subst same
  rfl

theorem of_except_ok_bind (value : α) (next : α → Logged β) :
    ofExcept (.ok value) >>= next = next value := rfl

end Chains

section Lists

universe u

variable {α : Type u} {β : Type}

theorem for_each_nil (action : α → Logged β) : forEach action [] = Pure.pure [] := rfl

theorem for_each_cons (action : α → Logged β) (element : α) (rest : List α) :
    forEach action (element :: rest) =
      action element >>= fun result => forEach action rest >>= fun results =>
        Pure.pure (result :: results) := rfl

/-- Running over a list returns exactly the results of its elements, one each, in order. -/
theorem for_each_returns {action : α → Logged β} {elements : List α} {results : List β} :
    (forEach action elements).outcome = .ok results ↔
      List.Forall₂ (fun element result => (action element).outcome = .ok result) elements results := by
  induction elements generalizing results with
  | nil =>
      rw [for_each_nil, outcome_pure, List.forall₂_nil_left_iff]
      constructor
      · intro same
        exact (Except.ok.inj same).symm
      · intro same
        rw [same]
  | cons element rest induction =>
      rw [for_each_cons, bind_returns]
      constructor
      · intro given
        rcases given with ⟨result, returned, later⟩
        obtain ⟨others, rests, same⟩ := bind_returns.mp later
        rw [outcome_pure] at same
        rw [← Except.ok.inj same]
        exact .cons returned (induction.mp rests)
      · intro each
        cases each with
        | cons returned rests =>
            exact ⟨_, returned, bind_returns.mpr ⟨_, induction.mpr rests, rfl⟩⟩

theorem mem_for_each {action : α → Logged β} {elements : List α} {results : List β}
    (returned : (forEach action elements).outcome = .ok results) {result : β} :
    result ∈ results ↔ ∃ element ∈ elements, (action element).outcome = .ok result := by
  have each := for_each_returns.mp returned
  clear returned
  induction each with
  | nil => simp
  | @cons element own elements results head rest induction =>
      constructor
      · intro listed
        rcases List.mem_cons.mp listed with same | later
        · exact ⟨element, List.mem_cons_self, same ▸ head⟩
        · obtain ⟨other, inside, returned⟩ := induction.mp later
          exact ⟨other, List.mem_cons_of_mem _ inside, returned⟩
      · intro found
        rcases found with ⟨other, inside, returned⟩
        rcases List.mem_cons.mp inside with same | later
        · rw [same, head] at returned
          rw [← Except.ok.inj returned]
          exact List.mem_cons_self
        · exact List.mem_cons_of_mem _ (induction.mpr ⟨other, later, returned⟩)

theorem for_each_succeeds {action : α → Logged β} {elements : List α} :
    (∃ results, (forEach action elements).outcome = .ok results) ↔
      ∀ element ∈ elements, ∃ result, (action element).outcome = .ok result := by
  induction elements with
  | nil => simp [for_each_nil]
  | cons element rest induction =>
      rw [for_each_cons, List.forall_mem_cons, ← induction]
      constructor
      · intro given
        rcases given with ⟨results, returned⟩
        obtain ⟨result, head, later⟩ := bind_returns.mp returned
        obtain ⟨others, rests, -⟩ := bind_returns.mp later
        exact ⟨⟨result, head⟩, others, rests⟩
      · intro given
        rcases given with ⟨⟨result, head⟩, others, rests⟩
        exact ⟨_, bind_returns.mpr ⟨result, head, bind_returns.mpr ⟨others, rests, rfl⟩⟩⟩

/-- A run over a list has the fault of the first element that has one. -/
theorem for_each_faults {action : α → Logged β} {elements : List α} {fault : Fault} :
    (forEach action elements).outcome = .error fault ↔
      ∃ before element after, elements = before ++ element :: after ∧
        (∀ earlier ∈ before, ∃ result, (action earlier).outcome = .ok result) ∧
        (action element).outcome = .error fault := by
  induction elements with
  | nil => simp [for_each_nil]
  | cons element rest induction =>
      have others (value : β) :
          (forEach action rest >>= fun results => Pure.pure (value :: results)).outcome =
              .error fault ↔
            (forEach action rest).outcome = .error fault := by
        simp only [bind_fault_iff, outcome_pure, reduceCtorEq, and_false, exists_false, or_false]
      rw [for_each_cons, bind_fault_iff]
      simp only [others, induction]
      constructor
      · rintro (failed | ⟨result, returned, before, failing, after, rfl, earlier, failed⟩)
        · exact ⟨[], element, rest, rfl, by simp, failed⟩
        · exact ⟨element :: before, failing, after, rfl,
            List.forall_mem_cons.mpr ⟨⟨result, returned⟩, earlier⟩, failed⟩
      · rintro ⟨before, failing, after, split, earlier, failed⟩
        cases before with
        | nil =>
            obtain ⟨rfl, -⟩ := List.cons.inj split
            exact .inl failed
        | cons first others =>
            obtain ⟨rfl, rest⟩ := List.cons.inj split
            obtain ⟨⟨result, returned⟩, earlier⟩ := List.forall_mem_cons.mp earlier
            exact .inr ⟨result, returned, others, failing, after, rest, earlier, failed⟩

theorem for_each_congr {first second : α → Logged β} {elements : List α}
    (same : ∀ element ∈ elements, (second element).outcome = (first element).outcome) :
    (forEach second elements).outcome = (forEach first elements).outcome := by
  induction elements with
  | nil => rfl
  | cons element rest induction =>
      obtain ⟨own, others⟩ := List.forall_mem_cons.mp same
      simp only [for_each_cons, outcome_bind, own, induction others, outcome_pure]

theorem for_each_events {action : α → Logged β} {elements : List α} {results : List β}
    (returned : (forEach action elements).outcome = .ok results) :
    (forEach action elements).events = elements.flatMap fun element => (action element).events := by
  induction elements generalizing results with
  | nil => rfl
  | cons element rest induction =>
      rw [for_each_cons] at returned ⊢
      obtain ⟨result, head, later⟩ := bind_returns.mp returned
      obtain ⟨others, rests, -⟩ := bind_returns.mp later
      rw [events_bind_ok head, events_bind_ok rests, induction rests, events_pure,
        List.append_nil, List.flatMap_cons]

end Lists

end Logged

namespace Session

variable {sources : Table Points}

theorem run_emit (events : List Event) (next : Session Unit) :
    (do emit events; next : Session Unit).run sources =
      { events := events ++ (next.run sources).events
        outcome := (next.run sources).outcome } := by
  have first : (emit events).run sources = { events, outcome := .ok ((), sources) } := by
    unfold emit StateT.run StateT.lift
    simp [Logged.emit, Bind.bind, Logged.bind, Pure.pure, Logged.pure]
  show ((emit events).run sources >>= fun result => next.run result.2) = _
  rw [Logged.bind_of_eq first]

theorem run_report (diagnostic : Diagnostic) (next : Session Unit) :
    (do report diagnostic; next : Session Unit).run sources =
      { events := .report diagnostic :: (next.run sources).events
        outcome := (next.run sources).outcome } :=
  run_emit [.report diagnostic] next

theorem run_lift {α : Type} (step : Logged α) (next : α → Session Unit) :
    (do next (← StateT.lift step) : Session Unit).run sources =
      step >>= fun value => (next value).run sources := by
  show Logged.bind (Logged.bind step fun value => Logged.pure (value, sources))
    (fun result => (next result.1).run result.2) = Logged.bind step _
  unfold Logged.bind
  cases step.outcome with
  | error fault => rfl
  | ok value => simp [Logged.pure]

theorem run_next_returns {first next : Session Unit} {result : Unit × Table Points}
    (returned : ((do first; next : Session Unit).run sources).outcome = .ok result) :
    ∃ left, (next.run left).outcome = .ok result := by
  have chain : (first.run sources >>= fun between => next.run between.2).outcome = .ok result :=
    returned
  obtain ⟨between, -, later⟩ := Logged.bind_returns.mp chain
  exact ⟨between.2, later⟩

theorem run_add_source {key : String} (fresh : key ∉ sources.keys) (text : Points)
    (next : Session Unit) :
    (do addSource key text; next : Session Unit).run sources =
      next.run (sources ++ [(key, text)]) := by
  have absent : sources.keys.contains key = false := by simpa using fresh
  show Logged.bind (addSource key text sources) _ = _
  simp only [addSource, absent]
  rfl

end Session

end PropertyGen
