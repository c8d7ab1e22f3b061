import PropertyGen.Reports.Note

/-!
Computations that report on their way. The events before a fault are kept, and what is
computed does not depend on them: `outcome` commutes with the monad's operations.
-/

namespace PropertyGen

inductive Event where
  | note (note : Note)
  | report (diagnostic : Diagnostic)
deriving DecidableEq, Repr

def Event.diagnostic? : Event → Option Diagnostic
  | .note _ => none
  | .report diagnostic => some diagnostic

def diagnosticsOf (events : List Event) : List Diagnostic := events.filterMap Event.diagnostic?

structure Logged (α : Type) where
  events : List Event
  outcome : Except Fault α

namespace Logged

variable {α β : Type}

def pure (value : α) : Logged α := { events := [], outcome := .ok value }

def bind (first : Logged α) (next : α → Logged β) : Logged β :=
  match first.outcome with
  | .error fault => { events := first.events, outcome := .error fault }
  | .ok value =>
      { events := first.events ++ (next value).events, outcome := (next value).outcome }

instance : Monad Logged where
  pure := Logged.pure
  bind := Logged.bind

def emit (events : List Event) : Logged Unit := { events, outcome := .ok () }

def fail (fault : Fault) : Logged α := { events := [], outcome := .error fault }

def ofExcept (outcome : Except Fault α) : Logged α := { events := [], outcome }

def diagnostics (logged : Logged α) : List Diagnostic := diagnosticsOf logged.events

@[simp] theorem outcome_pure (value : α) : (Pure.pure value : Logged α).outcome = .ok value := rfl

@[simp] theorem events_pure (value : α) : (Pure.pure value : Logged α).events = [] := rfl

@[simp] theorem outcome_bind (first : Logged α) (next : α → Logged β) :
    (first >>= next).outcome = first.outcome.bind fun value => (next value).outcome := by
  show (Logged.bind first next).outcome = _
  unfold Logged.bind
  cases first.outcome <;> rfl

theorem events_bind_ok {first : Logged α} {value : α} (ok : first.outcome = .ok value)
    (next : α → Logged β) : (first >>= next).events = first.events ++ (next value).events := by
  show (Logged.bind first next).events = _
  simp [Logged.bind, ok]

theorem events_bind_error {first : Logged α} {fault : Fault} (failed : first.outcome = .error fault)
    (next : α → Logged β) : (first >>= next).events = first.events := by
  show (Logged.bind first next).events = _
  simp [Logged.bind, failed]

@[simp] theorem outcome_emit (events : List Event) : (emit events).outcome = .ok () := rfl

@[simp] theorem events_emit (events : List Event) : (emit events).events = events := rfl

@[simp] theorem outcome_ofExcept (outcome : Except Fault α) :
    (ofExcept outcome).outcome = outcome := rfl

end Logged

/-- Runs a computation on every element in order; the first fault ends it. -/
def Logged.forEach.{u} {α : Type u} {β : Type} (action : α → Logged β) : List α → Logged (List β)
  | [] => Pure.pure []
  | element :: rest => do
      let result ← action element
      let results ← Logged.forEach action rest
      Pure.pure (result :: results)

end PropertyGen
