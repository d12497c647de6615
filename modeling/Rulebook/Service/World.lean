import Rulebook.Log
import Rulebook.Metrics
import Rulebook.Service.Http

/-!
# Handling a request

While a request is handled, the measurements, the values bound to log entries, the correlation id
in force and the entries written so far are the world that handlers act upon.  Handling may end in
a fault; what was measured and written before stays.
-/

namespace Rulebook

/-- What handlers act upon. -/
structure World where
  metrics : Metrics
  context : LogContext
  /-- The correlation id in force; empty if there is none. -/
  correlation : Text
  /-- The entries written so far. -/
  log : List Entry

/-- Something done while a request is handled, which may end in a fault. -/
abbrev Serve := ExceptT Fault (StateM World)

/-- Answers requests. -/
abbrev Handler := Request → Serve Response

namespace Serve

/-- Changes the measurements. -/
def measure (change : Metrics → Metrics) : Serve Unit :=
  modify fun world => { world with metrics := change world.metrics }

/-- Writes an event to the log. -/
def report (event : Event) : Serve Unit :=
  modify fun world => { world with log := world.log ++ [⟨event, world.context⟩] }

/-- Writes events to the log in order. -/
def reportAll (events : List Event) : Serve Unit := events.forM report

/-- Replaces the values bound to log entries and the correlation id in force. -/
def bindContext (correlation : Text) (context : LogContext) : Serve Unit :=
  modify fun world => { world with correlation, context }

/-- What comes of an action, whether it ends in a fault or not. -/
def attempt {α : Type} (action : Serve α) : Serve (Except Fault α) :=
  ExceptT.mk (do return .ok (← action.run))

/-- The outcome of a computation that touches nothing. -/
def ofOutcome {α : Type} (outcome : Except Fault α) : Serve α := ExceptT.mk (pure outcome)

/-- Answers with a document. -/
def answer (status : Nat) (content : Json) : Serve Response :=
  ofOutcome (Response.ofDocument status content)

@[simp]
theorem run_measure (change : Metrics → Metrics) (world : World) :
    (measure change).run.run world =
      (.ok (), { world with metrics := change world.metrics }) := rfl

@[simp]
theorem run_report (event : Event) (world : World) :
    (report event).run.run world =
      (.ok (), { world with log := world.log ++ [⟨event, world.context⟩] }) := rfl

@[simp]
theorem run_bindContext (correlation : Text) (context : LogContext) (world : World) :
    (bindContext correlation context).run.run world =
      (.ok (), { world with correlation, context }) := rfl

@[simp]
theorem run_attempt {α : Type} (action : Serve α) (world : World) :
    (attempt action).run.run world =
      (.ok (action.run.run world).1, (action.run.run world).2) := rfl

@[simp]
theorem run_ofOutcome {α : Type} (outcome : Except Fault α) (world : World) :
    (ofOutcome outcome).run.run world = (outcome, world) := rfl

/-- A fault ends the handling; otherwise the rest goes on in the world left behind. -/
theorem run_bind {α β : Type} (action : Serve α) (next : α → Serve β) (world : World) :
    (action >>= next).run.run world =
      match action.run.run world with
      | (.ok result, after) => (next result).run.run after
      | (.error cause, after) => (.error cause, after) := by
  have unfolded : (action >>= next).run.run world =
      (ExceptT.bindCont next (action.run.run world).1).run (action.run.run world).2 := rfl
  rw [unfolded]
  obtain ⟨result, after⟩ := action.run.run world
  cases result <;> rfl

end Serve

end Rulebook
