import Rulebook.Service.World

/-!
# Recovering from faults

A request whose handling ends in a fault is answered all the same, with a document that tells the
correlation id and the path and nothing of the cause, which is logged.
-/

namespace Rulebook

/-- What is said of a fault. -/
def unhandledEvent (path : Text) (cause : Fault) : Event :=
  .of "unhandled.exception" .error
    [("error", .text cause.message), ("error_type", .text cause.className),
      ("path", .text path)]

/-- The document that answers a request whose handling ended in a fault. -/
def faultDocument (correlation path : Text) : Json :=
  .record
    [("error", .string "InternalServerError"),
      ("message", .string "An unexpected error occurred"),
      ("correlation_id", .text correlation), ("path", .text path)]

/-- Answers also where the inner handler does not. -/
def withRecovery (inner : Handler) : Handler := fun request => do
  match ← Serve.attempt (inner request) with
  | .ok response => return response
  | .error cause =>
      let correlation := (← get).correlation
      Serve.report (unhandledEvent request.location cause)
      Serve.answer 500 (faultDocument correlation request.location)

end Rulebook
