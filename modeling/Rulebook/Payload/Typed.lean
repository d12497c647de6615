import Rulebook.Value.Field

/-!
# Typed payloads

A payload holds the three parts of a rule as they arrived, each of any shape.  A part may be given
under either of two names.
-/

namespace Rulebook

/-- The parts of a rule, each of any shape. -/
structure Payload where
  condition : Value
  /-- The actions taken when the condition holds. -/
  successActions : Value
  /-- The actions taken when it does not. -/
  failureActions : Value

namespace Payload

/-- The payload without any part. -/
def empty : Payload := ⟨.null, .null, .null⟩

/-- The typed record as a value. -/
def toValue (payload : Payload) : Value :=
  .payload payload.condition payload.successActions payload.failureActions

/-- The part under either of two names, absent if there is neither. -/
def part (entries : Entries) (first second : Text) : Value :=
  ((entries.either? first second).map (·.2)).getD .null

/-- Reads the parts from the entries of a mapping. -/
def ofEntries (entries : Entries) : Payload :=
  { condition := part entries "conditionExpression" "condition_expression"
    successActions := part entries "successActions" "success_actions"
    failureActions := part entries "failureActions" "failure_actions" }

end Payload

/-- Reads data as a payload. -/
def Value.fitPayload : Value → Fit Payload
  | .payload expression success failure => .ok ⟨expression, success, failure⟩
  | .mapping entries => .ok (Payload.ofEntries entries)
  | _ => Fit.fail .recordType

end Rulebook
