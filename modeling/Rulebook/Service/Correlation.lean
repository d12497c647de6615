import Rulebook.Service.World

/-!
# Correlation ids

Every request has a correlation id: the one it brings along, or a fresh one.  It is bound to all
log entries of the request, together with its method and path, and returned with the answer.
-/

namespace Rulebook

/-- The header field that carries the correlation id. -/
def correlationHeader : Text := "x-correlation-id"

namespace Request

/-- The correlation id of the request, given a fresh one to use if it brings none along. -/
def correlationId (freshId : Text) (request : Request) : Text :=
  match request.header? correlationHeader with
  | some given => if given.isEmpty then freshId else given
  | none => freshId

/-- The values bound to log entries of the request. -/
def logContext (correlationId : Text) (request : Request) : LogContext :=
  [("correlation_id", .text correlationId), ("http_method", .text request.method),
    ("http_path", .text request.location)]

end Request

/-- Gives every request its correlation id. -/
def withCorrelation (freshId : Text) (inner : Handler) : Handler := fun request => do
  let correlationId := request.correlationId freshId
  Serve.bindContext correlationId (request.logContext correlationId)
  let response ← inner request
  return response.withHeader correlationHeader correlationId

end Rulebook
