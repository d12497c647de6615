import Rulebook.Service.World

/-!
# Measuring requests

Every request is counted when it begins and when it ends, and its end is logged.  A request that
fails counts as one answered with status 500, and its fault is passed on.  Requests for the
measurements themselves are not measured.
-/

namespace Rulebook

/-- The request is not measured. -/
def Request.isUnmeasured (request : Request) : Bool :=
  (Text.ofString "/metrics").isPrefixOf request.location

/-- What is said of a request that has been answered. -/
def answeredEvent (status : Nat) : Event :=
  .of "http_request" .info [("http_status", .nat status)]

/-- What is said of a request that has failed. -/
def failedEvent (cause : Fault) : Event :=
  .of "http_request_error" .error
    [("error", .text cause.message), ("error_type", .text cause.className)]

/-- Measures every request. -/
def withTraffic (inner : Handler) : Handler := fun request => do
  if request.isUnmeasured then inner request
  else
    Serve.measure (·.requestStarted)
    match ← Serve.attempt (inner request) with
    | .ok response =>
        Serve.measure (·.requestEnded request.method request.location (some response.status))
        Serve.report (answeredEvent response.status)
        return response
    | .error cause =>
        Serve.measure (·.requestEnded request.method request.location none)
        Serve.report (failedEvent cause)
        throw cause

end Rulebook
