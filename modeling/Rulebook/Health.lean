import Rulebook.Condition.Guard
import Rulebook.Log
import Rulebook.Metrics
import Rulebook.Settings

/-!
# Health

A service is alive while it answers.  It is ready if its vocabulary is complete, its settings are
usable, and the host has memory left; every check is reported with its details.
-/

namespace Rulebook

/-- The outcome of a check. -/
inductive CheckStatus where
  /-- Nothing to report. -/
  | ok
  /-- Something is set in vain, but the service works. -/
  | warning
  /-- The service cannot work. -/
  | error
  deriving DecidableEq, Repr

/-- The word for the outcome of a check. -/
def CheckStatus.symbol : CheckStatus → Text
  | .ok => "ok"
  | .warning => "warning"
  | .error => "error"

/-- The memory of the host, as far as it can be read. -/
inductive Memory where
  /-- Bytes that are available and bytes that the service uses. -/
  | measured (available used : Int)
  | unreadable (reason : Text)
  deriving DecidableEq

/-- Bytes in units of a megabyte, which are 1024 times 1024 bytes. -/
def megabytes (bytes : Int) : Double := Double.ofRat (bytes / 1048576)

/-- The least number of available megabytes with which the service can work. -/
def minAvailableMegabytes : Int := 50

/-- A named check with its outcome and its details. -/
structure Check where
  name : Text
  status : CheckStatus
  details : List (Text × Json)

namespace Check

/-- A check whose details are named by strings. -/
def of (name : String) (status : CheckStatus) (details : List (String × Json)) : Check :=
  ⟨name, status, details.map fun (label, value) => (Text.ofString label, value)⟩

/-- The document of a check. -/
def document (check : Check) : Json :=
  .object ((Text.ofString "status", .text check.status.symbol) :: check.details)

/-- The vocabulary is complete if the table of configuration keys lists every type of action. -/
def vocabulary : Check :=
  let missing := ActionType.unschematized
  .of "vocabulary" (if missing.isEmpty then .ok else .error)
    [("comparison_operators", .nat ComparisonOperator.symbols.length),
      ("logical_operators", .nat LogicalOperator.symbols.length),
      ("action_types", .nat ActionType.symbols.length),
      ("missing_schemas", .texts (missing.map (·.symbol)))]

/-- No type of action is without its configuration keys. -/
theorem vocabulary_status : vocabulary.status = .ok := by
  rw [vocabulary, ActionType.unschematized_eq]
  rfl

/-- The settings are usable if the depth is not negative and some payload is allowed.  A depth
beyond the safety ceiling is never used. -/
def settings (settings : Settings) : Check :=
  let status : CheckStatus :=
    if settings.maxDepth < 0 || settings.maxPayloadSize ≤ 0 then .error
    else if (maxSafeDepth : Int) < settings.maxDepth then .warning
    else .ok
  .of "settings" status
    [("condition_max_depth", .int settings.maxDepth),
      ("max_safe_depth", .nat maxSafeDepth),
      ("max_payload_size", .int settings.maxPayloadSize),
      ("safety_guard", .bool settings.enforcesGuard)]

/-- The host has memory left. -/
def memory : Memory → Check
  | .measured available used =>
      let free := megabytes available
      let short := (Number.double free).lt (.whole minAvailableMegabytes)
      .of "memory" (if short then .error else .ok)
        [("available_mb", .double free.roundToHundredths),
          ("process_rss_mb", .double (megabytes used).roundToHundredths)]
  | .unreadable reason => .of "memory" .error [("error", .text reason)]

end Check

/-- The document that says that a service is alive. -/
def ServiceInfo.liveness (service : ServiceInfo) : Json :=
  .record
    [("status", .string "ok"), ("service", .text service.name),
      ("version", .text service.version)]

/-- The checks that make a service ready. -/
structure Readiness where
  service : ServiceInfo
  checks : List Check

namespace Readiness

/-- Carries out the checks. -/
def probe (service : ServiceInfo) (settings : Settings) (memory : Memory) : Readiness :=
  ⟨service, [Check.vocabulary, Check.settings settings, Check.memory memory]⟩

/-- The names of the checks that failed. -/
def failing (readiness : Readiness) : List Text :=
  (readiness.checks.filter (·.status = .error)).map (·.name)

/-- The service is ready: no check failed. -/
def isReady (readiness : Readiness) : Bool := readiness.failing.isEmpty

/-- The document of the checks. -/
def document (readiness : Readiness) : Json :=
  .record
    [("status", .string (if readiness.isReady then "ready" else "not_ready")),
      ("service", .text readiness.service.name),
      ("version", .text readiness.service.version),
      ("checks", .object (readiness.checks.map fun check => (check.name, check.document)))]

/-- The events reported when the checks are carried out. -/
def events (memory : Memory) (readiness : Readiness) : List Event :=
  let unread :=
    match memory with
    | .unreadable reason =>
        [Event.of "health.memory_check_failed" .warning [("error", .text reason)]]
    | .measured .. => []
  let notReady :=
    if readiness.isReady then []
    else [Event.of "health.not_ready" .warning [("failing", .texts readiness.failing)]]
  unread ++ notReady

end Readiness

end Rulebook
