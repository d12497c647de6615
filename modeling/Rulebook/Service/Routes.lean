import Rulebook.Health
import Rulebook.Payload.Sections
import Rulebook.Service.World

/-!
# Routes

The routes validate whole rules, single conditions and lists of actions, tell the vocabulary, and
report on health and measurements.  The safety guard, if it is enforced, refuses a condition
before it is validated.  The pages on which a service describes its own routes (`/docs`,
`/docs/oauth2-redirect`, `/redoc` and `/openapi.json`) are left out, and their paths count as
unknown.
-/

namespace Rulebook

/-- What the service finds around it while it handles a request. -/
structure Surroundings where
  /-- The settings as they can be read now. -/
  settings : Fit Settings
  memory : Memory
  /-- A fault that strikes the validation of payloads, if one does. -/
  breakdown : Option Fault

/-- A service as it was started. -/
structure Service where
  info : ServiceInfo
  /-- The settings read at the start. -/
  settings : Settings

/-! ## Validation with its log entries -/

/-- The event that says that the check of a condition could not be carried through. -/
def conditionEvents (limit expression : Value) : List Event :=
  match checkCondition none limit (.int 0) expression with
  | .ok _ => []
  | .error cause =>
      [.of "condition.validation_failed" .error
        [("error", .text cause.message), ("error_type", .text cause.className)]]

/-- The event that says that the check of a list of actions could not be carried through. -/
def actionsEvents (field : Text) (actions : Value) : List Event :=
  match actions with
  | .list _ =>
      match checkActions none actions with
      | .ok _ => []
      | .error cause =>
          [.of "actions.validation_failed" .error
            [("field", .text field), ("error", .text cause.message)]]
  | _ => []

/-- Validates a condition and logs if that cannot be carried through. -/
def serveCondition (limit expression : Value) : Serve Verdict := do
  Serve.reportAll (conditionEvents limit expression)
  Serve.ofOutcome (conditionVerdict none limit expression)

/-- Validates a list of actions and logs if that cannot be carried through. -/
def serveActions (field : Text) (actions : Value) : Serve Verdict := do
  Serve.reportAll (actionsEvents field actions)
  Serve.ofOutcome (actionsVerdict none field actions)

/-- Validates the sections of a payload and logs those that cannot be carried through. -/
def serveSections (limit : Value) (payload : Payload) : Serve SectionVerdicts := do
  let condition ← serveCondition limit payload.condition
  let success ← serveActions "successActions" payload.successActions
  let failure ← serveActions "failureActions" payload.failureActions
  return ⟨condition, success, failure⟩

/-! ## Answers -/

/-- What is said of an expression beyond the safety ceilings. -/
def unsafeMessage : Text :=
  Text.ofString "Condition expression exceeds safety limits (max depth " ++
    Text.ofNat maxSafeDepth ++ Text.ofString ", max " ++ Text.ofNat maxRulesPerGroup ++
    Text.ofString " rules per group, max field path length " ++ Text.ofNat maxFieldLength ++
    Text.ofString ")"

/-- Refuses an expression beyond the safety ceilings. -/
def refuseUnsafe (path message : Text) : Serve Response := do
  Serve.measure (·.recordRefusal)
  Serve.report (.of "condition.rejected_unsafe" .warning [("path", .text path)])
  Serve.answer 422 (Verdict.internal message).response

/-- Counts the outcome of validating a section. -/
def countVerdict (part : Text) (verdict : Verdict) : Serve Unit :=
  Serve.measure (·.recordCount part verdict.valid verdict.errorList.length)

/-- A mismatch of a request with its route, and what was found there. -/
def mismatchDocument (kind message : String) (found : Json) : Json :=
  .record
    [("detail", .array
      [.record
        [("type", .string kind), ("loc", .array [.string "body"]), ("msg", .string message),
          ("input", found)]])]

/-- Answers that a document does not follow the grammar. -/
def answerMalformed : Serve Response :=
  Serve.answer 422 (mismatchDocument "json_invalid" "JSON decode error" (.object []))

/-- Answers that a document cannot be read. -/
def answerUnreadable : Serve Response :=
  Serve.answer 400 (.record [("detail", .string "There was an error parsing the body")])

/-- Answers that an object is expected. -/
def answerNoObject (found : Json) : Serve Response :=
  Serve.answer 422
    (mismatchDocument "model_attributes_type"
      "Input should be a valid dictionary or object to extract fields from" found)

/-- Hands the value of a request's content to a route that takes any value. -/
def withValue (content : Content) (route : Value → Serve Response) : Serve Response :=
  match content with
  | .absent => route .null
  | .raw text => route (.text text)
  | .document document => route (.ofJson document)
  | .malformed => answerMalformed
  | .unreadable => answerUnreadable

/-- Hands the payload of a request's content to a route that takes one. -/
def withPayload (content : Content) (route : Payload → Serve Response) : Serve Response :=
  match content with
  | .absent => Serve.answer 422 (mismatchDocument "missing" "Field required" .null)
  | .raw text => answerNoObject (.text text)
  | .document (.object members) => route (Payload.ofEntries (Value.ofMembers members))
  | .document document => answerNoObject document
  | .malformed => answerMalformed
  | .unreadable => answerUnreadable

/-- The settings, without which no route can answer. -/
def Surroundings.read (surroundings : Surroundings) : Serve Settings :=
  match surroundings.settings with
  | .ok settings => return settings
  | .error mismatches => throw (.settings mismatches)

/-- Fails if a fault strikes the validation of payloads. -/
def Surroundings.withstand (surroundings : Surroundings) : Serve Unit :=
  match surroundings.breakdown with
  | some cause => throw cause
  | none => return ()

/-- Validates a whole rule. -/
def validateRule (surroundings : Surroundings) (path : Text) (payload : Payload) :
    Serve Response := do
  let settings ← surroundings.read
  if settings.enforcesGuard && !isSafe payload.condition then
    refuseUnsafe path (Section.condition.title ++ Text.ofString ": " ++ unsafeMessage)
  else
    surroundings.withstand
    let verdicts ← serveSections (.int settings.maxDepth) payload
    verdicts.toList.forM fun (part, verdict) => countVerdict part.symbol verdict
    let verdict := aggregate fun part => some (verdicts.get part)
    Serve.report (.of "rule.validated" .info
      [("valid", .bool verdict.valid), ("error_count", .nat verdict.errorList.length)])
    Serve.answer 200 verdict.response

/-- Validates a condition on its own. -/
def validateCondition (surroundings : Surroundings) (path : Text) (expression : Value) :
    Serve Response := do
  let settings ← surroundings.read
  if settings.enforcesGuard && !isSafe expression then refuseUnsafe path unsafeMessage
  else
    let verdict ← serveCondition (.int settings.maxDepth) expression
    countVerdict Section.condition.symbol verdict
    Serve.answer 200 verdict.response

/-- Validates a list of actions on its own. -/
def validateActions (actions : Value) : Serve Response := do
  let verdict ← serveActions "actions" actions
  countVerdict "actions" verdict
  Serve.answer 200 verdict.response

/-- The document of a choice. -/
def Choice.members (choice : Choice) : List (String × Json) :=
  [("value", .text choice.value), ("label", .text choice.label)]

/-- The document of a type of action on offer. -/
def ActionChoice.document (choice : ActionChoice) : Json :=
  .record (choice.toChoice.members ++
    [("required", .texts choice.schema.required), ("optional", .texts choice.schema.optional)])

/-- The document of the vocabulary and the limits. -/
def vocabularyDocument (maxDepth : Int) : Json :=
  .record
    [("comparison_operators",
        .array (ComparisonOperator.choices.map fun choice => .record choice.members)),
      ("logical_operators",
        .array (LogicalOperator.choices.map fun choice => .record choice.members)),
      ("action_types", .array (ActionType.choices.map (·.document))),
      ("limits",
        .record
          [("max_depth", .int maxDepth), ("max_safe_depth", .nat maxSafeDepth),
            ("max_rules_per_group", .nat maxRulesPerGroup),
            ("max_field_path_length", .nat maxFieldLength)])]

/-- Tells the vocabulary. -/
def tellVocabulary (surroundings : Surroundings) : Serve Response := do
  let settings ← surroundings.read
  Serve.answer 200 (vocabularyDocument settings.maxDepth)

/-- Reports whether the service is ready. -/
def Service.reportReadiness (service : Service) (surroundings : Surroundings) :
    Serve Response := do
  let settings ← surroundings.read
  let readiness := Readiness.probe service.info settings surroundings.memory
  Serve.reportAll (readiness.events surroundings.memory)
  Serve.answer (if readiness.isReady then 200 else 503) readiness.document

/-- Reports the measurements. -/
def reportMetrics : Serve Response := do
  return ⟨200, .page (← get).metrics.page, []⟩

/-! ## Resolution -/

/-- A route of the service. -/
inductive Route where
  | rule
  | condition
  | actions
  | vocabulary
  | liveness
  | readiness
  | metrics
  deriving DecidableEq, Repr

namespace Route

/-- The routes with a path and a method of their own. -/
def table : List (Text × Text × Route) :=
  [("/v1/rules/validate", "POST", .rule), ("/v1/rules/conditions/validate", "POST", .condition),
    ("/v1/rules/actions/validate", "POST", .actions), ("/v1/rules/vocabulary", "GET", .vocabulary),
    ("/health", "GET", .liveness), ("/health/ready", "GET", .readiness)]

/-- The path below which every path reports the measurements. -/
def metricsRoot : Text := "/metrics/"

/-- The path without one line break at its end, which no route regards. -/
def regarded (path : Text) : Text :=
  if path.getLast? = some (.ofChar '\n') then path.dropLast else path

/-- The path lies below that of the measurements, on one line. -/
def isMetrics (path : Text) : Bool :=
  metricsRoot.isPrefixOf path && !path.contains (.ofChar '\n')

/-- The routes with that path, each with its method. -/
def withPath (path : Text) : List (Text × Text × Route) := table.filter (·.1 = regarded path)

/-- Some route has that path, whatever its method. -/
def hasPath (path : Text) : Bool := !(withPath path).isEmpty || isMetrics (regarded path)

end Route

/-- What becomes of a path and a method. -/
inductive Resolution where
  | route (route : Route)
  /-- The path has a route for another method only. -/
  | wrongMethod
  /-- The path with or without a slash at its end has a route. -/
  | redirect (target : Text)
  | unknown
  deriving DecidableEq

/-- The path with a slash added at its end, or without any slash there. -/
def Text.otherSlash (path : Text) : Text :=
  if path.getLast? = some (.ofChar '/') then
    (path.reverse.dropWhile (· = .ofChar '/')).reverse
  else path ++ Text.ofString "/"

/-- Finds what becomes of a path and a method. -/
def resolve (method path : Text) : Resolution :=
  if Route.isMetrics (Route.regarded path) then .route .metrics
  else
    match Route.withPath path with
    | [] =>
        if path ≠ Text.ofString "/" && Route.hasPath path.otherSlash then
          .redirect path.otherSlash
        else .unknown
    | found =>
        match found.find? (·.2.1 = method) with
        | some (_, _, route) => .route route
        | none => .wrongMethod

/-- A document that holds only a detail. -/
def detailDocument (detail : String) : Json := .record [("detail", .string detail)]

/-- Answers a request on a route. -/
def Service.serveRoute (service : Service) (surroundings : Surroundings) (request : Request) :
    Route → Serve Response
  | .rule => withPayload (.ofRequest request) (validateRule surroundings request.location)
  | .condition => withValue (.ofRequest request) (validateCondition surroundings request.location)
  | .actions => withValue (.ofRequest request) validateActions
  | .vocabulary => tellVocabulary surroundings
  | .liveness => Serve.answer 200 service.info.liveness
  | .readiness => service.reportReadiness surroundings
  | .metrics => reportMetrics

/-- Answers a request by its path and method. -/
def Service.routes (service : Service) (surroundings : Surroundings) : Handler := fun request =>
  match resolve request.method request.path with
  | .route route => service.serveRoute surroundings request route
  | .wrongMethod => Serve.answer 405 (detailDocument "Method Not Allowed")
  | .redirect target => return ⟨307, .page [], [("location", target)]⟩
  | .unknown => Serve.answer 404 (detailDocument "Not Found")

end Rulebook
