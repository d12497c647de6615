import Rulebook.Proofs.Condition.Guarded
import Rulebook.Proofs.Service.Answers

/-!
# The depth limit behind the guard

While the guard is enforced, rules and conditions are answered alike under every depth limit from
the ceiling of the guard on: what the guard admits is checked alike, and nothing else is checked.
-/

namespace Rulebook

/-! ## Depth limits -/

/-- The settings with another depth limit. -/
def Settings.withMaxDepth (settings : Settings) (limit : Int) : Settings :=
  { settings with maxDepth := limit }

/-- The surroundings in which settings are read with another depth limit. -/
def Surroundings.withMaxDepth (surroundings : Surroundings) (limit : Int) : Surroundings :=
  { surroundings with settings := surroundings.settings.map (·.withMaxDepth limit) }

/-- The occasion in which settings are read with another depth limit. -/
def Occasion.withMaxDepth (occasion : Occasion) (limit : Int) : Occasion :=
  { occasion with surroundings := occasion.surroundings.withMaxDepth limit }

/-- The service started with another depth limit. -/
def Service.withMaxDepth (service : Service) (limit : Int) : Service :=
  { service with settings := service.settings.withMaxDepth limit }

/-- The settings, if they can be read, enforce the guard. -/
def Surroundings.EnforcesGuard (surroundings : Surroundings) : Prop :=
  ∀ settings, surroundings.settings = .ok settings → settings.enforcesGuard = true

/-- What follows the reading of the settings may differ in the depth limit only. -/
theorem Surroundings.read_bind_congr {surroundings : Surroundings} {limit other : Int}
    {next otherNext : Settings → Serve Response}
    (same : ∀ settings, surroundings.settings = .ok settings →
      next (settings.withMaxDepth limit) = otherNext (settings.withMaxDepth other)) :
    ((surroundings.withMaxDepth limit).read >>= next) =
      ((surroundings.withMaxDepth other).read >>= otherNext) := by
  rw [read, read, withMaxDepth, withMaxDepth]
  cases found : surroundings.settings with
  | error mismatches => rfl
  | ok settings =>
      change (pure (settings.withMaxDepth limit) >>= next) =
        (pure (settings.withMaxDepth other) >>= otherNext)
      rw [pure_bind, pure_bind]
      exact same settings found

section Limits

variable {limit other : Int} (high : (maxSafeDepth : Int) ≤ limit)
  (otherHigh : (maxSafeDepth : Int) ≤ other)

include high otherHigh

theorem serveCondition_congr {expression : Value} (raw : expression.IsRaw)
    (safe : isSafe expression = true) :
    serveCondition (.int limit) expression = serveCondition (.int other) expression := by
  have same := checkCondition_of_isSafe raw safe high otherHigh
  have events : conditionEvents (.int limit) expression =
      conditionEvents (.int other) expression := by
    rw [conditionEvents, conditionEvents, same]
  have verdict : conditionVerdict none (.int limit) expression =
      conditionVerdict none (.int other) expression := by
    rw [conditionVerdict, conditionVerdict, same]
  rw [serveCondition, serveCondition, events, verdict]

variable {surroundings : Surroundings} (guarded : surroundings.EnforcesGuard) (path : Text)

include guarded

theorem validateCondition_congr {expression : Value} (raw : expression.IsRaw) :
    validateCondition (surroundings.withMaxDepth limit) path expression =
      validateCondition (surroundings.withMaxDepth other) path expression := by
  apply Surroundings.read_bind_congr
  intro settings found
  have enforced : settings.enforcesGuard = true := guarded settings found
  -- What is not safe is refused before the limit is looked at.
  cases safe : isSafe expression with
  | false => simp only [Settings.withMaxDepth, enforced]; rfl
  | true =>
      have served := serveCondition_congr high otherHigh raw safe
      simp only [Settings.withMaxDepth, enforced, served]

theorem validateRule_congr {payload : Payload} (raw : payload.condition.IsRaw) :
    validateRule (surroundings.withMaxDepth limit) path payload =
      validateRule (surroundings.withMaxDepth other) path payload := by
  apply Surroundings.read_bind_congr
  intro settings found
  have enforced : settings.enforcesGuard = true := guarded settings found
  cases safe : isSafe payload.condition with
  | false => simp only [Settings.withMaxDepth, enforced]; rfl
  | true =>
      have served := serveCondition_congr high otherHigh raw safe
      have sections : serveSections (.int limit) payload = serveSections (.int other) payload := by
        rw [serveSections, serveSections, served]
      simp only [Settings.withMaxDepth, enforced, sections]
      rfl

end Limits

/-! ## Contents -/

theorem withValue_congr {route other : Value → Serve Response}
    (same : ∀ value : Value, value.IsRaw → route value = other value) (content : Content) :
    withValue content route = withValue content other := by
  cases content with
  | absent => exact same .null rfl
  | raw text => exact same (.text text) rfl
  | document document => exact same (.ofJson document) (Value.isRaw_ofJson document)
  | malformed => rfl
  | unreadable => rfl

theorem isRaw_condition_ofEntries {entries : Entries} (raw : Value.IsRaw (.mapping entries)) :
    (Payload.ofEntries entries).condition.IsRaw := by
  change Value.IsRaw (((entries.either? "conditionExpression" "condition_expression").map
    (·.2)).getD .null)
  rw [Entries.either?]
  cases first : entries.get? "conditionExpression" with
  | some value => exact raw.of_get? first
  | none =>
      cases second : entries.get? "condition_expression" with
      | some value => exact raw.of_get? second
      | none => rfl

theorem withPayload_congr {route other : Payload → Serve Response}
    (same : ∀ payload : Payload, payload.condition.IsRaw → route payload = other payload)
    (content : Content) : withPayload content route = withPayload content other := by
  cases content with
  | document document =>
      cases document with
      | object members =>
          apply same
          have raw := (Value.isRaw_mapping_iff _).mpr (Value.isRaw_ofMembers members)
          exact isRaw_condition_ofEntries raw
      | _ => rfl
  | _ => rfl

/-! ## Routes -/

/-- A path with one route is that route's, under its method. -/
theorem resolve_of_withPath {path name verb : Text} {route : Route}
    (apart : Route.isMetrics (Route.regarded path) = false)
    (own : Route.withPath path = [(name, verb, route)]) (method : Text) :
    resolve method path = if verb = method then .route route else .wrongMethod := by
  rw [resolve, apart, own]
  by_cases same : verb = method
  · simp [same]
  · simp [same]

theorem resolve_rule (method : Text) :
    resolve method "/v1/rules/validate" =
      if Text.ofString "POST" = method then .route .rule else .wrongMethod :=
  resolve_of_withPath (by decide) rfl method

theorem resolve_condition (method : Text) :
    resolve method "/v1/rules/conditions/validate" =
      if Text.ofString "POST" = method then .route .condition else .wrongMethod :=
  resolve_of_withPath (by decide) rfl method

section Routes

variable {limit other : Int} (high : (maxSafeDepth : Int) ≤ limit)
  (otherHigh : (maxSafeDepth : Int) ≤ other) {surroundings : Surroundings}
  (guarded : surroundings.EnforcesGuard) {request : Request}
  (path : request.path = "/v1/rules/validate" ∨ request.path = "/v1/rules/conditions/validate")

include high otherHigh guarded path

theorem routes_congr (service : Service) :
    (service.withMaxDepth limit).routes (surroundings.withMaxDepth limit) request =
      (service.withMaxDepth other).routes (surroundings.withMaxDepth other) request := by
  rw [Service.routes, Service.routes]
  rcases path with rule | condition
  · rw [rule, resolve_rule]
    by_cases posted : Text.ofString "POST" = request.method
    · rw [if_pos posted]
      apply withPayload_congr
      intro payload raw
      exact validateRule_congr high otherHigh guarded request.location raw
    · rw [if_neg posted]
  · rw [condition, resolve_condition]
    by_cases posted : Text.ofString "POST" = request.method
    · rw [if_pos posted]
      apply withValue_congr
      intro expression raw
      exact validateCondition_congr high otherHigh guarded request.location raw
    · rw [if_neg posted]

end Routes

/-- While the guard is enforced, the room for levels beyond its ceiling is never used.  Every safe
expression has the same report under all limits from the ceiling on, and that report says at no
level that a limit is exceeded.  So rules and conditions are answered alike, and with the same log
and measurements, whatever such limit is set. -/
theorem depth_beyond_guard_unused {limit other : Int} (high : (maxSafeDepth : Int) ≤ limit)
    (otherHigh : (maxSafeDepth : Int) ≤ other) :
    (∀ expression : Value, expression.IsRaw → isSafe expression = true →
      ∃ report, checkCondition none (.int limit) (.int 0) expression = .ok report ∧
        checkCondition none (.int other) (.int 0) expression = .ok report ∧
        ∀ issue, Issue.Within issue report.issues → issue.code ≠ .depthExceeded) ∧
    ∀ (service : Service) (occasion : Occasion) (metrics : Metrics) (request : Request),
      occasion.surroundings.EnforcesGuard →
      request.path = "/v1/rules/validate" ∨ request.path = "/v1/rules/conditions/validate" →
      (service.withMaxDepth limit).handle (occasion.withMaxDepth limit) metrics request =
        (service.withMaxDepth other).handle (occasion.withMaxDepth other) metrics request := by
  refine ⟨?reports, ?answers⟩
  case reports =>
    intro expression raw safe
    have checked := checkCondition_eq_ok speaks_none limit 0 expression
    refine ⟨_, checked, ?_, ?_⟩
    · rw [← checkCondition_of_isSafe raw safe high otherHigh]
      exact checked
    · intro issue inside
      exact code_ne_depthExceeded_of_within (room_of_isSafe raw safe high) inside
  case answers =>
    intro service occasion metrics request guarded path
    have routes := routes_congr high otherHigh guarded path service
    have answered : (service.withMaxDepth limit).application (occasion.withMaxDepth limit) request =
        (service.withMaxDepth other).application (occasion.withMaxDepth other) request := by
      apply withCorrelation_congr
      apply withTraffic_congr
      apply withRecovery_congr
      exact withBodyCheck_congr routes service.settings.maxPayloadSize
    rw [Service.handle, Service.handle, Handler.run, Handler.run, answered]
    rfl

/-- Groups nested inside each other, with a comparison as many levels down. -/
def Json.ladder : Nat → Json
  | 0 => .record [("field", .string "total"), ("operator", .string "="), ("value", .int 1)]
  | levels + 1 => .record [("operator", .string "AND"), ("rules", .array [ladder levels])]

/-- A condition whose deepest node stands at the ceiling of the guard. -/
def Json.highest : Json := .ladder maxSafeDepth

/-- A request that sends this condition. -/
def Request.highestCondition : Request :=
  .posting "/v1/rules/conditions/validate" (Json.highest.write .compact)

/-- A request that sends a rule with this condition. -/
def Request.highestRule : Request :=
  .posting "/v1/rules/validate"
    ((Json.record [("conditionExpression", Json.highest)]).write .compact)

/-- The status of what came of a request, and whether it says that something is valid. -/
def Exchange.judgement? (exchange : Exchange) : Option (Nat × Option Bool) :=
  exchange.outcome.toOption.map fun response => (response.status, response.valid?)

/-- Under a limit of nine the condition is too deep.  Under ten and under a thousand it is valid,
and both routes answer so. -/
theorem depth_beyond_guard_unused_highest :
    isSafe (.ofJson Json.highest) = true ∧
    ((checkCondition none (.int 9) (.int 0) (.ofJson Json.highest)).map (·.valid)).toOption =
      some false ∧
    (∃ report, report.valid = true ∧
      checkCondition none (.int 10) (.int 0) (.ofJson Json.highest) = .ok report ∧
      checkCondition none (.int 1000) (.int 0) (.ofJson Json.highest) = .ok report) ∧
    ∀ request ∈ [Request.highestCondition, Request.highestRule],
      ((Service.plain.withMaxDepth 10).handle (Occasion.plain.withMaxDepth 10)
        (.fresh .default) request).judgement? = some (200, some true) ∧
      (Service.plain.withMaxDepth 10).handle (Occasion.plain.withMaxDepth 10)
          (.fresh .default) request =
        (Service.plain.withMaxDepth 1000).handle (Occasion.plain.withMaxDepth 1000)
          (.fresh .default) request := by
  have high : (maxSafeDepth : Int) ≤ 10 := by decide
  have otherHigh : (maxSafeDepth : Int) ≤ 1000 := by decide
  have raw : (Value.ofJson Json.highest).IsRaw := Value.isRaw_ofJson Json.highest
  have safe : isSafe (.ofJson Json.highest) = true := by decide +kernel
  have guarded : Occasion.plain.surroundings.EnforcesGuard := by
    intro settings found
    cases found
    rfl
  obtain ⟨reports, answers⟩ := depth_beyond_guard_unused high otherHigh
  refine ⟨safe, by decide +kernel, ?reports, ?answers⟩
  case reports =>
    obtain ⟨report, checked, again, -⟩ := reports (.ofJson Json.highest) raw safe
    have valid : ((checkCondition none (.int 10) (.int 0) (.ofJson Json.highest)).map
        (·.valid)).toOption = some true := by decide +kernel
    rw [checked] at valid
    exact ⟨report, Option.some.inj valid, checked, again⟩
  case answers =>
    rw [List.forall_mem_cons, List.forall_mem_singleton]
    refine ⟨⟨by decide +kernel, ?_⟩, by decide +kernel, ?_⟩
    · exact answers Service.plain Occasion.plain _ Request.highestCondition guarded (.inr rfl)
    · exact answers Service.plain Occasion.plain _ Request.highestRule guarded (.inl rfl)

end Rulebook
