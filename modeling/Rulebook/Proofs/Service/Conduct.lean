import Rulebook.Proofs.Service.Verdicts

/-!
# What lies behind the layers

The body check and the routes measure validations and write to the log, and that is all they do to
the world: requests are measured and log entries bound by the layers around them alone.  Their
events leave the names of the bound values free, and none of their answers has the status of a
fault.
-/

namespace Rulebook

/-! ## Changes of the world -/

/-- The measurements of requests stay as they are. -/
structure Metrics.KeepsTraffic (before after : Metrics) : Prop where
  active : after.active = before.active
  requests : after.requests = before.requests

namespace Metrics

theorem KeepsTraffic.refl (metrics : Metrics) : metrics.KeepsTraffic metrics := ⟨rfl, rfl⟩

theorem KeepsTraffic.trans {before between after : Metrics} (first : before.KeepsTraffic between)
    (second : between.KeepsTraffic after) : before.KeepsTraffic after :=
  ⟨second.active.trans first.active, second.requests.trans first.requests⟩

theorem keepsTraffic_recordCount (metrics : Metrics) (part : Text) (valid : Bool) (count : Nat) :
    metrics.KeepsTraffic (metrics.recordCount part valid count) := by
  simp only [recordCount]
  split
  · exact ⟨rfl, rfl⟩
  · exact ⟨rfl, rfl⟩

end Metrics

/-- The names of the values bound to the entries of a request. -/
def boundNames : List Text := ["correlation_id", "http_method", "http_path"]

/-- No field of the event has the name of a bound value. -/
def Event.LeavesBound (event : Event) : Prop :=
  ∀ name ∈ boundNames, Assoc.has name event.fields = false

/-- The names of its fields decide whether an event leaves the names of bound values free. -/
theorem Event.leavesBound_of (name : String) (level : Level) {fields : List (String × Json)}
    (names : List String) (named : fields.map (·.1) = names)
    (free : ∀ other ∈ names, Text.ofString other ∉ boundNames) :
    (Event.of name level fields).LeavesBound := by
  intro bound member
  apply Assoc.has_eq_false
  intro entry listed same
  obtain ⟨field, inside, rfl⟩ := List.mem_map.mp listed
  have own : Text.ofString field.1 = bound := same
  exact free field.1 (named ▸ List.mem_map_of_mem inside) (own ▸ member)

/-- Log entries are still bound to the same values, and events that leave the names of these free
have been added to the log. -/
structure World.StaysBound (before after : World) : Prop where
  context : after.context = before.context
  correlation : after.correlation = before.correlation
  log : ∃ events : List Event, (∀ event ∈ events, event.LeavesBound) ∧
    after.log = before.log ++ events.map (⟨·, before.context⟩)

/-- The request is handled further behind the layers that measure it and bind its log entries. -/
structure World.Continues (before after : World) : Prop extends before.StaysBound after where
  traffic : before.metrics.KeepsTraffic after.metrics

namespace World

theorem StaysBound.refl (world : World) : world.StaysBound world :=
  ⟨rfl, rfl, [], List.forall_mem_nil _, by simp⟩

theorem StaysBound.trans {before between after : World} (first : before.StaysBound between)
    (second : between.StaysBound after) : before.StaysBound after := by
  obtain ⟨events, free, logged⟩ := first.log
  obtain ⟨others, also, further⟩ := second.log
  refine ⟨second.context.trans first.context, second.correlation.trans first.correlation,
    events ++ others, List.forall_mem_append.mpr ⟨free, also⟩, ?_⟩
  rw [further, logged, first.context, List.map_append, List.append_assoc]

theorem staysBound_measured (change : Metrics → Metrics) (world : World) :
    world.StaysBound (world.measured change) :=
  ⟨rfl, rfl, [], List.forall_mem_nil _, by simp [measured]⟩

theorem staysBound_logged {event : Event} (free : event.LeavesBound) (world : World) :
    world.StaysBound (world.logged event) :=
  ⟨rfl, rfl, [event], List.forall_mem_singleton.mpr free, rfl⟩

theorem Continues.refl (world : World) : world.Continues world :=
  ⟨.refl world, .refl world.metrics⟩

theorem Continues.trans {before between after : World} (first : before.Continues between)
    (second : between.Continues after) : before.Continues after :=
  ⟨first.toStaysBound.trans second.toStaysBound, first.traffic.trans second.traffic⟩

theorem continues_logged {event : Event} (free : event.LeavesBound) (world : World) :
    world.Continues (world.logged event) :=
  ⟨staysBound_logged free world, .refl world.metrics⟩

end World

/-! ## Actions -/

/-- Wherever the action is begun, the world goes on from there, and any result is good. -/
structure Serve.Conducts {α : Type} (good : α → Prop) (action : Serve α) : Prop where
  continues : ∀ world : World, world.Continues (action.run.run world).2
  yields : ∀ world result, (action.run.run world).1 = .ok result → good result

section Actions

variable {α β : Type} {good : α → Prop}

theorem Serve.Conducts.bind {better : β → Prop} {action : Serve α} {next : α → Serve β}
    (first : Serve.Conducts good action)
    (rest : ∀ result, good result → Serve.Conducts better (next result)) :
    Serve.Conducts better (action >>= next) := by
  constructor
  case continues =>
    intro world
    have begun := first.continues world
    have yields := first.yields world
    rw [Serve.run_bind]
    generalize action.run.run world = ran at begun yields ⊢
    obtain ⟨outcome, between⟩ := ran
    cases outcome with
    | ok result => exact begun.trans ((rest result (yields result rfl)).continues between)
    | error cause => exact begun
  case yields =>
    intro world final
    have yields := first.yields world
    rw [Serve.run_bind]
    generalize action.run.run world = ran at yields ⊢
    obtain ⟨outcome, between⟩ := ran
    cases outcome with
    | ok result => exact (rest result (yields result rfl)).yields between final
    | error cause => exact nofun

theorem conducts_ofOutcome {outcome : Except Fault α}
    (held : ∀ result, outcome = .ok result → good result) :
    Serve.Conducts good (Serve.ofOutcome outcome) :=
  ⟨fun world => .refl world, fun _ => held⟩

theorem conducts_pure {result : α} (held : good result) : Serve.Conducts good (pure result) :=
  ⟨fun world => .refl world, fun _ _ same => Except.ok.inj same ▸ held⟩

theorem conducts_throw (cause : Fault) : Serve.Conducts good (throw cause : Serve α) :=
  ⟨fun world => .refl world, fun _ _ => nofun⟩

theorem conducts_report {event : Event} (free : event.LeavesBound) :
    Serve.Conducts (fun _ => True) (Serve.report event) :=
  ⟨World.continues_logged free, fun _ _ _ => trivial⟩

theorem conducts_measure {change : Metrics → Metrics}
    (kept : ∀ metrics : Metrics, metrics.KeepsTraffic (change metrics)) :
    Serve.Conducts (fun _ => True) (Serve.measure change) :=
  ⟨fun world => ⟨world.staysBound_measured change, kept world.metrics⟩, fun _ _ _ => trivial⟩

theorem conducts_reportAll {events : List Event} (free : ∀ event ∈ events, event.LeavesBound) :
    Serve.Conducts (fun _ => True) (Serve.reportAll events) := by
  induction events with
  | nil => exact conducts_pure trivial
  | cons event rest induction =>
      obtain ⟨first, others⟩ := List.forall_mem_cons.mp free
      exact (conducts_report first).bind fun _ _ => induction others

end Actions

/-- The response is not that of a request whose handling ended in a fault. -/
def Response.IsOrdinary (response : Response) : Prop := response.status ≠ 500

theorem conducts_answer {status : Nat} (ordinary : status ≠ 500) (content : Json) :
    Serve.Conducts Response.IsOrdinary (Serve.answer status content) := by
  apply conducts_ofOutcome
  intro response sent
  rw [Response.eq_of_ofDocument sent]
  exact ordinary

/-! ## The body check -/

theorem conducts_withBodyCheck {maxSize : Int} {inner : Handler} {request : Request}
    (conducts : Serve.Conducts Response.IsOrdinary (inner request)) :
    Serve.Conducts Response.IsOrdinary (withBodyCheck maxSize inner request) := by
  obtain passes | ⟨cause, unread⟩ | ⟨size, large⟩ | noDocument :=
    withBodyCheck_cases maxSize request
  · rw [passes inner]
    exact conducts
  · rw [unread inner]
    exact conducts_ofOutcome fun _ => nofun
  · rw [large inner]
    refine Serve.Conducts.bind (conducts_report ?_) fun _ _ => conducts_answer (by decide) _
    exact Event.leavesBound_of _ _ ["size", "max_size", "path"] rfl (by decide)
  · rw [noDocument inner]
    refine Serve.Conducts.bind (conducts_report ?_) fun _ _ => conducts_answer (by decide) _
    exact Event.leavesBound_of _ _ ["path"] rfl (by decide)

/-! ## Recovery -/

theorem continues_withRecovery {inner : Handler} {request : Request}
    (conducts : Serve.Conducts Response.IsOrdinary (inner request)) (world : World) :
    world.Continues ((withRecovery inner request).run.run world).2 := by
  have continues := conducts.continues world
  rw [run_withRecovery]
  generalize (inner request).run.run world = ran at continues ⊢
  obtain ⟨outcome, after⟩ := ran
  cases outcome with
  | ok response => exact continues
  | error cause =>
      have free : (unhandledEvent request.location cause).LeavesBound :=
        Event.leavesBound_of _ _ ["error", "error_type", "path"] rfl (by decide)
      exact continues.trans (World.continues_logged free after)

/-! ## Routes -/

theorem conditionEvents_leaveBound (limit expression : Value) :
    ∀ event ∈ conditionEvents limit expression, event.LeavesBound := by
  rw [conditionEvents]
  split
  · exact List.forall_mem_nil _
  · exact List.forall_mem_singleton.mpr
      (Event.leavesBound_of _ _ ["error", "error_type"] rfl (by decide))

theorem actionsEvents_leaveBound (field : Text) (actions : Value) :
    ∀ event ∈ actionsEvents field actions, event.LeavesBound := by
  cases actions with
  | list actions =>
      rw [actionsEvents]
      split
      · exact List.forall_mem_nil _
      · exact List.forall_mem_singleton.mpr
          (Event.leavesBound_of _ _ ["field", "error"] rfl (by decide))
  | _ => exact List.forall_mem_nil _

theorem Readiness.events_leaveBound (memory : Memory) (readiness : Readiness) :
    ∀ event ∈ readiness.events memory, event.LeavesBound := by
  unfold events
  rw [List.forall_mem_append]
  constructor
  · cases memory with
    | unreadable reason =>
        exact List.forall_mem_singleton.mpr (Event.leavesBound_of _ _ ["error"] rfl (by decide))
    | measured available used => exact List.forall_mem_nil _
  · split
    · exact List.forall_mem_nil _
    · exact List.forall_mem_singleton.mpr (Event.leavesBound_of _ _ ["failing"] rfl (by decide))

theorem conducts_serveCondition (limit expression : Value) :
    Serve.Conducts (fun _ => True) (serveCondition limit expression) :=
  (conducts_reportAll (conditionEvents_leaveBound limit expression)).bind fun _ _ =>
    conducts_ofOutcome fun _ _ => trivial

theorem conducts_serveActions (field : Text) (actions : Value) :
    Serve.Conducts (fun _ => True) (serveActions field actions) :=
  (conducts_reportAll (actionsEvents_leaveBound field actions)).bind fun _ _ =>
    conducts_ofOutcome fun _ _ => trivial

theorem conducts_serveSections (limit : Value) (payload : Payload) :
    Serve.Conducts (fun _ => True) (serveSections limit payload) :=
  (conducts_serveCondition limit payload.condition).bind fun _ _ =>
    (conducts_serveActions "successActions" payload.successActions).bind fun _ _ =>
      (conducts_serveActions "failureActions" payload.failureActions).bind fun _ _ =>
        conducts_pure trivial

theorem conducts_countVerdict (part : Text) (verdict : Verdict) :
    Serve.Conducts (fun _ => True) (countVerdict part verdict) :=
  conducts_measure fun metrics =>
    metrics.keepsTraffic_recordCount part verdict.valid verdict.errorList.length

theorem conducts_countVerdicts (verdicts : List (Section × Verdict)) :
    Serve.Conducts (fun _ => True)
      (verdicts.forM fun (part, verdict) => countVerdict part.symbol verdict) := by
  induction verdicts with
  | nil => exact conducts_pure trivial
  | cons entry rest induction =>
      exact (conducts_countVerdict entry.1.symbol entry.2).bind fun _ _ => induction

theorem conducts_read (surroundings : Surroundings) :
    Serve.Conducts (fun _ => True) surroundings.read := by
  rw [Surroundings.read]
  split
  · exact conducts_pure trivial
  · exact conducts_throw _

theorem conducts_withstand (surroundings : Surroundings) :
    Serve.Conducts (fun _ => True) surroundings.withstand := by
  rw [Surroundings.withstand]
  split
  · exact conducts_throw _
  · exact conducts_pure trivial

theorem conducts_refuseUnsafe (path message : Text) :
    Serve.Conducts Response.IsOrdinary (refuseUnsafe path message) := by
  refine Serve.Conducts.bind (conducts_measure fun _ => ⟨rfl, rfl⟩) fun _ _ => ?_
  refine Serve.Conducts.bind (conducts_report ?_) fun _ _ => conducts_answer (by decide) _
  exact Event.leavesBound_of _ _ ["path"] rfl (by decide)

theorem conducts_validateRule (surroundings : Surroundings) (path : Text) (payload : Payload) :
    Serve.Conducts Response.IsOrdinary (validateRule surroundings path payload) := by
  refine (conducts_read surroundings).bind fun settings _ => ?_
  split
  · exact conducts_refuseUnsafe path _
  · refine (conducts_withstand surroundings).bind fun _ _ => ?_
    refine (conducts_serveSections _ payload).bind fun verdicts _ => ?_
    refine (conducts_countVerdicts verdicts.toList).bind fun _ _ => ?_
    refine Serve.Conducts.bind (conducts_report ?_) fun _ _ => conducts_answer (by decide) _
    exact Event.leavesBound_of _ _ ["valid", "error_count"] rfl (by decide)

theorem conducts_validateCondition (surroundings : Surroundings) (path : Text)
    (expression : Value) :
    Serve.Conducts Response.IsOrdinary (validateCondition surroundings path expression) := by
  refine (conducts_read surroundings).bind fun settings _ => ?_
  split
  · exact conducts_refuseUnsafe path _
  · refine (conducts_serveCondition _ expression).bind fun verdict _ => ?_
    exact (conducts_countVerdict _ verdict).bind fun _ _ => conducts_answer (by decide) _

theorem conducts_validateActions (actions : Value) :
    Serve.Conducts Response.IsOrdinary (validateActions actions) :=
  (conducts_serveActions "actions" actions).bind fun verdict _ =>
    (conducts_countVerdict "actions" verdict).bind fun _ _ => conducts_answer (by decide) _

theorem conducts_withValue (content : Content) {route : Value → Serve Response}
    (conducts : ∀ value, Serve.Conducts Response.IsOrdinary (route value)) :
    Serve.Conducts Response.IsOrdinary (withValue content route) := by
  cases content with
  | absent => exact conducts .null
  | raw text => exact conducts (.text text)
  | document document => exact conducts (.ofJson document)
  | malformed => exact conducts_answer (by decide) _
  | unreadable => exact conducts_answer (by decide) _

theorem conducts_withPayload (content : Content) {route : Payload → Serve Response}
    (conducts : ∀ payload, Serve.Conducts Response.IsOrdinary (route payload)) :
    Serve.Conducts Response.IsOrdinary (withPayload content route) := by
  cases content with
  | absent => exact conducts_answer (by decide) _
  | raw text => exact conducts_answer (by decide) _
  | document document =>
      cases document with
      | object members => exact conducts _
      | _ => exact conducts_answer (by decide) _
  | malformed => exact conducts_answer (by decide) _
  | unreadable => exact conducts_answer (by decide) _

theorem conducts_serveRoute (service : Service) (surroundings : Surroundings)
    (request : Request) (route : Route) :
    Serve.Conducts Response.IsOrdinary (service.serveRoute surroundings request route) := by
  cases route with
  | rule => exact conducts_withPayload _ (conducts_validateRule surroundings request.location)
  | condition =>
      exact conducts_withValue _ (conducts_validateCondition surroundings request.location)
  | actions => exact conducts_withValue _ conducts_validateActions
  | vocabulary =>
      exact (conducts_read surroundings).bind fun _ _ => conducts_answer (by decide) _
  | liveness => exact conducts_answer (by decide) _
  | readiness =>
      refine (conducts_read surroundings).bind fun settings _ => ?_
      refine (conducts_reportAll (Readiness.events_leaveBound _ _)).bind fun _ _ => ?_
      apply conducts_answer
      split <;> decide
  | metrics =>
      refine ⟨fun world => .refl world, ?_⟩
      intro world response answered
      cases answered
      change 200 ≠ 500
      decide

theorem conducts_routes (service : Service) (surroundings : Surroundings) (request : Request) :
    Serve.Conducts Response.IsOrdinary (service.routes surroundings request) := by
  rw [Service.routes]
  split
  · exact conducts_serveRoute service surroundings request _
  · exact conducts_answer (by decide) _
  · apply conducts_pure
    change 307 ≠ 500
    decide
  · exact conducts_answer (by decide) _

/-- What lies behind recovery, whatever it is asked for. -/
theorem conducts_checkedRoutes (service : Service) (surroundings : Surroundings)
    (request : Request) :
    Serve.Conducts Response.IsOrdinary
      (withBodyCheck service.settings.maxPayloadSize (service.routes surroundings) request) :=
  conducts_withBodyCheck (conducts_routes service surroundings request)

/-! ## The application -/

/-- The world in which the layers behind correlation begin, whatever was found bound. -/
def Occasion.begun (occasion : Occasion) (metrics : Metrics) (request : Request) : World :=
  World.correlated (request.correlationId occasion.freshId) request ⟨metrics, [], [], []⟩

namespace Service

/-- The layers behind correlation. -/
def measured (service : Service) (occasion : Occasion) : Handler :=
  withTraffic (withRecovery
    (withBodyCheck service.settings.maxPayloadSize (service.routes occasion.surroundings)))

/-- What comes of a request behind correlation. -/
def measuredRun (service : Service) (occasion : Occasion) (metrics : Metrics) (request : Request) :
    Except Fault Response × World :=
  (service.measured occasion request).run.run (occasion.begun metrics request)

/-- Whatever is found bound, the same comes of a request, and it is answered with its correlation id
added. -/
theorem run_application (service : Service) (occasion : Occasion) (metrics : Metrics)
    (request : Request) (inherited : LogContext) (correlation : Text) :
    (service.application occasion request).run.run ⟨metrics, inherited, correlation, []⟩ =
      ((service.measuredRun occasion metrics request).1.map
          (·.withHeader correlationHeader (request.correlationId occasion.freshId)),
        (service.measuredRun occasion metrics request).2) := by
  have run := run_withCorrelation (service.measured occasion) request
    ⟨metrics, inherited, correlation, []⟩ occasion.freshId
  change (service.application occasion request).run.run _ =
    match service.measuredRun occasion metrics request with
    | (.ok response, after) => (.ok (response.withHeader correlationHeader _), after)
    | (.error cause, after) => (.error cause, after) at run
  rw [run]
  obtain ⟨outcome, after⟩ := service.measuredRun occasion metrics request
  cases outcome <;> rfl

theorem handle_eq (service : Service) (occasion : Occasion) (metrics : Metrics)
    (request : Request) :
    service.handle occasion metrics request =
      ⟨(service.measuredRun occasion metrics request).1.map
          (·.withHeader correlationHeader (request.correlationId occasion.freshId)),
        (service.measuredRun occasion metrics request).2.log,
        (service.measuredRun occasion metrics request).2.metrics⟩ := by
  rw [handle, Handler.run, run_application]

end Service

end Rulebook
