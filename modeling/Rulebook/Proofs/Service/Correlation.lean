import Rulebook.Proofs.Sendable
import Rulebook.Proofs.Service.Conduct
import Rulebook.Proofs.Service.Sessions

/-!
# Correlation ids of a session

The correlation id of a request is bound before anything else is done, in place of whatever an
earlier request has left.  From there on it travels by three ways: the answer returns it, the answer
to a fault tells it, and every log entry of the request is bound to it.  So no answer and no entry
depends on what is found bound, and each carries the id of its own request.
-/

namespace Rulebook

/-! ## Recovery and measurement -/

section Layers

variable {inner : Handler} {request : Request}

/-- An answer with status 500 is that to a fault, and it tells the correlation id in force. -/
theorem body_of_withRecovery
    (conducts : Serve.Conducts Response.IsOrdinary (inner request)) {world : World}
    {response : Response}
    (answered : ((withRecovery inner request).run.run world).1 = .ok response)
    (failed : response.status = 500) :
    response.body = .document (faultDocument world.correlation request.location) := by
  have continues := conducts.continues world
  have ordinary := conducts.yields world
  rw [run_withRecovery] at answered
  generalize (inner request).run.run world = ran at continues ordinary answered
  obtain ⟨outcome, after⟩ := ran
  cases outcome with
  | ok own =>
      cases answered
      exact absurd failed (ordinary response rfl)
  | error cause =>
      have sent : Response.ofDocument 500 (faultDocument after.correlation request.location) =
          .ok response := answered
      rw [Response.eq_of_ofDocument sent, continues.correlation]

theorem isSendable_faultDocument {correlation path : Text} (identified : correlation.HasByteForm)
    (located : path.HasByteForm) : (faultDocument correlation path).IsSendable := by
  apply Json.isSendable_record
  rw [List.forall_mem_cons, List.forall_mem_cons, List.forall_mem_cons, List.forall_mem_singleton]
  exact ⟨Json.isSendable_string _, Json.isSendable_string _, Json.isSendable_text identified,
    Json.isSendable_text located⟩

/-- Behind recovery every request is answered, if its correlation id and its path can be told. -/
theorem withRecovery_answers
    (conducts : Serve.Conducts Response.IsOrdinary (inner request)) {world : World}
    (identified : world.correlation.HasByteForm) (located : request.location.HasByteForm) :
    ∃ response, ((withRecovery inner request).run.run world).1 = .ok response := by
  have continues := conducts.continues world
  rw [run_withRecovery]
  generalize (inner request).run.run world = ran at continues ⊢
  obtain ⟨outcome, after⟩ := ran
  cases outcome with
  | ok response => exact ⟨response, rfl⟩
  | error cause =>
      have told := isSendable_faultDocument identified located
      rw [← continues.correlation] at told
      exact ⟨_, Response.ofDocument_of_isSendable told 500⟩

theorem stays_beginMeasuring (request : Request) (world : World) :
    world.StaysBound ((beginMeasuring request).run.run world).2 := by
  rw [beginMeasuring]
  split
  · exact .refl world
  · exact world.staysBound_measured (·.requestStarted)

theorem stays_endMeasuring (request : Request) (outcome : Except Fault Response)
    (world : World) : world.StaysBound ((endMeasuring request outcome).run.run world).2 := by
  unfold endMeasuring
  split
  · exact .refl world
  · cases outcome with
    | ok response =>
        have free : (answeredEvent response.status).LeavesBound :=
          Event.leavesBound_of _ _ ["http_status"] rfl (by decide)
        exact (world.staysBound_measured _).trans (World.staysBound_logged free _)
    | error cause =>
        have free : (failedEvent cause).LeavesBound :=
          Event.leavesBound_of _ _ ["error", "error_type"] rfl (by decide)
        exact (world.staysBound_measured _).trans (World.staysBound_logged free _)

/-- Measuring a request passes on what comes of it in a world of the same correlation id, and adds
to the log of the request. -/
theorem withTraffic_stays
    (stays : ∀ world : World, world.StaysBound ((inner request).run.run world).2) (world : World) :
    (∃ start : World, start.correlation = world.correlation ∧
      ((withTraffic inner request).run.run world).1 = ((inner request).run.run start).1) ∧
      world.StaysBound ((withTraffic inner request).run.run world).2 := by
  have begun := stays_beginMeasuring request world
  have through := begun.trans (stays _)
  rw [run_withTraffic_eq]
  exact ⟨⟨_, begun.correlation, endMeasuring_passes request _ _⟩,
    through.trans (stays_endMeasuring request _ _)⟩

end Layers

/-! ## Bound values -/

theorem Request.map_fst_logContext (id : Text) (request : Request) :
    (request.logContext id).map Prod.fst = boundNames := rfl

namespace Entry

/-- The entry is bound to the values of the request and to nothing else, and shows them. -/
structure IsBound (id : Text) (request : Request) (entry : Entry) : Prop where
  context : entry.context = request.logContext id
  correlation : entry.document.member? "correlation_id" = some (.text id)
  method : entry.document.member? "http_method" = some (.text request.method)
  path : entry.document.member? "http_path" = some (.text request.location)

theorem inherited_of_leavesBound {event : Event} (free : event.LeavesBound) (id : Text)
    (request : Request) : (mk event (request.logContext id)).inherited = request.logContext id := by
  rw [inherited, List.filter_eq_self]
  intro bound member
  have named : bound.1 ∈ boundNames :=
    request.map_fst_logContext id ▸ List.mem_map_of_mem member
  rw [free bound.1 named]
  rfl

/-- What an event says of itself hides none of the bound values. -/
theorem isBound_of_leavesBound {event : Event} (free : event.LeavesBound) (id : Text)
    (request : Request) : (mk event (request.logContext id)).IsBound id request := by
  have shown (name : Text) (member : name ∈ boundNames) {value : Json}
      (bound : Assoc.get? name (request.logContext id) = some value) :
      (mk event (request.logContext id)).document.member? name = some value := by
    have own : Assoc.get? name event.fields = none :=
      Option.not_isSome_iff_eq_none.mp (Bool.eq_false_iff.mp (free name member))
    rw [document, inherited_of_leavesBound free, Json.member?, List.append_assoc,
      Assoc.get?_append, own, Option.none_or, Assoc.get?_append, bound, Option.some_or]
  refine ⟨rfl, ?_, ?_, ?_⟩
  · exact shown _ (by decide) rfl
  · exact shown _ (by decide) rfl
  · exact shown _ (by decide) rfl

end Entry

/-! ## Exchanges -/

theorem Response.filter_withHeader (name value : Text) (response : Response) :
    (response.withHeader name value).headers.filter (·.1 = name) = [(name, value)] := by
  have none : (response.headers.filter (·.1 ≠ name)).filter (·.1 = name) = [] := by
    rw [List.filter_filter, List.filter_eq_nil_iff]
    simp
  rw [withHeader, List.filter_append, none]
  simp

theorem Request.correlationId_eq (freshId : Text) (request : Request) :
    request.correlationId freshId =
      if (request.header? correlationHeader).getD [] = [] then freshId
      else (request.header? correlationHeader).getD [] := by
  rw [correlationId]
  cases request.header? correlationHeader with
  | none => rfl
  | some given => cases given <;> rfl

/-- What comes of a request carries its correlation id wherever it tells one. -/
structure Exchange.Carries (id : Text) (request : Request) (exchange : Exchange) : Prop where
  /-- The answer returns the correlation id, once. -/
  returned : ∀ response, exchange.outcome = .ok response →
    response.headers.filter (·.1 = correlationHeader) = [(correlationHeader, id)]
  /-- An answer with status 500 tells the correlation id and the path of the request. -/
  told : ∀ response, exchange.outcome = .ok response → response.status = 500 →
    ∃ content, response.body = .document content ∧
      content.member? "correlation_id" = some (.text id) ∧
        content.member? "path" = some (.text request.location)
  bound : ∀ entry ∈ exchange.log, entry.IsBound id request
  /-- Only a correlation id or a path without a byte form can keep a request from its answer. -/
  answered : id.HasByteForm → request.location.HasByteForm →
    ∃ response, exchange.outcome = .ok response

theorem World.StaysBound.isBound {occasion : Occasion} {metrics : Metrics} {request : Request}
    {after : World} (stays : (occasion.begun metrics request).StaysBound after) :
    ∀ entry ∈ after.log, entry.IsBound (request.correlationId occasion.freshId) request := by
  obtain ⟨events, free, logged⟩ := stays.log
  intro entry member
  rw [logged] at member
  -- The log is empty when the request begins.
  obtain ⟨event, own, rfl⟩ := List.mem_map.mp member
  exact Entry.isBound_of_leavesBound (free event own) _ request

/-- Behind correlation a request is answered as recovery answers it in a world of the same
correlation id, and its log entries stay bound. -/
theorem Service.measuredRun_stays (service : Service) (occasion : Occasion) (metrics : Metrics)
    (request : Request) :
    (∃ start : World, start.correlation = request.correlationId occasion.freshId ∧
      (service.measuredRun occasion metrics request).1 =
        ((withRecovery (withBodyCheck service.settings.maxPayloadSize
          (service.routes occasion.surroundings)) request).run.run start).1) ∧
      (occasion.begun metrics request).StaysBound
        (service.measuredRun occasion metrics request).2 := by
  have conducts := conducts_checkedRoutes service occasion.surroundings request
  exact withTraffic_stays (fun world => (continues_withRecovery conducts world).toStaysBound)
    (occasion.begun metrics request)

/-- What comes of a request carries its correlation id, whatever the measurements are. -/
theorem handle_carries (service : Service) (occasion : Occasion) (metrics : Metrics)
    (request : Request) :
    (service.handle occasion metrics request).Carries
      (request.correlationId occasion.freshId) request := by
  have conducts := conducts_checkedRoutes service occasion.surroundings request
  obtain ⟨⟨start, identified, passed⟩, stays⟩ :=
    service.measuredRun_stays occasion metrics request
  rw [service.handle_eq]
  generalize service.measuredRun occasion metrics request = ran at passed stays ⊢
  obtain ⟨outcome, after⟩ := ran
  cases outcome with
  | ok own =>
      refine ⟨?_, ?_, stays.isBound, fun _ _ => ⟨_, rfl⟩⟩
      · intro response answered
        cases answered
        exact own.filter_withHeader correlationHeader _
      · intro response answered failed
        cases answered
        have body := body_of_withRecovery conducts passed.symm failed
        rw [identified] at body
        exact ⟨_, body, rfl, rfl⟩
  | error cause =>
      refine ⟨nofun, nofun, stays.isBound, ?_⟩
      intro sendable located
      -- A fault leaves recovery only if its answer cannot be sent.
      rw [← identified] at sendable
      obtain ⟨response, answered⟩ := withRecovery_answers conducts sendable located
      rw [← passed] at answered
      cases answered

/-- In a session every request is handled in its own name.  What comes of it carries the correlation
id that it brings along, or else the fresh one, and the same comes of it whatever values and
whatever correlation id an earlier request has left bound. -/
theorem session_carries_correlation (service : Service) (metrics : Metrics)
    (before after : List Episode) (occasion : Occasion) (request : Request) :
    let given := (request.header? correlationHeader).getD []
    let id := if given = [] then occasion.freshId else given
    ∃ exchange,
      service.session metrics (before ++ .request occasion request :: after) =
        service.session metrics before ++
          .exchange exchange :: service.session exchange.metrics after ∧
      exchange.Carries id request ∧
      ∀ inherited correlation,
        (service.application occasion request).run.run
            ⟨service.metricsAfter metrics before, inherited, correlation, []⟩ =
          (exchange.outcome, ⟨exchange.metrics, request.logContext id, id, exchange.log⟩) := by
  intro given id
  have own : request.correlationId occasion.freshId = id := request.correlationId_eq _
  refine ⟨service.handle occasion (service.metricsAfter metrics before) request, ?_, ?_, ?_⟩
  · rw [service.session_append]
    rfl
  · rw [← own]
    exact handle_carries service occasion (service.metricsAfter metrics before) request
  · intro inherited correlation
    have stays := (service.measuredRun_stays occasion (service.metricsAfter metrics before)
      request).2
    rw [service.run_application, service.handle_eq]
    generalize service.measuredRun _ _ _ = ran at stays ⊢
    obtain ⟨outcome, world⟩ := ran
    have correlated : world.correlation = id := stays.correlation.trans own
    have context : world.context = request.logContext id :=
      stays.context.trans (congrArg request.logContext own)
    rw [← context, ← correlated]

/-- A request for the vocabulary that brings a correlation id along. -/
def Request.named : Request :=
  ⟨"GET", "/v1/rules/vocabulary", [(correlationHeader, "mine")], []⟩

/-- An occasion on which the settings cannot be read. -/
def Occasion.unsettled : Occasion :=
  ⟨⟨.error [], .measured 1073741824 1048576, none⟩, "fifth", []⟩

/-- At the end of a session a request fails, and the answer tells the id that it brought along. -/
theorem session_failing_carries_correlation :
    ∃ exchange response,
      Service.plain.session (.fresh .default)
          (Episode.few ++ [.request Occasion.unsettled Request.named]) =
        Service.plain.session (.fresh .default) Episode.few ++ [.exchange exchange] ∧
      exchange.outcome = .ok response ∧ response.status = 500 ∧
      ∃ content, response.body = .document content ∧
        content.member? "correlation_id" = some (.text "mine") := by
  obtain ⟨exchange, session, carries, -⟩ := session_carries_correlation Service.plain
    (.fresh .default) Episode.few [] Occasion.unsettled Request.named
  obtain ⟨response, answered⟩ := carries.answered (Text.hasByteForm_ofString "mine")
    (Text.hasByteForm_ofString "/v1/rules/vocabulary")
  have failed : response.status = 500 := by
    rw [Service.session_append, List.append_cancel_left_eq] at session
    cases session
    cases answered
    rfl
  obtain ⟨content, body, correlation, -⟩ := carries.told response answered failed
  exact ⟨exchange, response, session, answered, failed, content, body, correlation⟩

end Rulebook
