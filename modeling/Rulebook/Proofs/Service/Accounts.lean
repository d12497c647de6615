import Rulebook.Proofs.Service.Answers

/-!
# Measurements of validations accounted for by answers

Whatever a request is and whatever the service finds around it, the measurements of validations
grow by what its answer tells.  A validation is recorded only where nothing but the sending of its
verdict can still fail, and no other layer or route touches these measurements.
-/

namespace Rulebook

/-! ## Growth -/

/-- The measurements of validations have grown by recordings of these answers. -/
def Metrics.GrowsBy (before : Metrics) (answers : List Answer) (after : Metrics) : Prop :=
  ∃ recordings, Covers answers recordings ∧ after.Agrees (before.recordAll recordings)

theorem Metrics.growsBy_nil {before after : Metrics} (agree : after.Agrees before) :
    before.GrowsBy [] after := ⟨[], .nil, agree⟩

theorem Metrics.GrowsBy.trans {before between after : Metrics} {first second : List Answer}
    (one : before.GrowsBy first between) (two : between.GrowsBy second after) :
    before.GrowsBy (first ++ second) after := by
  obtain ⟨left, leftCovers, leftAgrees⟩ := one
  obtain ⟨right, rightCovers, rightAgrees⟩ := two
  refine ⟨left ++ right, leftCovers.append rightCovers, ?_⟩
  rw [Metrics.recordAll_append]
  exact rightAgrees.trans (leftAgrees.recordAll right)

theorem Metrics.GrowsBy.of_agrees {before start finish after : Metrics} {answers : List Answer}
    (grows : start.GrowsBy answers finish) (startAgrees : start.Agrees before)
    (finishAgrees : after.Agrees finish) : before.GrowsBy answers after := by
  obtain ⟨recordings, covers, agrees⟩ := grows
  exact ⟨recordings, covers,
    (finishAgrees.trans agrees).trans (startAgrees.recordAll recordings)⟩

/-- The answer to a request, if there is one. -/
def Request.answers (request : Request) : Except Fault Response → List Answer
  | .ok response => [⟨request, response⟩]
  | .error _ => []

/-- Whatever the action answers to the request, it makes the measurements grow by that. -/
def Serve.Accounts (request : Request) (action : Serve Response) : Prop :=
  ∀ world : World, world.metrics.GrowsBy (request.answers (action.run.run world).1)
    (action.run.run world).2.metrics

/-! ## Actions that answer for no validation -/

section Actions

variable {request : Request}

theorem accounts_ofOutcome_error (cause : Fault) :
    Serve.Accounts request (Serve.ofOutcome (.error cause)) :=
  fun world => Metrics.growsBy_nil (.refl world.metrics)

/-- An answer that tells of no validation is accounted for by measuring nothing. -/
theorem accounts_answer {status : Nat} {content : Json}
    (covers : Covers [⟨request, ⟨status, .document content, []⟩⟩] []) :
    Serve.Accounts request (Serve.answer status content) := by
  intro world
  rw [Serve.answer, Serve.run_ofOutcome]
  cases sent : Response.ofDocument status content with
  | error cause => exact Metrics.growsBy_nil (.refl world.metrics)
  | ok response =>
      rw [Response.eq_of_ofDocument sent]
      exact ⟨[], covers, .refl world.metrics⟩

theorem accounts_answer_of_status (request : Request) {status : Nat} (other : status ∉ [200, 422])
    (content : Json) : Serve.Accounts request (Serve.answer status content) :=
  accounts_answer (Covers.nil.of_status other request (.document content) [])

/-- What is logged before does not count. -/
theorem Serve.Accounts.after_reportAll {action : Serve Response}
    (accounts : Serve.Accounts request action) (events : List Event) :
    Serve.Accounts request (Serve.reportAll events >>= fun _ => action) := by
  intro world
  rw [Serve.run_bind, run_reportAll]
  exact accounts (world.loggedAll events)

theorem Serve.Accounts.after_report {action : Serve Response}
    (accounts : Serve.Accounts request action) (event : Event) :
    Serve.Accounts request (Serve.report event >>= fun _ => action) := by
  intro world
  rw [Serve.run_bind, Serve.run_report]
  exact accounts (world.logged event)

end Actions

/-! ## Layers -/

section Layers

variable {inner : Handler} {request : Request}
  (accounts : Serve.Accounts request (inner request))

include accounts

theorem accounts_withRecovery : Serve.Accounts request (withRecovery inner request) := by
  intro world
  have grows := accounts world
  rw [run_withRecovery]
  generalize (inner request).run.run world = ran at grows ⊢
  obtain ⟨outcome, after⟩ := ran
  cases outcome with
  | ok response => exact grows
  | error cause =>
      obtain ⟨recordings, none, agrees⟩ := grows
      dsimp only
      cases sent : Response.ofDocument 500 (faultDocument after.correlation request.location) with
      | error other => exact ⟨recordings, none, agrees⟩
      | ok response =>
          rw [Response.eq_of_ofDocument sent]
          exact ⟨recordings, none.of_status (by decide) _ _ _, agrees⟩

theorem accounts_withTraffic : Serve.Accounts request (withTraffic inner request) := by
  cases silent : request.isUnmeasured with
  | true =>
      rw [withTraffic_of_unmeasured _ _ silent]
      exact accounts
  | false =>
      intro world
      have grows := accounts (world.measured (·.requestStarted))
      have started := world.metrics.agrees_requestStarted
      rw [run_withTraffic _ _ _ silent]
      generalize (inner request).run.run _ = ran at grows ⊢
      obtain ⟨outcome, after⟩ := ran
      cases outcome with
      | ok response =>
          have ended := after.metrics.agrees_requestEnded request.method request.location
            (some response.status)
          exact grows.of_agrees started ended
      | error cause =>
          have ended := after.metrics.agrees_requestEnded request.method request.location none
          exact grows.of_agrees started ended

theorem accounts_withCorrelation (freshId : Text) :
    Serve.Accounts request (withCorrelation freshId inner request) := by
  intro world
  have grows := accounts (world.correlated (request.correlationId freshId) request)
  rw [run_withCorrelation]
  generalize (inner request).run.run _ = ran at grows ⊢
  obtain ⟨outcome, after⟩ := ran
  cases outcome with
  | ok response =>
      obtain ⟨recordings, covers, agrees⟩ := grows
      -- A header field is nothing that an answer tells of validations.
      exact ⟨recordings, ⟨covers.refusals, covers.validations, covers.errors⟩, agrees⟩
  | error cause => exact grows

end Layers

theorem accounts_withBodyCheck {maxSize : Int} {inner : Handler} {request : Request}
    (accounts : request.PassesBodyCheck maxSize → Serve.Accounts request (inner request)) :
    Serve.Accounts request (withBodyCheck maxSize inner request) := by
  obtain passes | ⟨cause, unread⟩ | ⟨size, large⟩ | noDocument :=
    withBodyCheck_cases maxSize request
  · rw [passes inner]
    exact accounts passes
  · rw [unread inner]
    exact accounts_ofOutcome_error cause
  · rw [large inner]
    have answered : Serve.Accounts request
        (Serve.answer 413 (tooLargeDocument maxSize size)) :=
      accounts_answer_of_status request (by decide) _
    exact answered.after_report _
  · rw [noDocument inner]
    have answered : Serve.Accounts request (Serve.answer 400 notDocumentDocument) :=
      accounts_answer_of_status request (by decide) _
    exact answered.after_report _

/-! ## Routes -/

section Routes

variable {surroundings : Surroundings} {request : Request}

/-- Without settings nothing is answered, and nothing is measured. -/
theorem accounts_of_unread {mismatches : List Mismatch}
    (unread : surroundings.settings = .error mismatches) (next : Settings → Serve Response) :
    Serve.Accounts request (surroundings.read >>= next) := by
  intro world
  have failed : (surroundings.read >>= next).run.run world =
      (.error (.settings mismatches), world) := by
    rw [Surroundings.read, unread]
    rfl
  rw [failed]
  exact Metrics.growsBy_nil (.refl world.metrics)

theorem accounts_refuseUnsafe (path : Text) {message : Text}
    (sent : Response.ofDocument 422 (Verdict.internal message).response =
      .ok ((Verdict.internal message).told 422)) :
    Serve.Accounts request (refuseUnsafe path message) := by
  intro world
  rw [run_refuseUnsafe path world sent]
  exact ⟨[.refusal], covers_refusal message, .refl _⟩

theorem accounts_validateRule (route : resolve request.method request.path = .route .rule)
    {payload : Payload}
    (tellable : ∀ settings verdict, surroundings.settings = .ok settings →
      settings.Admits payload.condition → surroundings.breakdown = none →
      payloadVerdict none (.int settings.maxDepth) payload.toValue = .ok verdict →
      verdict.IsTellable) :
    Serve.Accounts request (validateRule surroundings request.location payload) := by
  cases found : surroundings.settings with
  | error mismatches => exact accounts_of_unread found _
  | ok settings =>
      by_cases admits : settings.Admits payload.condition
      · cases calm : surroundings.breakdown with
        | some cause =>
            intro world
            have failed : (validateRule surroundings request.location payload).run.run world =
                (.error cause, world) := by
              rw [validateRule, Surroundings.read_of_ok found, pure_bind, admits.not_refused,
                Surroundings.withstand, calm]
              rfl
            rw [failed]
            exact Metrics.growsBy_nil (.refl world.metrics)
        | none =>
            intro world
            obtain ⟨verdict, judged⟩ : ∃ verdict,
                payloadVerdict none (.int settings.maxDepth) payload.toValue = .ok verdict :=
              payloadVerdict_of_speaks speaks_none
            have sent := tellable settings verdict found admits calm judged
            obtain ⟨verdicts, sections, rfl⟩ := (payloadVerdict_eq_ok_iff _ _ _ _).mp judged
            have grounded := isGrounded_of_payloadSections sections
            rw [payloadSections_of_read rfl] at sections
            rw [run_validateRule request.location world found calm admits sections sent]
            exact ⟨verdicts.recordings, covers_rule route grounded, .refl _⟩
      · rw [validateRule, Surroundings.read_of_ok found, pure_bind,
          if_pos (Settings.refused_of_not_admits admits)]
        exact accounts_refuseUnsafe request.location ofDocument_unsafeRule

theorem accounts_validateCondition
    (route : resolve request.method request.path = .route .condition) {expression : Value}
    (tellable : ∀ settings verdict, surroundings.settings = .ok settings →
      settings.Admits expression →
      conditionVerdict none (.int settings.maxDepth) expression = .ok verdict →
      verdict.IsTellable) :
    Serve.Accounts request (validateCondition surroundings request.location expression) := by
  cases found : surroundings.settings with
  | error mismatches => exact accounts_of_unread found _
  | ok settings =>
      by_cases admits : settings.Admits expression
      · intro world
        obtain ⟨verdict, judged, -⟩ := conditionVerdict_tells speaksOfFailures_none
          (.int settings.maxDepth) expression
        have sent := tellable settings verdict found admits judged
        rw [run_validateCondition request.location world found admits judged sent]
        exact ⟨[verdict.recording Section.condition.symbol], covers_condition route verdict,
          .refl _⟩
      · rw [validateCondition, Surroundings.read_of_ok found, pure_bind,
          if_pos (Settings.refused_of_not_admits admits)]
        exact accounts_refuseUnsafe request.location ofDocument_unsafeMessage

theorem accounts_validateActions (route : resolve request.method request.path = .route .actions)
    {actions : Value}
    (tellable : ∀ verdict, actionsVerdict none "actions" actions = .ok verdict →
      verdict.IsTellable) :
    Serve.Accounts request (validateActions actions) := by
  intro world
  cases judged : actionsVerdict none "actions" actions with
  | error cause =>
      rw [validateActions, Serve.run_bind, run_serveActions, judged]
      exact Metrics.growsBy_nil (.refl _)
  | ok verdict =>
      have sent := tellable verdict judged
      rw [run_validateActions world judged sent]
      exact ⟨[verdict.recording "actions"], covers_actions route verdict, .refl _⟩

theorem accounts_withValue {content : Content} {route : Value → Serve Response}
    (accounts : ∀ value, content.value? = some value → Serve.Accounts request (route value)) :
    Serve.Accounts request (withValue content route) := by
  cases content with
  | absent => exact accounts .null rfl
  | raw text => exact accounts (.text text) rfl
  | document document => exact accounts (.ofJson document) rfl
  | malformed => exact accounts_answer (Covers.nil.of_silent rfl rfl rfl)
  | unreadable => exact accounts_answer_of_status request (by decide) _

theorem accounts_withPayload {content : Content} {route : Payload → Serve Response}
    (accounts : ∀ members, content = .document (.object members) →
      Serve.Accounts request (route (Payload.ofEntries (Value.ofMembers members)))) :
    Serve.Accounts request (withPayload content route) := by
  have mismatch : ∀ kind message found, Serve.Accounts request
      (Serve.answer 422 (mismatchDocument kind message found)) := by
    intro kind message found
    exact accounts_answer (Covers.nil.of_silent rfl rfl rfl)
  cases content with
  | absent => exact mismatch _ _ _
  | raw text => exact mismatch _ _ _
  | document document =>
      cases document with
      | object members => exact accounts members rfl
      | _ => exact mismatch _ _ _
  | malformed => exact mismatch _ _ _
  | unreadable => exact accounts_answer_of_status request (by decide) _

/-- The route validates what it is sent. -/
def Route.validates : Route → Bool
  | .rule | .condition | .actions => true
  | .vocabulary | .liveness | .readiness | .metrics => false

theorem Answer.validations_of_idle {answer : Answer} {route : Route}
    (found : resolve answer.request.method answer.request.path = .route route)
    (idle : route.validates = false) : answer.validations = [] := by
  rw [validations, found]
  cases route with
  | rule | condition | actions => cases idle
  | vocabulary | liveness | readiness | metrics => exact ite_self _

/-- A route that validates nothing answers without errors, whether it answers well or not. -/
theorem accounts_answer_of_idle {route : Route}
    (found : resolve request.method request.path = .route route)
    (idle : route.validates = false) {status : Nat} (accepted : status ≠ 422) {content : Json}
    (noErrors : content.textsUnder "errors" = []) :
    Serve.Accounts request (Serve.answer status content) := by
  apply accounts_answer
  apply Covers.nil.of_silent
  · simp [Answer.isRefusal, accepted]
  · exact Answer.validations_of_idle found idle
  · have none : Response.errors ⟨status, .document content, []⟩ = [] := noErrors
    simp [Answer.errorCount, none]

/-- Every route accounts for what it answers, if it can send the verdicts that it gives. -/
theorem accounts_routes (service : Service)
    (tellable : ∀ verdict, request.Gets surroundings verdict → verdict.IsTellable) :
    Serve.Accounts request (service.routes surroundings request) := by
  cases found : resolve request.method request.path with
  | wrongMethod =>
      rw [Service.routes, found]
      exact accounts_answer_of_status request (by decide) _
  | unknown =>
      rw [Service.routes, found]
      exact accounts_answer_of_status request (by decide) _
  | redirect target =>
      rw [Service.routes, found]
      intro world
      exact ⟨[], Covers.nil.of_status (by decide) _ _ _, .refl world.metrics⟩
  | route route =>
      rw [service.routes_of_route surroundings found]
      cases route with
      | rule =>
          apply accounts_withPayload
          intro members content
          apply accounts_validateRule found
          intro settings verdict read admits calm judged
          exact tellable verdict (.rule found content read admits calm judged)
      | condition =>
          apply accounts_withValue
          intro expression content
          apply accounts_validateCondition found
          intro settings verdict read admits judged
          exact tellable verdict (.condition found content read admits judged)
      | actions =>
          apply accounts_withValue
          intro actions content
          apply accounts_validateActions found
          intro verdict judged
          exact tellable verdict (.actions found content judged)
      | vocabulary =>
          cases read : surroundings.settings with
          | error mismatches => exact accounts_of_unread read _
          | ok settings =>
              rw [Service.serveRoute, tellVocabulary, Surroundings.read_of_ok read, pure_bind]
              exact accounts_answer_of_idle found rfl (by decide) rfl
      | liveness => exact accounts_answer_of_idle found rfl (by decide) rfl
      | readiness =>
          cases read : surroundings.settings with
          | error mismatches => exact accounts_of_unread read _
          | ok settings =>
              rw [Service.serveRoute, Service.reportReadiness, Surroundings.read_of_ok read,
                pure_bind]
              apply Serve.Accounts.after_reportAll
              apply accounts_answer_of_idle found rfl
              · split <;> decide
              · rfl
      | metrics =>
          intro world
          have silent : Covers [⟨request, ⟨200, .page world.metrics.page, []⟩⟩] [] :=
            Covers.nil.of_silent rfl (Answer.validations_of_idle found rfl) rfl
          exact ⟨[], silent, .refl world.metrics⟩

end Routes

end Rulebook
