import Rulebook.Proofs.Payload.Isolation
import Rulebook.Proofs.Recordings
import Rulebook.Proofs.Service.Layers

/-!
# How verdicts are answered

A route that validates logs what could not be checked, records the outcome of each section, and
only then tells the verdict.  What it does to the measurements is a list of recordings, which are
all made before anything can fail.
-/

namespace Rulebook

/-! ## Log entries -/

/-- The world with more entries in the log. -/
def World.loggedAll (events : List Event) (world : World) : World :=
  { world with log := world.log ++ events.map fun event => ⟨event, world.context⟩ }

theorem World.loggedAll_loggedAll (first second : List Event) (world : World) :
    (world.loggedAll first).loggedAll second = world.loggedAll (first ++ second) := by
  simp [loggedAll, List.append_assoc]

@[simp]
theorem run_reportAll (events : List Event) (world : World) :
    (Serve.reportAll events).run.run world = (.ok (), world.loggedAll events) := by
  induction events generalizing world with
  | nil => simp [Serve.reportAll, World.loggedAll]; rfl
  | cons event rest induction =>
      have unfolded : Serve.reportAll (event :: rest) =
          (Serve.report event >>= fun _ => Serve.reportAll rest) := List.forM_cons
      rw [unfolded, Serve.run_bind, Serve.run_report]
      dsimp only
      rw [induction]
      simp [World.loggedAll]

/-! ## Validation -/

theorem run_serveCondition (limit expression : Value) (world : World) :
    (serveCondition limit expression).run.run world =
      (conditionVerdict none limit expression,
        world.loggedAll (conditionEvents limit expression)) := by
  rw [serveCondition, Serve.run_bind, run_reportAll]
  dsimp only
  rw [Serve.run_ofOutcome]

theorem run_serveActions (field : Text) (actions : Value) (world : World) :
    (serveActions field actions).run.run world =
      (actionsVerdict none field actions, world.loggedAll (actionsEvents field actions)) := by
  rw [serveActions, Serve.run_bind, run_reportAll]
  dsimp only
  rw [Serve.run_ofOutcome]

/-- What the validation of a payload logs. -/
def Payload.events (limit : Value) (payload : Payload) : List Event :=
  conditionEvents limit payload.condition ++
    (actionsEvents "successActions" payload.successActions ++
      actionsEvents "failureActions" payload.failureActions)

theorem run_serveSections {limit : Value} {payload : Payload} {verdicts : SectionVerdicts}
    (judged : payload.sections none limit = .ok verdicts) (world : World) :
    (serveSections limit payload).run.run world =
      (.ok verdicts, world.loggedAll (payload.events limit)) := by
  have each := (Payload.sections_eq_ok_iff _ _ _ _).mp judged
  have condition : conditionVerdict none limit payload.condition = .ok verdicts.condition :=
    each .condition
  have success : actionsVerdict none "successActions" payload.successActions =
      .ok verdicts.successActions := each .successActions
  have failure : actionsVerdict none "failureActions" payload.failureActions =
      .ok verdicts.failureActions := each .failureActions
  rw [serveSections, Serve.run_bind, run_serveCondition, condition]
  dsimp only
  rw [Serve.run_bind, run_serveActions, success]
  dsimp only
  rw [Serve.run_bind, run_serveActions, failure, World.loggedAll_loggedAll,
    World.loggedAll_loggedAll]
  rfl

/-! ## Recording -/

/-- What is recorded of a verdict on a section. -/
def Verdict.recording (part : Text) (verdict : Verdict) : Recording :=
  .validation ⟨part, verdict.valid⟩ (some verdict.errorList.length)

/-- What is recorded of verdicts on all sections. -/
def SectionVerdicts.recordings (verdicts : SectionVerdicts) : List Recording :=
  Section.all.map fun part => (verdicts.get part).recording part.symbol

theorem run_countVerdict (part : Text) (verdict : Verdict) (world : World) :
    (countVerdict part verdict).run.run world =
      (.ok (), world.measured (·.record (verdict.recording part))) := rfl

theorem run_countVerdicts (verdicts : SectionVerdicts) (parts : List Section) (world : World) :
    ((parts.map fun part => (part, verdicts.get part)).forM fun (part, verdict) =>
        countVerdict part.symbol verdict).run.run world =
      (.ok (), world.measured
        (·.recordAll (parts.map fun part => (verdicts.get part).recording part.symbol))) := by
  induction parts generalizing world with
  | nil => rfl
  | cons part rest induction =>
      rw [List.map_cons, List.forM, Serve.run_bind, run_countVerdict]
      exact induction _

/-! ## Answers -/

/-- The response that tells a verdict. -/
def Verdict.told (status : Nat) (verdict : Verdict) : Response :=
  ⟨status, .document verdict.response, []⟩

/-- The verdict can be told: its texts have a byte form. -/
def Verdict.IsTellable (verdict : Verdict) : Prop :=
  ∃ response, Response.ofDocument 200 verdict.response = .ok response

theorem Response.eq_of_ofDocument {status : Nat} {content : Json} {response : Response}
    (sent : Response.ofDocument status content = .ok response) :
    response = ⟨status, .document content, []⟩ := by
  rw [ofDocument] at sent
  split at sent
  · cases sent
  · split at sent
    · cases sent
    · exact (Except.ok.inj sent).symm

theorem Verdict.IsTellable.answer {verdict : Verdict} (tellable : verdict.IsTellable) :
    Serve.answer 200 verdict.response = pure (verdict.told 200) := by
  obtain ⟨response, sent⟩ := tellable
  rw [Serve.answer, sent, Response.eq_of_ofDocument sent]
  rfl

theorem run_refuseUnsafe (path : Text) (world : World) {message : Text}
    (sent : Response.ofDocument 422 (Verdict.internal message).response =
      .ok ((Verdict.internal message).told 422)) :
    (refuseUnsafe path message).run.run world =
      (.ok ((Verdict.internal message).told 422),
        (world.measured (·.recordRefusal)).logged
          (.of "condition.rejected_unsafe" .warning [("path", .text path)])) := by
  rw [refuseUnsafe, Serve.run_bind, Serve.run_measure]
  dsimp only
  rw [Serve.run_bind, Serve.run_report]
  dsimp only
  rw [Serve.answer, sent, Serve.run_ofOutcome]
  rfl

theorem ofDocument_unsafeMessage :
    Response.ofDocument 422 (Verdict.internal unsafeMessage).response =
      .ok ((Verdict.internal unsafeMessage).told 422) := rfl

theorem ofDocument_unsafeRule :
    Response.ofDocument 422 (Verdict.internal
        (Section.condition.title ++ Text.ofString ": " ++ unsafeMessage)).response =
      .ok ((Verdict.internal
        (Section.condition.title ++ Text.ofString ": " ++ unsafeMessage)).told 422) := rfl

/-! ## Routes that validate -/

/-- The guard, if it is enforced, admits the expression. -/
def Settings.Admits (settings : Settings) (expression : Value) : Prop :=
  settings.enforcesGuard = true → isSafe expression = true

theorem Settings.Admits.not_refused {settings : Settings} {expression : Value}
    (admits : settings.Admits expression) :
    (settings.enforcesGuard && !isSafe expression) = false := by
  cases enforced : settings.enforcesGuard with
  | false => rfl
  | true => simp [admits enforced]

theorem Settings.refused_of_not_admits {settings : Settings} {expression : Value}
    (refused : ¬settings.Admits expression) :
    (settings.enforcesGuard && !isSafe expression) = true := by
  rw [Settings.Admits, Classical.not_imp, Bool.not_eq_true] at refused
  rw [refused.1, refused.2]
  rfl

theorem Surroundings.read_of_ok {surroundings : Surroundings} {settings : Settings}
    (found : surroundings.settings = .ok settings) : surroundings.read = pure settings := by
  rw [read, found]

/-- The event that says that a rule was validated. -/
def validatedEvent (verdict : Verdict) : Event :=
  .of "rule.validated" .info
    [("valid", .bool verdict.valid), ("error_count", .nat verdict.errorList.length)]

section Routes

variable {surroundings : Surroundings} {settings : Settings} (path : Text) (world : World)

theorem run_validateRule (found : surroundings.settings = .ok settings)
    (calm : surroundings.breakdown = none) {payload : Payload}
    (admits : settings.Admits payload.condition) {verdicts : SectionVerdicts}
    (judged : payload.sections none (.int settings.maxDepth) = .ok verdicts)
    (tellable : (Verdict.ofErrors verdicts.errors none).IsTellable) :
    (validateRule surroundings path payload).run.run world =
      (.ok ((Verdict.ofErrors verdicts.errors none).told 200),
        ((world.loggedAll (payload.events (.int settings.maxDepth))).measured
          (·.recordAll verdicts.recordings)).logged
            (validatedEvent (.ofErrors verdicts.errors none))) := by
  have calmly : surroundings.withstand = pure () := by rw [Surroundings.withstand, calm]
  have unrefused := admits.not_refused
  rw [validateRule, Surroundings.read_of_ok found, pure_bind, calmly, unrefused]
  simp only [Bool.false_eq_true, if_false, pure_bind]
  rw [Serve.run_bind, run_serveSections judged]
  dsimp only
  rw [Serve.run_bind, SectionVerdicts.toList, run_countVerdicts]
  dsimp only
  rw [Serve.run_bind, Serve.run_report, SectionVerdicts.aggregate_get, tellable.answer]
  rfl

theorem run_validateCondition (found : surroundings.settings = .ok settings)
    {expression : Value} (admits : settings.Admits expression) {verdict : Verdict}
    (judged : conditionVerdict none (.int settings.maxDepth) expression = .ok verdict)
    (tellable : verdict.IsTellable) :
    (validateCondition surroundings path expression).run.run world =
      (.ok (verdict.told 200),
        (world.loggedAll (conditionEvents (.int settings.maxDepth) expression)).measured
          (·.record (verdict.recording Section.condition.symbol))) := by
  have unrefused := admits.not_refused
  rw [validateCondition, Surroundings.read_of_ok found, pure_bind, unrefused]
  simp only [Bool.false_eq_true, if_false]
  rw [Serve.run_bind, run_serveCondition, judged]
  dsimp only
  rw [Serve.run_bind, run_countVerdict, tellable.answer]
  rfl

theorem run_validateActions {actions : Value} {verdict : Verdict}
    (judged : actionsVerdict none "actions" actions = .ok verdict)
    (tellable : verdict.IsTellable) :
    (validateActions actions).run.run world =
      (.ok (verdict.told 200),
        (world.loggedAll (actionsEvents "actions" actions)).measured
          (·.record (verdict.recording "actions"))) := by
  rw [validateActions, Serve.run_bind, run_serveActions, judged]
  dsimp only
  rw [Serve.run_bind, run_countVerdict, tellable.answer]
  rfl

end Routes

/-! ## Requests that get a verdict -/

/-- The value that a request's content hands to a route that takes any value. -/
def Content.value? : Content → Option Value
  | .absent => some .null
  | .raw text => some (.text text)
  | .document content => some (.ofJson content)
  | .malformed => none
  | .unreadable => none

theorem withValue_of_value? {content : Content} {value : Value}
    (given : content.value? = some value) (route : Value → Serve Response) :
    withValue content route = route value := by
  cases content <;> cases given <;> rfl

/-- The name and the text of a document that has no other member. -/
def Content.single? : Content → Option (Text × Text)
  | .document (.object [(name, .text given)]) => some (name, given)
  | _ => none

theorem Content.eq_of_single? {content : Content} {name given : Text}
    (single : content.single? = some (name, given)) :
    content = .document (.object [(name, .text given)]) := by
  unfold single? at single
  split at single
  · cases single
    rfl
  · cases single

/-- The request is one for a route that validates, and nothing keeps it from getting that
verdict. -/
inductive Request.Gets (surroundings : Surroundings) (request : Request) : Verdict → Prop
  | rule {members : List (Text × Json)} {settings : Settings} {verdict : Verdict}
      (route : resolve request.method request.path = .route .rule)
      (content : Content.ofRequest request = .document (.object members))
      (found : surroundings.settings = .ok settings)
      (admits : settings.Admits (Payload.ofEntries (Value.ofMembers members)).condition)
      (calm : surroundings.breakdown = none)
      (judged : payloadVerdict none (.int settings.maxDepth)
        (Payload.ofEntries (Value.ofMembers members)).toValue = .ok verdict) :
      Gets surroundings request verdict
  | condition {expression : Value} {settings : Settings} {verdict : Verdict}
      (route : resolve request.method request.path = .route .condition)
      (content : (Content.ofRequest request).value? = some expression)
      (found : surroundings.settings = .ok settings) (admits : settings.Admits expression)
      (judged : conditionVerdict none (.int settings.maxDepth) expression = .ok verdict) :
      Gets surroundings request verdict
  | actions {actions : Value} {verdict : Verdict}
      (route : resolve request.method request.path = .route .actions)
      (content : (Content.ofRequest request).value? = some actions)
      (judged : actionsVerdict none "actions" actions = .ok verdict) :
      Gets surroundings request verdict

theorem Service.routes_of_route (service : Service) (surroundings : Surroundings)
    {request : Request} {route : Route}
    (found : resolve request.method request.path = .route route) :
    service.routes surroundings request = service.serveRoute surroundings request route := by
  rw [routes, found]

theorem Request.Gets.run_routes {surroundings : Surroundings} {request : Request}
    {verdict : Verdict} (gets : request.Gets surroundings verdict) (tellable : verdict.IsTellable)
    (service : Service) (world : World) :
    ∃ after, (service.routes surroundings request).run.run world =
      (.ok (verdict.told 200), after) := by
  cases gets with
  | rule route content found admits calm judged =>
      obtain ⟨verdicts, sections, rfl⟩ := (payloadVerdict_eq_ok_iff _ _ _ _).mp judged
      rw [payloadSections_of_read rfl] at sections
      have run := run_validateRule request.location world found calm admits sections tellable
      rw [service.routes_of_route surroundings route, Service.serveRoute, content]
      exact ⟨_, run⟩
  | condition route content found admits judged =>
      have run := run_validateCondition request.location world found admits judged tellable
      rw [service.routes_of_route surroundings route, Service.serveRoute,
        withValue_of_value? content]
      exact ⟨_, run⟩
  | actions route content judged =>
      have run := run_validateActions world judged tellable
      rw [service.routes_of_route surroundings route, Service.serveRoute,
        withValue_of_value? content]
      exact ⟨_, run⟩

/-- A verdict that can be told is the answer to a request that gets it. -/
theorem Service.outcome_handle_of_gets {service : Service} {occasion : Occasion}
    {request : Request} {verdict : Verdict}
    (passes : request.PassesBodyCheck service.settings.maxPayloadSize)
    (gets : request.Gets occasion.surroundings verdict) (tellable : verdict.IsTellable)
    (metrics : Metrics) :
    (service.handle occasion metrics request).outcome =
      .ok ((verdict.told 200).withHeader correlationHeader
        (request.correlationId occasion.freshId)) := by
  have answers : ∀ world, ∃ after,
      (withBodyCheck service.settings.maxPayloadSize (service.routes occasion.surroundings)
        request).run.run world = (.ok (verdict.told 200), after) := by
    intro world
    rw [passes]
    exact gets.run_routes tellable service world
  exact outcome_layered answers occasion occasion.inherited metrics

end Rulebook
