import Mathlib.Tactic.SplitIfs
import Rulebook.Service.App

/-!
# What each layer does

A layer is told by what it makes of the outcome of its inner handler and of the world left behind.
The body check alone decides without asking the inner handler: it passes a request on or stops it,
whatever lies behind.
-/

namespace Rulebook

/-! ## Changes of the world -/

namespace World

/-- The world with other measurements. -/
def measured (change : Metrics → Metrics) (world : World) : World :=
  { world with metrics := change world.metrics }

/-- The world with one more entry in the log. -/
def logged (event : Event) (world : World) : World :=
  { world with log := world.log ++ [⟨event, world.context⟩] }

/-- The world in which a request of that correlation id is handled. -/
def correlated (correlationId : Text) (request : Request) (world : World) : World :=
  { world with correlation := correlationId, context := request.logContext correlationId }

end World

/-! ## Handlers that agree on a request -/

/-- The layers that lie around the body check, with any handler inside. -/
def Occasion.layered (occasion : Occasion) (inner : Handler) : Handler :=
  withCorrelation occasion.freshId (withTraffic (withRecovery inner))

theorem Service.application_eq (service : Service) (occasion : Occasion) :
    service.application occasion =
      occasion.layered
        (withBodyCheck service.settings.maxPayloadSize (service.routes occasion.surroundings)) :=
  rfl

section Agreement

variable {inner other : Handler} {request : Request} (same : inner request = other request)

include same

theorem withBodyCheck_congr (maxSize : Int) :
    withBodyCheck maxSize inner request = withBodyCheck maxSize other request := by
  have body : withBodyCheck.checkBody maxSize inner request =
      withBodyCheck.checkBody maxSize other request := by
    rw [withBodyCheck.checkBody, withBodyCheck.checkBody, same]
  rw [withBodyCheck, withBodyCheck, same, body]

theorem withRecovery_congr : withRecovery inner request = withRecovery other request := by
  rw [withRecovery, withRecovery, same]

theorem withTraffic_congr : withTraffic inner request = withTraffic other request := by
  rw [withTraffic, withTraffic, same]

theorem withCorrelation_congr (freshId : Text) :
    withCorrelation freshId inner request = withCorrelation freshId other request := by
  rw [withCorrelation, withCorrelation, same]

theorem layered_congr (occasion : Occasion) :
    occasion.layered inner request = occasion.layered other request := by
  apply withCorrelation_congr
  apply withTraffic_congr
  exact withRecovery_congr same

end Agreement

/-! ## Layers around a handler -/

section Around

variable (inner : Handler) (request : Request) (world : World)

theorem run_withRecovery :
    (withRecovery inner request).run.run world =
      match (inner request).run.run world with
      | (.ok response, after) => (.ok response, after)
      | (.error cause, after) =>
          (Response.ofDocument 500 (faultDocument after.correlation request.location),
            after.logged (unhandledEvent request.location cause)) := by
  rw [withRecovery, Serve.run_bind, Serve.run_attempt]
  obtain ⟨outcome, after⟩ := (inner request).run.run world
  cases outcome with
  | ok response => rfl
  | error cause => rfl

theorem withTraffic_of_unmeasured (unmeasured : request.isUnmeasured = true) :
    withTraffic inner request = inner request := by
  rw [withTraffic, if_pos unmeasured]

theorem run_withTraffic (measured : request.isUnmeasured = false) :
    (withTraffic inner request).run.run world =
      match (inner request).run.run (world.measured (·.requestStarted)) with
      | (.ok response, after) =>
          (.ok response,
            (after.measured (·.requestEnded request.method request.location
              (some response.status))).logged (answeredEvent response.status))
      | (.error cause, after) =>
          (.error cause,
            (after.measured (·.requestEnded request.method request.location none)).logged
              (failedEvent cause)) := by
  have counted : ¬request.isUnmeasured = true := by
    rw [measured]
    exact Bool.false_ne_true
  rw [withTraffic, if_neg counted, Serve.run_bind, Serve.run_measure]
  dsimp only
  rw [Serve.run_bind, Serve.run_attempt, World.measured]
  obtain ⟨outcome, after⟩ :=
    (inner request).run.run { world with metrics := world.metrics.requestStarted }
  cases outcome with
  | ok response => rfl
  | error cause => rfl

theorem run_withCorrelation (freshId : Text) :
    (withCorrelation freshId inner request).run.run world =
      match (inner request).run.run
          (world.correlated (request.correlationId freshId) request) with
      | (.ok response, after) =>
          (.ok (response.withHeader correlationHeader (request.correlationId freshId)), after)
      | (.error cause, after) => (.error cause, after) := by
  rw [withCorrelation, Serve.run_bind, Serve.run_bindContext]
  dsimp only
  rw [Serve.run_bind, World.correlated]
  obtain ⟨outcome, after⟩ := (inner request).run.run
    { world with
      correlation := request.correlationId freshId
      context := request.logContext (request.correlationId freshId) }
  cases outcome with
  | ok response => rfl
  | error cause => rfl

/-- An answer of the inner handler leaves the layers with nothing but its correlation id added. -/
theorem outcome_layered {inner : Handler} {request : Request} {response : Response}
    (answers : ∀ world, ∃ after, (inner request).run.run world = (.ok response, after))
    (occasion : Occasion) (inherited : LogContext) (metrics : Metrics) :
    (Handler.run (occasion.layered inner) inherited metrics request).outcome =
      .ok (response.withHeader correlationHeader (request.correlationId occasion.freshId)) := by
  have recovered : ∀ world, ∃ after,
      (withRecovery inner request).run.run world = (.ok response, after) := by
    intro world
    obtain ⟨after, answered⟩ := answers world
    exact ⟨after, by rw [run_withRecovery, answered]⟩
  have measured : ∀ world, ∃ after,
      (withTraffic (withRecovery inner) request).run.run world = (.ok response, after) := by
    intro world
    cases silent : request.isUnmeasured with
    | true =>
        rw [withTraffic_of_unmeasured _ _ silent]
        exact recovered world
    | false =>
        obtain ⟨after, answered⟩ := recovered (world.measured (·.requestStarted))
        exact ⟨_, by rw [run_withTraffic _ _ _ silent, answered]⟩
  obtain ⟨after, answered⟩ := measured
    (World.correlated (request.correlationId occasion.freshId) request ⟨metrics, inherited, [], []⟩)
  rw [Handler.run, Occasion.layered, run_withCorrelation, answered]

end Around

/-! ## Beginning and end of measuring -/

/-- Begins to measure a request. -/
def beginMeasuring (request : Request) : Serve Unit :=
  if request.isUnmeasured then pure () else Serve.measure (·.requestStarted)

/-- Ends measuring a request and passes on what came of it. -/
def endMeasuring (request : Request) (outcome : Except Fault Response) : Serve Response :=
  if request.isUnmeasured then Serve.ofOutcome outcome
  else
    match outcome with
    | .ok response => do
        Serve.measure (·.requestEnded request.method request.location (some response.status))
        Serve.report (answeredEvent response.status)
        return response
    | .error cause => do
        Serve.measure (·.requestEnded request.method request.location none)
        Serve.report (failedEvent cause)
        throw cause

/-- Measuring a request is a beginning, the handling inside, and an end. -/
theorem withTraffic_eq (inner : Handler) (request : Request) :
    withTraffic inner request = (do
      beginMeasuring request
      let outcome ← Serve.attempt (inner request)
      endMeasuring request outcome) := by
  cases silent : request.isUnmeasured with
  | true =>
      rw [withTraffic_of_unmeasured _ _ silent]
      simp only [beginMeasuring, endMeasuring, silent, if_true, pure_bind]
      apply ExceptT.ext
      apply StateT.ext
      intro world
      rw [Serve.run_bind, Serve.run_attempt]
      rfl
  | false =>
      simp only [withTraffic, beginMeasuring, endMeasuring, silent]
      rfl

theorem endMeasuring_passes (request : Request) (outcome : Except Fault Response)
    (world : World) : ((endMeasuring request outcome).run.run world).1 = outcome := by
  unfold endMeasuring
  split
  · rfl
  · cases outcome <;> rfl

/-- Measuring a request ends in the world that handling it leaves. -/
theorem run_withTraffic_eq (inner : Handler) (request : Request) (world : World) :
    (withTraffic inner request).run.run world =
      let begun := ((beginMeasuring request).run.run world).2
      let handled := (inner request).run.run begun
      (endMeasuring request handled.1).run.run handled.2 := by
  have begins : ((beginMeasuring request).run.run world).1 = .ok () := by
    rw [beginMeasuring]
    split <;> rfl
  rw [withTraffic_eq, Serve.run_bind]
  generalize (beginMeasuring request).run.run world = ran at begins ⊢
  obtain ⟨outcome, begun⟩ := ran
  cases begins
  dsimp only
  rw [Serve.run_bind, Serve.run_attempt]

/-! ## The body check -/

/-- The body check hands the request on, whatever lies behind. -/
def Request.PassesBodyCheck (maxSize : Int) (request : Request) : Prop :=
  ∀ inner : Handler, withBodyCheck maxSize inner request = inner request

namespace Request

/-- The declared length can be read and, if there is one, does not exceed the greatest size. -/
def DeclaresAtMost (maxSize : Int) (request : Request) : Prop :=
  ∃ declared, request.declaredLength? = .ok declared ∧
    ∀ length ∈ declared, (length : Int) ≤ maxSize

end Request

/-- A length that can be read and is not small enough is a declared one. -/
theorem Request.length_of_not_declaresAtMost {maxSize : Int} (request : Request)
    (refuted : ¬request.DeclaresAtMost maxSize) {declared : Option Nat}
    (read : request.declaredLength? = .ok declared) :
    ∃ length : Nat, declared = some length ∧ maxSize < length := by
  cases declared with
  | none => exact absurd ⟨none, read, nofun⟩ refuted
  | some length =>
      refine ⟨length, rfl, Int.not_le.mp ?_⟩
      intro within
      refine refuted ⟨some length, read, ?_⟩
      intro other given
      cases given
      exact within

section BodyCheck

variable {maxSize : Int} {request : Request}

theorem withBodyCheck_of_bodiless (bodiless : request.sendsBody = false) (inner : Handler) :
    withBodyCheck maxSize inner request = inner request := by
  rw [withBodyCheck, bodiless]
  rfl

variable (sends : request.sendsBody = true)

include sends

theorem withBodyCheck_of_sendsBody (inner : Handler) :
    withBodyCheck maxSize inner request = (do
      match ← Serve.ofOutcome request.declaredLength? with
      | some length =>
          if maxSize < length then refuseTooLarge maxSize length request.location
          else withBodyCheck.checkBody maxSize inner request
      | none => withBodyCheck.checkBody maxSize inner request) := by
  rw [withBodyCheck, sends]
  rfl

/-- A declared length that cannot be read is a fault before anything else is looked at. -/
theorem withBodyCheck_of_unread {cause : Fault} (unread : request.declaredLength? = .error cause)
    (inner : Handler) :
    withBodyCheck maxSize inner request = Serve.ofOutcome (.error cause) := by
  rw [withBodyCheck_of_sendsBody sends, unread]
  rfl

theorem withBodyCheck_of_declaredLarge {length : Nat}
    (read : request.declaredLength? = .ok (some length)) (large : maxSize < length)
    (inner : Handler) :
    withBodyCheck maxSize inner request = refuseTooLarge maxSize length request.location := by
  rw [withBodyCheck_of_sendsBody sends, read]
  exact if_pos large

theorem withBodyCheck_of_declaresAtMost (declares : request.DeclaresAtMost maxSize)
    (inner : Handler) :
    withBodyCheck maxSize inner request = withBodyCheck.checkBody maxSize inner request := by
  obtain ⟨declared, read, within⟩ := declares
  rw [withBodyCheck_of_sendsBody sends, read]
  cases declared with
  | none => rfl
  | some length => exact if_neg (Int.not_lt.mpr (within length rfl))

/-- A body that is small enough and a document of the strict dialect passes, whatever its media
type. -/
theorem passesBodyCheck_of_strict (declares : request.DeclaresAtMost maxSize)
    (small : (request.body.length : Int) ≤ maxSize)
    (strict : isStrictDocument request.body = true) : request.PassesBodyCheck maxSize := by
  intro inner
  rw [withBodyCheck_of_declaresAtMost sends declares, withBodyCheck.checkBody,
    if_neg (Int.not_lt.mpr small), strict, Bool.or_true]
  split <;> rfl

end BodyCheck

/-- A request whose declared length can be read passes, or is refused because it is too large or no
document. -/
theorem withBodyCheck_cases_of_read (maxSize : Int) {request : Request} {declared : Option Nat}
    (read : request.declaredLength? = .ok declared) :
    request.PassesBodyCheck maxSize ∨
      (∃ size, ∀ inner,
        withBodyCheck maxSize inner request = refuseTooLarge maxSize size request.location) ∨
      ∀ inner, withBodyCheck maxSize inner request = refuseNotDocument request.location := by
  cases sends : request.sendsBody with
  | false => exact .inl (withBodyCheck_of_bodiless sends)
  | true =>
      by_cases declares : request.DeclaresAtMost maxSize
      · simp only [Request.PassesBodyCheck, withBodyCheck_of_declaresAtMost sends declares,
          withBodyCheck.checkBody]
        split_ifs with elsewise large strict
        · exact .inl fun _ => rfl
        · exact .inr (.inl ⟨_, fun _ => rfl⟩)
        · exact .inl fun _ => rfl
        · exact .inr (.inr fun _ => rfl)
      · obtain ⟨length, rfl, beyond⟩ := request.length_of_not_declaresAtMost declares read
        exact .inr (.inl ⟨length, withBodyCheck_of_declaredLarge sends read beyond⟩)

/-- What the body check makes of a request: it passes, its declared length cannot be read, or it is
refused because it is too large or no document. -/
theorem withBodyCheck_cases (maxSize : Int) (request : Request) :
    request.PassesBodyCheck maxSize ∨
      (∃ cause, ∀ inner,
        withBodyCheck maxSize inner request = Serve.ofOutcome (.error cause)) ∨
      (∃ size, ∀ inner,
        withBodyCheck maxSize inner request = refuseTooLarge maxSize size request.location) ∨
      ∀ inner, withBodyCheck maxSize inner request = refuseNotDocument request.location := by
  cases read : request.declaredLength? with
  | ok declared =>
      obtain passes | refused := withBodyCheck_cases_of_read maxSize read
      · exact .inl passes
      · exact .inr (.inr refused)
  | error cause =>
      cases sends : request.sendsBody with
      | false => exact .inl (withBodyCheck_of_bodiless sends)
      | true => exact .inr (.inl ⟨cause, withBodyCheck_of_unread sends read⟩)

/-! ## An ordinary service -/

/-- A service with all settings at their defaults. -/
def Service.plain : Service := ⟨.default, .default⟩

/-- An occasion on which nothing is out of the ordinary. -/
def Occasion.plain : Occasion := ⟨⟨.ok .default, .measured 1073741824 1048576, none⟩, "first", []⟩

/-- A request that posts a document. -/
def Request.posting (path document : Text) : Request :=
  ⟨"POST", path, [("content-type", "application/json")], document.utf8⟩

end Rulebook
