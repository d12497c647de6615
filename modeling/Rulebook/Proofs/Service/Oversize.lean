import Rulebook.Proofs.Service.Layers

/-!
# Bodies that are too large

A body that is too large is stopped by its declared length, or else by its own if its media type
is written as that of a document.  Documents are read under more media types than that, so a body
whose declared length does not give it away reaches the routes under any other spelling.
-/

namespace Rulebook

/-- Nothing tells the body check that the body is too large: neither a declared length nor a media
type written as that of a document. -/
structure Request.IsOverlooked (maxSize : Int) (request : Request) : Prop where
  declares : request.DeclaresAtMost maxSize
  elsewise : request.declaresDocument = false

/-- How the body check stops a request whose body is too large. -/
inductive Request.StoppedBy (maxSize : Int) (request : Request) : Serve Response → Prop
  /-- The declared length cannot be read. -/
  | unread {cause : Fault} (unread : request.declaredLength? = .error cause) :
      StoppedBy maxSize request (Serve.ofOutcome (.error cause))
  | declared {length : Nat} (read : request.declaredLength? = .ok (some length))
      (large : maxSize < length) :
      StoppedBy maxSize request (refuseTooLarge maxSize length request.location)
  /-- The declared length does not exceed the greatest size, but the body itself does. -/
  | actual (declares : request.DeclaresAtMost maxSize) :
      StoppedBy maxSize request (refuseTooLarge maxSize request.body.length request.location)

section Oversize

variable {maxSize : Int} {request : Request} (sends : request.sendsBody = true)

include sends

theorem Request.IsOverlooked.withBodyCheck (overlooked : request.IsOverlooked maxSize)
    (inner : Handler) : withBodyCheck maxSize inner request = inner request := by
  rw [withBodyCheck_of_declaresAtMost sends overlooked.declares, withBodyCheck.checkBody,
    overlooked.elsewise]
  rfl

theorem withBodyCheck_of_actualLarge (large : maxSize < request.body.length)
    (declares : request.DeclaresAtMost maxSize) (document : request.declaresDocument = true)
    (inner : Handler) :
    withBodyCheck maxSize inner request =
      refuseTooLarge maxSize request.body.length request.location := by
  rw [withBodyCheck_of_declaresAtMost sends declares, withBodyCheck.checkBody, document]
  exact if_pos large

/-- A body that is too large and not overlooked never gets past the body check. -/
theorem Request.exists_stoppedBy (large : maxSize < request.body.length)
    (seen : ¬request.IsOverlooked maxSize) :
    ∃ stop, request.StoppedBy maxSize stop ∧
      ∀ inner, Rulebook.withBodyCheck maxSize inner request = stop := by
  by_cases declares : request.DeclaresAtMost maxSize
  · cases document : request.declaresDocument with
    | true =>
        exact ⟨_, .actual declares, withBodyCheck_of_actualLarge sends large declares document⟩
    | false => exact absurd ⟨declares, document⟩ seen
  · cases read : request.declaredLength? with
    | error cause => exact ⟨_, .unread read, withBodyCheck_of_unread sends read⟩
    | ok declared =>
        obtain ⟨length, rfl, beyond⟩ := request.length_of_not_declaresAtMost declares read
        exact ⟨_, .declared read beyond, withBodyCheck_of_declaredLarge sends read beyond⟩

/-- A request whose body is too large is either overlooked by the body check or stopped by it.  An
overlooked request is handled as though there were no body check, whatever route it takes.  One
that is not is refused, or fails because its declared length cannot be read, without regard to any
handler behind the check. -/
theorem oversizedBody_overlooked_or_stopped (large : maxSize < request.body.length) :
    (request.IsOverlooked maxSize →
      (∀ inner, withBodyCheck maxSize inner request = inner request) ∧
        ∀ (service : Service) (occasion : Occasion), service.settings.maxPayloadSize = maxSize →
          service.application occasion request =
            occasion.layered (service.routes occasion.surroundings) request) ∧
    (¬request.IsOverlooked maxSize →
      ∃ stop, request.StoppedBy maxSize stop ∧
        (∀ inner, withBodyCheck maxSize inner request = stop) ∧
          ∀ (service : Service) (occasion : Occasion),
            service.settings.maxPayloadSize = maxSize →
              service.application occasion request =
                occasion.layered (fun _ => stop) request) := by
  constructor
  case left =>
    intro overlooked
    refine ⟨overlooked.withBodyCheck sends, ?_⟩
    intro service occasion limit
    have passed := overlooked.withBodyCheck sends (service.routes occasion.surroundings)
    rw [service.application_eq, limit]
    exact layered_congr passed occasion
  case right =>
    intro seen
    obtain ⟨stop, stopped, always⟩ := Request.exists_stoppedBy sends large seen
    refine ⟨stop, stopped, always, ?_⟩
    intro service occasion limit
    have held := always (service.routes occasion.surroundings)
    rw [service.application_eq, limit]
    exact layered_congr held occasion

end Oversize

/-- A service that takes bodies of three bytes at most. -/
def Service.cramped : Service := ⟨.default, { Settings.default with maxPayloadSize := 3 }⟩

/-- An occasion on which the settings of that service are read as they were at the start. -/
def Occasion.cramped : Occasion :=
  ⟨⟨.ok Service.cramped.settings, .measured 1073741824 1048576, none⟩, "second", []⟩

/-- A request that sends the null document as a condition, under the given media type. -/
def Request.oversized (mediaType : Text) : Request :=
  ⟨"POST", "/v1/rules/conditions/validate", [("content-type", mediaType)],
    [0x6E, 0x75, 0x6C, 0x6C]⟩

theorem oversizedBody_usual_stopped :
    ∃ stop, (Request.oversized "application/json").StoppedBy 3 stop ∧
      Service.cramped.application Occasion.cramped (Request.oversized "application/json") =
        Occasion.cramped.layered (fun _ => stop) (Request.oversized "application/json") := by
  have sends : (Request.oversized "application/json").sendsBody = true := rfl
  have large : (3 : Int) < (Request.oversized "application/json").body.length := by decide
  have seen : ¬(Request.oversized "application/json").IsOverlooked 3 := by
    intro overlooked
    cases overlooked.elsewise
  obtain ⟨stop, stopped, -, application⟩ :=
    (oversizedBody_overlooked_or_stopped sends large).2 seen
  exact ⟨stop, stopped, application Service.cramped Occasion.cramped rfl⟩

/-- Under a media type that is written with capitals, the body is validated all the same. -/
theorem oversizedBody_capitals_reaches_route :
    (Request.oversized "Application/JSON").sendsBody = true ∧
      Service.cramped.settings.maxPayloadSize <
        (Request.oversized "Application/JSON").body.length ∧
      ∃ response,
        (Service.cramped.handle Occasion.cramped (Metrics.fresh .default)
            (Request.oversized "Application/JSON")).outcome = .ok response ∧
          response.status = 200 ∧ response.body = .document Verdict.clean.response :=
  ⟨rfl, by decide, _, rfl, rfl, rfl⟩

end Rulebook
