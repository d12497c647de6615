import Rulebook.Proofs.Service.Accounts

/-!
# Measurements at the end of a session

What one request adds to the measurements of validations is told by its answer, and a restart adds
nothing.  So at the end of a session these measurements are the sums over its answers.
-/

namespace Rulebook

/-! ## Sessions -/

/-- The service can send the verdict that a request gets, if it gets one. -/
def Service.CanTell (service : Service) (occasion : Occasion) (request : Request) : Prop :=
  request.PassesBodyCheck service.settings.maxPayloadSize →
    ∀ verdict, request.Gets occasion.surroundings verdict → verdict.IsTellable

/-- What one request adds to the measurements is told by its answer. -/
theorem growsBy_handle {service : Service} {occasion : Occasion} {request : Request}
    (tellable : service.CanTell occasion request) (metrics : Metrics) :
    metrics.GrowsBy (request.answers (service.handle occasion metrics request).outcome)
      (service.handle occasion metrics request).metrics := by
  have checked : Serve.Accounts request (withBodyCheck service.settings.maxPayloadSize
      (service.routes occasion.surroundings) request) :=
    accounts_withBodyCheck fun passes => accounts_routes service (tellable passes)
  have layered := accounts_withCorrelation
    (accounts_withTraffic (accounts_withRecovery checked)) occasion.freshId
  exact layered ⟨metrics, occasion.inherited, [], []⟩

/-- The service can send every verdict of an episode. -/
def Service.CanTellOf (service : Service) : Episode → Prop
  | .request occasion request => service.CanTell occasion request
  | .lifetime => True

/-- The answers that come of an episode. -/
def Episode.answers : Episode → Aftermath → List Answer
  | .request _ sent, .exchange exchange => sent.answers exchange.outcome
  | _, _ => []

namespace Service

/-- The answers given in a session. -/
def answers (service : Service) (metrics : Metrics) (episodes : List Episode) : List Answer :=
  (episodes.zip (service.session metrics episodes)).flatMap fun (episode, aftermath) =>
    episode.answers aftermath

/-- The measurements at the end of a session. -/
def metricsAfter (service : Service) (metrics : Metrics) (episodes : List Episode) : Metrics :=
  ((service.session metrics episodes).map (·.metrics)).getLastD metrics

theorem answers_cons (service : Service) (metrics : Metrics) (episode : Episode)
    (rest : List Episode) :
    service.answers metrics (episode :: rest) =
      episode.answers (service.meet metrics episode) ++
        service.answers (service.meet metrics episode).metrics rest := rfl

theorem metricsAfter_cons (service : Service) (metrics : Metrics) (episode : Episode)
    (rest : List Episode) :
    service.metricsAfter metrics (episode :: rest) =
      service.metricsAfter (service.meet metrics episode).metrics rest := by
  rw [metricsAfter, session, List.map_cons, List.getLastD_cons]
  rfl

/-- A session goes on with the measurements that its beginning left. -/
theorem session_append (service : Service) (metrics : Metrics) (before after : List Episode) :
    service.session metrics (before ++ after) =
      service.session metrics before ++
        service.session (service.metricsAfter metrics before) after := by
  induction before generalizing metrics with
  | nil => rfl
  | cons episode rest induction =>
      rw [List.cons_append, session, session, induction, metricsAfter_cons]
      rfl

end Service

theorem growsBy_meet {service : Service} {episode : Episode}
    (tellable : service.CanTellOf episode) (metrics : Metrics) :
    metrics.GrowsBy (episode.answers (service.meet metrics episode))
      (service.meet metrics episode).metrics := by
  cases episode with
  | request occasion request => exact growsBy_handle tellable metrics
  | lifetime => exact Metrics.growsBy_nil metrics.agrees_stopped

/-- What a session adds to the measurements is told by its answers. -/
theorem growsBy_session {service : Service} {episodes : List Episode}
    (tellable : ∀ episode ∈ episodes, service.CanTellOf episode) (metrics : Metrics) :
    metrics.GrowsBy (service.answers metrics episodes)
      (service.metricsAfter metrics episodes) := by
  induction episodes generalizing metrics with
  | nil => exact Metrics.growsBy_nil (.refl metrics)
  | cons episode rest induction =>
      have first := growsBy_meet (tellable episode List.mem_cons_self) metrics
      have others := induction
        (fun other member => tellable other (List.mem_cons_of_mem episode member))
        (service.meet metrics episode).metrics
      rw [service.answers_cons, service.metricsAfter_cons]
      exact first.trans others

/-! ## Totals of recordings -/

/-- How many errors are told of a section. -/
def errorsOf (part : Text) (validations : List (ValidationKey × Nat)) : Nat :=
  ((validations.filter fun told => told.1.part = part).map Prod.snd).sum

namespace Recording

theorem countP_refusals (recordings : List Recording) :
    recordings.countP (·.concerns .refusals) = recordings.count .refusal := by
  refine List.countP_congr fun recording _ => ?_
  cases recording <;> simp [concerns]

theorem countP_validations (key : ValidationKey) (recordings : List Recording) :
    recordings.countP (·.concerns (.validations key)) =
      ((recordings.filterMap validation?).map Prod.fst).count key := by
  induction recordings with
  | nil => rfl
  | cons recording rest induction =>
      cases recording with
      | refusal => exact induction
      | validation own errors =>
          have first : (validation own errors).concerns (.validations key) = (own == key) := rfl
          have told : (validation own errors).validation? = some (own, errors.getD 0) := rfl
          rw [List.countP_cons, induction, first, List.filterMap_cons_some told, List.map_cons,
            List.count_cons]

theorem sum_amounts_errors (part : Text) (recordings : List Recording) :
    (recordings.flatMap (·.amounts (.errors part))).sum =
      errorsOf part (recordings.filterMap validation?) := by
  induction recordings with
  | nil => rfl
  | cons recording rest induction =>
      rw [List.flatMap_cons, List.sum_append_nat, induction]
      cases recording with
      | refusal => exact Nat.zero_add _
      | validation own errors =>
          by_cases same : own.part = part
          · cases errors with
            | none => simp [amounts, concerns, same, validation?, errorsOf]
            | some count =>
                by_cases none : count = 0 <;>
                  simp [amounts, concerns, same, none, validation?, errorsOf]
          · simp [amounts, concerns, same, validation?, errorsOf]

end Recording

namespace Metrics

theorem Agrees.counter {one other : Metrics} (agree : one.Agrees other) (series : Series) :
    one.counter series = other.counter series := by
  rw [Metrics.counter, Metrics.counter, agree.counter?]

theorem Agrees.isKeyed {one other : Metrics} (agree : one.Agrees other)
    (keyed : other.IsKeyed) : one.IsKeyed := by
  constructor
  · rw [agree.validations]
    exact keyed.validations
  · rw [agree.errors]
    exact keyed.errors

/-- The samples show what the counters of validations amount to. -/
structure ShowsTotals (metrics : Metrics) : Prop where
  /-- A series to which anything has been added has one sample. -/
  shown : ∀ series, 0 < (metrics.counter series).total →
    ∀ value, metrics.Shows series value ↔ value = (metrics.counter series).value
  /-- It shows the total, as long as that is in the range in which binary64 values are exact. -/
  exact : ∀ series value, metrics.Shows series value →
    (metrics.counter series).total ≤ Double.exactRange →
      value = whole (metrics.counter series).total
  /-- A number of events beyond that range is shown as the end of the range. -/
  events : ∀ series value, (∀ part, series ≠ .errors part) → metrics.Shows series value →
    value = whole (min (metrics.counter series).total Double.exactRange : Nat)

theorem showsTotals_of_agrees {metrics : Metrics} {info : ServiceInfo}
    {recordings : List Recording} (agrees : metrics.Agrees (recorded info recordings)) :
    metrics.ShowsTotals := by
  have keyed := agrees.isKeyed (isKeyed_recorded info recordings)
  constructor
  case shown =>
    intro series positive value
    have begun : (metrics.counter? series).isSome = true := by
      by_contra unbegun
      rw [Metrics.counter, Option.not_isSome_iff_eq_none.mp unbegun] at positive
      exact absurd positive (Nat.lt_irrefl 0)
    rw [shows_iff_counter keyed, begun, eq_self, true_and]
  case exact =>
    intro series value shown small
    rw [((shows_iff_counter keyed series value).mp shown).2]
    exact Counter.value_eq_whole small
  case events =>
    intro series value events shown
    rw [((shows_iff_counter keyed series value).mp shown).2, agrees.counter,
      total_recorded_of_events events, counter_recorded_of_events events, Counter.value_stepped]

end Metrics

/-- The measurements of validations are the sums over answers, and the samples show them. -/
structure Metrics.AccountedBy (metrics : Metrics) (answers : List Answer) : Prop where
  refusals : (metrics.counter .refusals).total = answers.countP (·.isRefusal)
  validations : ∀ key, (metrics.counter (.validations key)).total =
    ((answers.flatMap (·.validations)).map Prod.fst).count key
  sectionErrors : ∀ part, (metrics.counter (.errors part)).total =
    errorsOf part (answers.flatMap (·.validations))
  /-- The errors of all sections together are those that the answers list. -/
  errors : metrics.errorTotal = (answers.map (·.errorCount)).sum
  samples : metrics.ShowsTotals

/-- A request that sends no condition to be validated. -/
def Request.absentCondition : Request := ⟨"POST", "/v1/rules/conditions/validate", [], []⟩

/-- A request that sends a text as actions. -/
def Request.textualActions : Request := ⟨"POST", "/v1/rules/actions/validate", [], [0x78]⟩

/-- A request that sends a rule with a text as the actions on success. -/
def Request.textualRule : Request :=
  .posting "/v1/rules/validate" (Text.ofString "\x7b\"successActions\": \"later\"\x7d")

/-- A field path that is longer than the guard admits. -/
def overlongPath : Text := List.replicate (maxFieldLength + 1) (.ofChar 'a')

/-- A request that sends a condition on that path. -/
def Request.overlongCondition : Request :=
  .posting "/v1/rules/conditions/validate"
    (Text.ofString "\x7b\"field\": \"" ++ overlongPath ++ Text.ofString "\"\x7d")

/-- A session in which a valid condition is followed by a rule of which one section is invalid, by
a condition beyond the guard, by a restart, and by invalid actions. -/
def Episode.few : List Episode :=
  [.request Occasion.plain Request.absentCondition, .request Occasion.plain Request.textualRule,
    .request Occasion.plain Request.overlongCondition, .lifetime,
    .request Occasion.plain Request.textualActions]

theorem Service.canTell_absentCondition :
    Service.plain.CanTell Occasion.plain Request.absentCondition := by
  intro _ verdict gets
  cases gets with
  | rule route => exact absurd route (by decide)
  | actions route => exact absurd route (by decide)
  | condition route content found admits judged =>
      cases content
      cases judged
      exact ⟨_, rfl⟩

theorem Service.canTell_textualActions :
    Service.plain.CanTell Occasion.plain Request.textualActions := by
  intro _ verdict gets
  cases gets with
  | rule route => exact absurd route (by decide)
  | condition route => exact absurd route (by decide)
  | actions route content judged =>
      cases content
      have told : ∀ text, actionsVerdict none "actions" (.text text) =
          .ok (.ofErrors [Text.ofString "actions must be a list"] none) := fun _ => rfl
      rw [told] at judged
      cases judged
      exact ⟨_, rfl⟩

theorem Service.canTell_textualRule :
    Service.plain.CanTell Occasion.plain Request.textualRule := by
  intro _ verdict gets
  cases gets with
  | condition route => exact absurd route (by decide)
  | actions route => exact absurd route (by decide)
  | rule route content found admits calm judged =>
      have sent : (Content.ofRequest Request.textualRule).single? =
          some (Text.ofString "successActions", Text.ofString "later") := by decide +kernel
      rw [Content.eq_of_single? sent] at content
      cases content
      cases found
      have told : payloadVerdict none (.int Settings.default.maxDepth)
          (Payload.ofEntries (Value.ofMembers
            [(Text.ofString "successActions", .text (Text.ofString "later"))])).toValue =
          .ok (.ofErrors [Text.ofString "Success actions: successActions must be a list"] none) :=
        rfl
      rw [told] at judged
      cases judged
      exact ⟨_, rfl⟩

theorem Service.canTell_overlongCondition :
    Service.plain.CanTell Occasion.plain Request.overlongCondition := by
  intro _ verdict gets
  cases gets with
  | rule route => exact absurd route (by decide)
  | actions route => exact absurd route (by decide)
  | condition route content found admits judged =>
      have sent : (Content.ofRequest Request.overlongCondition).single? =
          some (Text.ofString "field", overlongPath) := by decide +kernel
      rw [Content.eq_of_single? sent] at content
      cases content
      cases found
      have overlong : isSafe (.ofJson (.object [(Text.ofString "field", .text overlongPath)])) =
          false := by decide +kernel
      exact absurd (admits rfl) (Bool.eq_false_iff.mp overlong)

end Rulebook
