import Mathlib.Logic.Relation
import Rulebook.Proofs.Service.Conduct
import Rulebook.Proofs.Service.Sessions

/-!
# Requests counted and requests underway

Measuring a request has a beginning and an end, and between the two the request is handled by what
lies inside.  Handling may be interrupted, so that requests overlap, but neither a beginning nor an
end is.  Whatever the order of beginnings and ends, the gauge of active requests tells how many
measured requests are underway, and each of them is counted once when it ends, under the status of
its answer or under 500 if it failed.
-/

namespace Rulebook

/-! ## Movements -/

/-- The gauge of active requests has risen by that much, and requests have been counted under these
keys. -/
structure Metrics.Moves (before : Metrics) (rise : Int) (keys : List RequestKey)
    (after : Metrics) : Prop where
  active : after.active = before.active + rise
  requests : ∀ key, Assoc.getD key .zero after.requests =
    (Assoc.getD key .zero before.requests).stepped (keys.count key)

namespace Metrics

theorem KeepsTraffic.moves {before after : Metrics} (kept : before.KeepsTraffic after) :
    before.Moves 0 [] after := by
  constructor
  · rw [kept.active, Int.add_zero]
  · intro key
    rw [kept.requests]
    rfl

theorem Moves.trans {before between after : Metrics} {first second : Int}
    {keys others : List RequestKey} (one : before.Moves first keys between)
    (two : between.Moves second others after) :
    before.Moves (first + second) (keys ++ others) after := by
  constructor
  · rw [two.active, one.active, Int.add_assoc]
  · intro key
    rw [two.requests, one.requests, Counter.stepped_stepped, List.count_append]

theorem moves_requestStarted (metrics : Metrics) : metrics.Moves 1 [] metrics.requestStarted :=
  ⟨rfl, fun _ => rfl⟩

theorem moves_requestEnded (method path : Text) (status : Option Nat) (metrics : Metrics) :
    metrics.Moves (-1) [⟨method, path, status.getD 500⟩]
      (metrics.requestEnded method path status) := by
  have active : (metrics.requestEnded method path status).active = metrics.active - 1 := by
    rw [requestEnded]
    split <;> rfl
  have requests : (metrics.requestEnded method path status).requests =
      countEvent ⟨method, path, status.getD 500⟩ metrics.requests := by
    rw [requestEnded]
    split <;> rfl
  refine ⟨active, ?_⟩
  intro key
  rw [requests, getD_countEvent, List.count_singleton]
  simp only [beq_iff_eq]

end Metrics

/-! ## Beginning and end -/

/-- The status of what came of a request; a fault counts as status 500. -/
def statusOf : Except Fault Response → Nat
  | .ok response => response.status
  | .error _ => 500

namespace Request

/-- How much the request adds to the gauge of active requests while it is underway. -/
def weight (request : Request) : Int := if request.isUnmeasured then 0 else 1

/-- The key under which the request is counted when this has come of it, if it is measured. -/
def counted (request : Request) (outcome : Except Fault Response) : List RequestKey :=
  if request.isUnmeasured then [] else [⟨request.method, request.location, statusOf outcome⟩]

end Request

theorem moves_beginMeasuring (request : Request) (world : World) :
    world.metrics.Moves request.weight []
      ((beginMeasuring request).run.run world).2.metrics := by
  rw [beginMeasuring, Request.weight]
  split
  · exact (Metrics.KeepsTraffic.refl world.metrics).moves
  · exact world.metrics.moves_requestStarted

theorem moves_endMeasuring (request : Request) (outcome : Except Fault Response)
    (world : World) :
    world.metrics.Moves (-request.weight) (request.counted outcome)
      ((endMeasuring request outcome).run.run world).2.metrics := by
  unfold endMeasuring
  rw [Request.weight, Request.counted]
  split
  · exact (Metrics.KeepsTraffic.refl world.metrics).moves
  · cases outcome with
    | ok response => exact world.metrics.moves_requestEnded _ _ (some response.status)
    | error cause => exact world.metrics.moves_requestEnded _ _ none

/-- A request that nothing overlaps is counted under what is passed on of it, and the gauge is back
where it was. -/
theorem moves_withTraffic {inner : Handler} {request : Request}
    (kept : ∀ world : World,
      world.metrics.KeepsTraffic ((inner request).run.run world).2.metrics) (world : World) :
    world.metrics.Moves 0 (request.counted ((withTraffic inner request).run.run world).1)
      ((withTraffic inner request).run.run world).2.metrics := by
  have begun := moves_beginMeasuring request world
  rw [run_withTraffic_eq]
  generalize ((beginMeasuring request).run.run world).2 = between at begun ⊢
  have handled := begun.trans (kept between).moves
  have ended := handled.trans (moves_endMeasuring request ((inner request).run.run between).1
    ((inner request).run.run between).2)
  rw [Int.add_zero, Int.add_right_neg, List.append_nil, List.nil_append] at ended
  dsimp only
  rw [endMeasuring_passes]
  exact ended

/-! ## Sessions -/

theorem moves_handle (service : Service) (occasion : Occasion) (metrics : Metrics)
    (request : Request) :
    metrics.Moves 0 (request.counted (service.handle occasion metrics request).outcome)
      (service.handle occasion metrics request).metrics := by
  have conducts := conducts_checkedRoutes service occasion.surroundings request
  have moves := moves_withTraffic
    (fun world => (continues_withRecovery conducts world).traffic)
    (occasion.begun metrics request)
  change metrics.Moves 0 (request.counted (service.measuredRun occasion metrics request).1)
    (service.measuredRun occasion metrics request).2.metrics at moves
  have same : request.counted (service.handle occasion metrics request).outcome =
      request.counted (service.measuredRun occasion metrics request).1 := by
    rw [service.handle_eq]
    cases (service.measuredRun occasion metrics request).1 <;> rfl
  rw [same, service.handle_eq]
  exact moves

/-- The keys under which requests are counted in an episode. -/
def Episode.counted : Episode → Aftermath → List RequestKey
  | .request _ sent, .exchange exchange => sent.counted exchange.outcome
  | _, _ => []

/-- The keys under which requests are counted in a session, in order. -/
def Service.counted (service : Service) (metrics : Metrics) (episodes : List Episode) :
    List RequestKey :=
  (episodes.zip (service.session metrics episodes)).flatMap fun (episode, aftermath) =>
    episode.counted aftermath

theorem Service.counted_cons (service : Service) (metrics : Metrics) (episode : Episode)
    (rest : List Episode) :
    service.counted metrics (episode :: rest) =
      episode.counted (service.meet metrics episode) ++
        service.counted (service.meet metrics episode).metrics rest := rfl

theorem moves_session (service : Service) (metrics : Metrics) (episodes : List Episode) :
    metrics.Moves 0 (service.counted metrics episodes)
      (service.metricsAfter metrics episodes) := by
  induction episodes generalizing metrics with
  | nil => exact (Metrics.KeepsTraffic.refl metrics).moves
  | cons episode rest induction =>
      have first : metrics.Moves 0 (episode.counted (service.meet metrics episode))
          (service.meet metrics episode).metrics := by
        cases episode with
        | request occasion request => exact moves_handle service occasion metrics request
        | lifetime =>
            have kept : metrics.KeepsTraffic metrics.stopped := ⟨rfl, rfl⟩
            exact kept.moves
      rw [service.counted_cons, service.metricsAfter_cons]
      exact first.trans (induction _)

/-! ## Overlapping requests -/

/-- How many of the requests are measured. -/
def measuredCount (requests : List Request) : Nat := requests.countP (!·.isUnmeasured)

theorem measuredCount_cons (request : Request) (rest : List Request) :
    (measuredCount (request :: rest) : Int) = measuredCount rest + request.weight := by
  rw [measuredCount, measuredCount, List.countP_cons, Request.weight]
  cases request.isUnmeasured <;> simp

theorem measuredCount_append_cons (before after : List Request) (request : Request) :
    (measuredCount (before ++ request :: after) : Int) =
      measuredCount (before ++ after) + request.weight := by
  rw [← measuredCount_cons]
  exact congrArg _ (List.perm_middle.countP_eq _)

/-- A request that has ended: what came of it inside, and what was passed on. -/
structure Ending where
  request : Request
  outcome : Except Fault Response
  passed : Except Fault Response

/-- Requests at the layer that measures them. -/
structure Overlap where
  metrics : Metrics
  /-- Requests that have begun and not ended. -/
  underway : List Request
  /-- Requests that have ended, in the order of their ends. -/
  ended : List Ending

namespace Overlap

/-- No request has begun. -/
def idle (metrics : Metrics) : Overlap := ⟨metrics, [], []⟩

/-- What can happen next: any request begins, any of those underway ends with any outcome, or
something inside changes the measurements of other things than requests. -/
inductive Step (state : Overlap) : Overlap → Prop
  | begins (request : Request) (world : World) (found : world.metrics = state.metrics) :
      Step state
        ⟨((beginMeasuring request).run.run world).2.metrics, request :: state.underway,
          state.ended⟩
  | works (metrics : Metrics) (kept : state.metrics.KeepsTraffic metrics) :
      Step state ⟨metrics, state.underway, state.ended⟩
  | ends (before after : List Request) (request : Request)
      (underway : state.underway = before ++ request :: after)
      (outcome : Except Fault Response) (world : World)
      (found : world.metrics = state.metrics) :
      Step state
        ⟨((endMeasuring request outcome).run.run world).2.metrics, before ++ after,
          state.ended ++
            [⟨request, outcome, ((endMeasuring request outcome).run.run world).1⟩]⟩

/-- The keys under which the requests that have ended are counted, in the order of their ends. -/
def counted (state : Overlap) : List RequestKey :=
  state.ended.flatMap fun ending => ending.request.counted ending.outcome

/-- Since the start the gauge has risen by the measured requests that are underway, those that have
ended have been counted, and what came of them was passed on. -/
structure IsExact (start : Metrics) (state : Overlap) : Prop where
  moves : start.Moves (measuredCount state.underway) state.counted state.metrics
  passed : ∀ ending ∈ state.ended, ending.passed = ending.outcome

theorem isExact_idle (start : Metrics) : IsExact start (idle start) :=
  ⟨(Metrics.KeepsTraffic.refl start).moves, List.forall_mem_nil _⟩

theorem IsExact.step {start : Metrics} {state next : Overlap} (exact : IsExact start state)
    (step : Step state next) : IsExact start next := by
  cases step with
  | begins request world found =>
      have moves := moves_beginMeasuring request world
      rw [found] at moves
      refine ⟨?_, exact.passed⟩
      have together := exact.moves.trans moves
      rw [← measuredCount_cons, List.append_nil] at together
      exact together
  | works metrics kept =>
      refine ⟨?_, exact.passed⟩
      have together := exact.moves.trans kept.moves
      rw [Int.add_zero, List.append_nil] at together
      exact together
  | ends before after request underway outcome world found =>
      have moves := moves_endMeasuring request outcome world
      rw [found] at moves
      have together := exact.moves.trans moves
      -- Wherever the request stands among those underway, its weight leaves the gauge with it.
      rw [underway, measuredCount_append_cons, Int.add_neg_cancel_right] at together
      constructor
      case moves =>
        rw [counted, List.flatMap_append, List.flatMap_singleton]
        exact together
      case passed =>
        rw [List.forall_mem_append, List.forall_mem_singleton]
        exact ⟨exact.passed, endMeasuring_passes request outcome world⟩

theorem isExact_of_steps {start : Metrics} {state : Overlap}
    (ran : Relation.ReflTransGen Step (idle start) state) : IsExact start state := by
  induction ran with
  | refl => exact isExact_idle start
  | tail _ step exact => exact exact.step step

end Overlap

/-- Whatever requests a session is made of, no request is active after an answer, and the answered
request is counted once, in the series of its method, its path and the status it was answered with,
if it is measured at all.  Where requests overlap in any order, the gauge tells how many measured
requests are underway, each request that has ended is counted once, and what came of it, be it a
response or a fault, is passed on. -/
theorem requests_counted_once (service : Service) (info : ServiceInfo) :
    (∀ (before after : List Episode) (occasion : Occasion) (request : Request), ∃ exchange,
      service.session (.fresh info) (before ++ .request occasion request :: after) =
        service.session (.fresh info) before ++
          .exchange exchange :: service.session exchange.metrics after ∧
      exchange.metrics.active = 0 ∧
      ∀ key, Assoc.getD key .zero exchange.metrics.requests =
        (Assoc.getD key .zero (service.metricsAfter (.fresh info) before).requests).stepped
          ((request.counted exchange.outcome).count key)) ∧
    (∀ (inner : Handler) (request : Request),
      withTraffic inner request = (do
        beginMeasuring request
        let outcome ← Serve.attempt (inner request)
        endMeasuring request outcome)) ∧
    ∀ (start : Metrics) (state : Overlap), start.active = 0 →
      Relation.ReflTransGen Overlap.Step (.idle start) state →
        state.metrics.active = measuredCount state.underway ∧
        (∀ key, Assoc.getD key .zero state.metrics.requests =
          (Assoc.getD key .zero start.requests).stepped (state.counted.count key)) ∧
        ∀ ending ∈ state.ended, ending.passed = ending.outcome := by
  refine ⟨?_, withTraffic_eq, ?_⟩
  · intro before after occasion request
    have found := moves_session service (.fresh info) before
    have moves := moves_handle service occasion (service.metricsAfter (.fresh info) before) request
    refine ⟨service.handle occasion (service.metricsAfter (.fresh info) before) request, ?_, ?_,
      moves.requests⟩
    · rw [service.session_append]
      rfl
    · rw [moves.active, found.active]
      rfl
  · intro start state idle ran
    have exact := Overlap.isExact_of_steps ran
    refine ⟨?_, exact.moves.requests, exact.passed⟩
    rw [exact.moves.active, idle, Int.zero_add]

/-- Of two requests that overlap the first has failed, and the second is still underway. -/
theorem requests_counted_once_overlapping :
    ∃ state, Relation.ReflTransGen Overlap.Step (.idle (.fresh .default)) state ∧
      state.underway = [Request.textualActions] ∧ state.metrics.active = 1 ∧
      (Assoc.getD ⟨"POST", Request.absentCondition.location, 500⟩ .zero
        state.metrics.requests).total = 1 := by
  have ran : Relation.ReflTransGen Overlap.Step (.idle (.fresh .default)) _ :=
    ((Relation.ReflTransGen.refl.tail
      (.begins Request.absentCondition ⟨.fresh .default, [], [], []⟩ rfl)).tail
      (.begins Request.textualActions ⟨_, [], [], []⟩ rfl)).tail
      (.ends [Request.textualActions] [] Request.absentCondition rfl (.error .objectExpected)
        ⟨_, [], [], []⟩ rfl)
  obtain ⟨active, requests, -⟩ :=
    (requests_counted_once Service.plain .default).2.2 (.fresh .default) _ rfl ran
  refine ⟨_, ran, rfl, ?_, ?_⟩
  · rw [active]
    rfl
  · rw [requests]
    rfl

end Rulebook
