import Rulebook.Service.BodyCheck
import Rulebook.Service.Correlation
import Rulebook.Service.Recovery
import Rulebook.Service.Routes
import Rulebook.Service.Traffic

/-!
# The application

Every request passes, from the outside in, correlation, measurement, recovery and the body check
before it reaches a route.  Between requests only the measurements are kept; each request starts
with whatever values its task has inherited and an empty log.
-/

namespace Rulebook

/-- What one request finds around it. -/
structure Occasion where
  surroundings : Surroundings
  /-- The id given to a request that brings none along. -/
  freshId : Text
  /-- Values bound to log entries before the request begins. -/
  inherited : LogContext

/-- The application: the routes behind all layers. -/
def Service.application (service : Service) (occasion : Occasion) : Handler :=
  withCorrelation occasion.freshId
    (withTraffic
      (withRecovery
        (withBodyCheck service.settings.maxPayloadSize (service.routes occasion.surroundings))))

/-- What came of a request. -/
structure Exchange where
  /-- The answer, or the fault that left the layers. -/
  outcome : Except Fault Response
  log : List Entry
  metrics : Metrics

/-- Runs a handler on a request. -/
def Handler.run (handler : Handler) (inherited : LogContext) (metrics : Metrics)
    (request : Request) : Exchange :=
  let (outcome, world) := (handler request).run.run ⟨metrics, inherited, [], []⟩
  ⟨outcome, world.log, world.metrics⟩

/-- Handles a request. -/
def Service.handle (service : Service) (occasion : Occasion) (metrics : Metrics)
    (request : Request) : Exchange :=
  Handler.run (service.application occasion) occasion.inherited metrics request

/-! ## Starting and stopping -/

/-- What came of starting and stopping the service. -/
structure Lifetime where
  /-- The measurements while the service is up. -/
  up : Metrics
  log : List Entry
  metrics : Metrics

/-- Starts and stops the service. -/
def Service.live (service : Service) (metrics : Metrics) : Lifetime :=
  let starting : Event :=
    .of "service_starting" .info
      [("version", .text service.info.version), ("env", .text service.settings.environment)]
  let stopping : Event := .of "service_stopping" .info []
  { up := metrics
    log := [⟨starting, []⟩, ⟨stopping, []⟩]
    metrics := metrics.stopped }

/-! ## Sessions -/

/-- One thing that happens to the application. -/
inductive Episode where
  | request (occasion : Occasion) (request : Request)
  | lifetime

/-- What came of an episode. -/
inductive Aftermath where
  | exchange (exchange : Exchange)
  | lifetime (lifetime : Lifetime)

/-- The measurements after an episode. -/
def Aftermath.metrics : Aftermath → Metrics
  | .exchange result => result.metrics
  | .lifetime result => result.metrics

/-- What comes of one episode. -/
def Service.meet (service : Service) (metrics : Metrics) : Episode → Aftermath
  | .request occasion request => .exchange (service.handle occasion metrics request)
  | .lifetime => .lifetime (service.live metrics)

/-- What comes of episodes in order; each finds the measurements that the one before left. -/
def Service.session (service : Service) (metrics : Metrics) : List Episode → List Aftermath
  | [] => []
  | episode :: rest =>
      let aftermath := service.meet metrics episode
      aftermath :: service.session aftermath.metrics rest

end Rulebook
