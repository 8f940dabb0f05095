import NXCast.App.Coordinator

/-!
# The service threads of the coordinator

The functions of `protocol_coordinator.c` that start and stop the services: `protocol_coordinator_start` and
`_tick`, which one thread calls, `protocol_coordinator_stop`, which may be called by another, the
workers that `_start` launches, one for a service, and the resource worker, which `_tick`
launches.  A step is one section under the coordinator's mutex, a call of a service, the creation
of a thread or the end of a wait for one.

What the services answer, whether a thread can be created, what AirPlay says of itself and whether
a retry is due is left open.  The wishes for a resource mode, which come with the media ownership, may
change at any time.  `request_stop` only signals, so it is left out, and with it the record of the
start call that it is for.
-/

namespace NXCast

open Function ProtocolCoordinator

/-! ## Data -/

/-- `ProtocolAirPlayStatus` -/
structure ProtocolAirPlayStatus where
  running : Bool
  starting : Bool
  pinVisible : Bool
  pin : List UInt8
  status : List UInt8
deriving DecidableEq

/-- A status with every byte zero. -/
def ProtocolAirPlayStatus.zero : ProtocolAirPlayStatus := ⟨false, false, false, [], []⟩

/-- The arguments of `protocol_coordinator_start`; an operation that may be missing is there or
not. -/
structure ProtocolServicesStart where
  config : ProtocolCoordinatorConfig
  serialStartup : Bool
  stopAfterStartAttempt : ProtocolService → Bool
  hasSetDiscoverySuspended : Bool
  hasAirplayReleaseActiveMedia : Bool

/-- What another thread reads of `ProtocolServiceWorker`. -/
structure ProtocolServiceWorker where
  threadStarted : Bool
  startFinished : Bool
  startResult : Bool
deriving DecidableEq

/-- What another thread reads of `ProtocolResourceWorker`. -/
structure ProtocolResourceWorker where
  threadStarted : Bool
  finished : Bool
  result : Bool
  target : ProtocolResourceMode
deriving DecidableEq

/-- `ProtocolCoordinator` with the fields of the service threads.  The services from
`next_service_to_start` on are `servicesToStart`. -/
structure ServiceCoordinator extends ProtocolCoordinator where
  serialStartup : Bool
  backgroundNetworkSuspended : Bool
  servicesToStart : List ProtocolService
  stopRequired : ProtocolService → Bool
  stopAfterStartAttempt : ProtocolService → Bool
  workers : ProtocolService → ProtocolServiceWorker
  resourceWorker : ProtocolResourceWorker
  airplay : ProtocolAirPlayStatus

namespace ServiceCoordinator

variable (c : ServiceCoordinator)

/-- `protocol_coordinator_set_service_state` -/
def setServiceState (service : ProtocolService) (state : ProtocolServiceState) :
    ServiceCoordinator :=
  { c with
    toProtocolCoordinator :=
      (ProtocolCoordinator.setServiceState service state c.toProtocolCoordinator).2 }

/-- `coordinator_set_stop_required` -/
def setStopRequired (service : ProtocolService) (required : Bool) : ServiceCoordinator :=
  { c with stopRequired := update c.stopRequired service required }

/-- The lifecycle is neither stopping nor stopped. -/
def alive : Bool := c.lifecycle ≠ .stopping && c.lifecycle ≠ .stopped

/-- `coordinator_resource_transition_allowed` -/
def resourceTransitionAllowed : Bool := c.runtimeActive && c.alive

/-- `coordinator_service_worker_active` -/
def serviceWorkerActive : Bool :=
  protocolServices.any fun service => (c.workers service).threadStarted

/-- `coordinator_clear_airplay_runtime_status` -/
def clearAirplayRuntimeStatus : ServiceCoordinator :=
  if c.airplay.running || c.airplay.starting || c.airplay.pinVisible then
    { c with airplay := .zero, toProtocolCoordinator := bump c.toProtocolCoordinator }
  else c

/-- The section of `protocol_coordinator_tick` that writes the polled status. -/
def writeAirplayStatus (status : ProtocolAirPlayStatus) : ServiceCoordinator :=
  if c.airplay ≠ status then
    { c with airplay := status, toProtocolCoordinator := bump c.toProtocolCoordinator }
  else c

/-- The second section of `protocol_coordinator_start`. -/
def activate (start : ProtocolServicesStart) : ServiceCoordinator :=
  { c with
    toProtocolCoordinator :=
      activateRuntime start.config start.hasSetDiscoverySuspended
        start.hasAirplayReleaseActiveMedia c.toProtocolCoordinator
    stopAfterStartAttempt := start.stopAfterStartAttempt
    serialStartup := start.serialStartup
    servicesToStart := protocolServices }

/-- The section of `coordinator_launch_next_serial_worker`: the service whose worker comes next. -/
def nextSerialService : Option ProtocolService × ServiceCoordinator :=
  if !c.runtimeActive || !c.serialStartup || !c.alive || c.serviceWorkerActive then (none, c)
  else
    match c.servicesToStart.dropWhile fun service => c.services service = .disabled with
    | [] => (none, { c with servicesToStart := [] })
    | service :: rest => (some service, { c with servicesToStart := rest })

/-- The first section of `coordinator_launch_resource_worker`; `due` says that the time for a
retry has come. -/
def needsResourceWorker (due : Bool) : Bool :=
  c.runtimeActive && c.exclusiveMediaResources && !c.resourceWorker.threadStarted && c.alive &&
    !(c.desiredResourceMode = c.appliedResourceMode &&
      resourceServicesMatch c.desiredResourceMode c.toProtocolCoordinator) &&
    !(c.resourceTransitionFailed && !due)

/-- What `coordinator_launch_resource_worker` writes when it could not create the thread. -/
def failResourceWorker : ServiceCoordinator :=
  { c with
    toProtocolCoordinator :=
      bump { c.toProtocolCoordinator with
        resourceTransitionActive := false
        resourceTransitionFailed := true } }

/-- The last section of `protocol_coordinator_stop`. -/
def clearServices : ServiceCoordinator :=
  { c with
    toProtocolCoordinator := clearRuntime c.toProtocolCoordinator
    stopRequired := fun _ => false
    stopAfterStartAttempt := fun _ => false
    serialStartup := false
    resourceWorker := ⟨false, false, false, .home⟩
    servicesToStart := protocolServices }

end ServiceCoordinator

/-! ## Threads -/

/-- Where `coordinator_service_worker_run` stands. -/
inductive ServiceWorkerStage where
  | copying
  | calling (stopAfter : Bool)
  | starting (stopAfter : Bool)
  | flagging (started owed : Bool)
  | noting (started : Bool)
  | finishing (started : Bool)
deriving DecidableEq

/-- What `coordinator_resource_worker_run` copies when it begins, and whether all has gone well
so far. -/
structure ResourceJob where
  target : ProtocolResourceMode
  enabled : ProtocolService → Bool
  stopAfter : ProtocolService → Bool
  success : Bool

/-- A turn of one of the two loops of `coordinator_resource_worker_run`. -/
structure ResourceTurn where
  job : ResourceJob
  starts : Bool
  service : ProtocolService
  rest : List ProtocolService

/-- Where a turn stands: before it is clear what to do for the service, in
`coordinator_resource_stop_service`, or in `coordinator_resource_start_service`. -/
inductive ResourcePoint where
  | reading
  | permitting (state : ProtocolServiceState)
  | aiming (state : ProtocolServiceState)
  | stopReading
  | stopCalling (required : Bool)
  | stopClearing
  | stopNoting
  | stopHiding
  | startReading
  | startPermitting
  | startAnnouncing
  | startCalling
  | starting
  | flagging (started : Bool)
  | startNoting (started : Bool)
deriving DecidableEq

/-- Where `coordinator_resource_worker_run` stands. -/
inductive ResourceStage where
  | copying
  | suspending (job : ResourceJob)
  | turning (turn : ResourceTurn) (point : ResourcePoint)
  | closing (job : ResourceJob)
  | resuming (job : ResourceJob)
  | finishing (job : ResourceJob) (completed : Bool)

/-- What comes behind the launch of a service worker: the launch of others or the end in
`protocol_coordinator_start`, the resource worker in `protocol_coordinator_tick`. -/
inductive MainNext where
  | launch (rest : List ProtocolService)
  | resources
deriving DecidableEq

/-- Where `protocol_coordinator_start` or `protocol_coordinator_tick` stands. -/
inductive MainStage where
  | idle
  | activating (start : ProtocolServicesStart)
  | checkingSerial (next : MainNext)
  | creating (service : ProtocolService) (next : MainNext)
  | noting (service : ProtocolService) (next : MainNext)
  | failing (service : ProtocolService) (next : MainNext)
  | reaping
  | joining (services : List ProtocolService)
  | waiting (service : ProtocolService) (rest : List ProtocolService)
  | reapingResource
  | joiningResource
  | waitingResource
  | checkingResources
  | checkingWorkers (target : ProtocolResourceMode)
  | preparing (target : ProtocolResourceMode)
  | creatingResource
  | notingResource
  | failingResource
  | polling
  | asking
  | writing (status : ProtocolAirPlayStatus)
  | showing (status : ProtocolAirPlayStatus)

/-- Where `protocol_coordinator_stop` stands. -/
inductive StopStage where
  | idle
  | joiningResource
  | waitingResource
  | joining (services : List ProtocolService)
  | waiting (service : ProtocolService) (rest : List ProtocolService)
  | collecting
  | calling (services : List ProtocolService)
  | noting (rest : List ProtocolService)  (service : ProtocolService)
  | finishing
  | resuming
  | clearing
deriving DecidableEq

/-- What happens to the services: `start` is called and returns, with the answer whether the
attempt is to be stopped, `stop` is called, `protocol_coordinator_stop` returns. -/
inductive ServiceEvent where
  | starting (service : ProtocolService)
  | started (service : ProtocolService) (owed : Bool)
  | stopped (service : ProtocolService)
  | returned
deriving DecidableEq

/-- The coordinator and its threads; a thread that has ended is not there. -/
structure ServiceSystem where
  coordinator : ServiceCoordinator
  main : MainStage
  stopper : StopStage
  resource : Option ResourceStage
  workers : ProtocolService → Option ServiceWorkerStage
  history : List ServiceEvent

/-- A call that comes, a wish for a resource mode, or the next step of a thread, with what is
answered to it. -/
inductive ServiceLabel where
  | start (start : ProtocolServicesStart)
  | tick
  | stop
  | desire (mode : ProtocolResourceMode)
  | main (ok : Bool) (status : Option ProtocolAirPlayStatus)
  | stopper
  | resource (ok : Bool)
  | worker (service : ProtocolService) (ok : Bool)

/-! ## Steps -/

/-- The main thread behind the launch of a service worker. -/
def MainNext.stage : MainNext → MainStage
  | .launch [] => .idle
  | .launch (service :: rest) => .creating service (.launch rest)
  | .resources => .checkingResources

/-- The rest of a loop of the resource worker: `starts` tells the second loop from the first. -/
def ResourceJob.turns (job : ResourceJob) (starts : Bool) : List ProtocolService → ResourceStage
  | service :: rest => .turning ⟨job, starts, service, rest⟩ .reading
  | [] => if starts then .closing job else .turning ⟨job, true, .iptv, [.dlna, .airplay]⟩ .reading

variable (turn : ResourceTurn)

/-- The turn of the next service. -/
def ResourceTurn.next : ResourceStage := turn.job.turns turn.starts turn.rest

/-- The turn of the next service, behind a start. -/
def ResourceTurn.nextAfterStart (started : Bool) : ResourceStage :=
  ({ turn.job with success := turn.job.success && started } : ResourceJob).turns turn.starts turn.rest

/-- What comes behind `coordinator_resource_stop_service`. -/
def ResourceTurn.afterStop : ResourceStage :=
  if turn.starts then .turning turn .startPermitting else turn.next

namespace ServiceSystem

variable (s : ServiceSystem)

variable (coordinator : ServiceCoordinator)

/-- The main thread goes on. -/
def mainOn (main : MainStage) : ServiceSystem :=
  { s with coordinator, main }

/-- `protocol_coordinator_stop` goes on. -/
def stopperOn (stopper : StopStage)
    (events : List ServiceEvent) : ServiceSystem :=
  { s with coordinator, stopper, history := s.history ++ events }

/-- The resource worker goes on. -/
def resourceOn (resource : Option ResourceStage)
    (events : List ServiceEvent) : ServiceSystem :=
  { s with coordinator, resource, history := s.history ++ events }

/-- A service worker goes on. -/
def workerOn (service : ProtocolService) (coordinator : ServiceCoordinator)
    (stage : Option ServiceWorkerStage) (events : List ServiceEvent) : ServiceSystem :=
  { s with
    coordinator
    workers := update s.workers service stage
    history := s.history ++ events }

/-- `protocol_coordinator_start`, called while no other call is in progress. -/
def start (start : ProtocolServicesStart) : ServiceSystem :=
  match s.main, s.stopper with
  | .idle, .idle =>
    match ProtocolCoordinator.beginStart start.config s.coordinator.toProtocolCoordinator with
    | (true, started) =>
      s.mainOn { s.coordinator with toProtocolCoordinator := started } (.activating start)
    | (false, _) => s
  | _, _ => s

/-- `protocol_coordinator_tick` -/
def tick : ServiceSystem :=
  match s.main with
  | .idle => s.mainOn s.coordinator .reaping
  | _ => s

/-- `protocol_coordinator_stop` -/
def stop : ServiceSystem :=
  match s.stopper with
  | .idle =>
    match ProtocolCoordinator.beginStop s.coordinator.toProtocolCoordinator with
    | (true, stopping) =>
      s.stopperOn { s.coordinator with toProtocolCoordinator := stopping } .joiningResource []
    | (false, _) => s
  | _ => s

/-- `coordinator_set_desired_resource_mode` -/
def desire (mode : ProtocolResourceMode) : ServiceSystem :=
  { s with
    coordinator := { s.coordinator with
      toProtocolCoordinator :=
        setDesiredResourceMode mode s.coordinator.toProtocolCoordinator } }

/-- A step of `protocol_coordinator_start` or `protocol_coordinator_tick`. -/
def mainStep (ok : Bool) (status : Option ProtocolAirPlayStatus) : ServiceSystem :=
  let c := s.coordinator
  match s.main with
  | .idle => s
  | .activating start =>
    s.mainOn (c.activate start)
      (if start.serialStartup then .checkingSerial (.launch [])
      else (MainNext.launch (protocolServices.filter start.config.enabled)).stage)
  | .checkingSerial next =>
    match c.nextSerialService with
    | (some service, c) => s.mainOn c (.creating service next)
    | (none, c) => s.mainOn c next.stage
  | .creating service next =>
    let cleared := { c with workers := update c.workers service ⟨false, false, false⟩ }
    if ok then
      { s.mainOn cleared (.noting service next) with
        workers := update s.workers service (some .copying) }
    else s.mainOn cleared (.failing service next)
  | .noting service next =>
    s.mainOn
      { c with
        workers := update c.workers service { c.workers service with threadStarted := true } }
      next.stage
  | .failing service next => s.mainOn (c.setServiceState service .failed) next.stage
  | .reaping =>
    s.mainOn c (.joining (protocolServices.filter fun service =>
      (c.workers service).threadStarted && (c.workers service).startFinished))
  | .joining [] => s.mainOn c .reapingResource
  | .joining (service :: rest) =>
    s.mainOn c (if (c.workers service).threadStarted then .waiting service rest else .joining rest)
  | .waiting service rest =>
    if s.workers service = none then
      s.mainOn
        { c with
          workers := update c.workers service { c.workers service with threadStarted := false } }
        (.joining rest)
    else s
  | .reapingResource =>
    s.mainOn c
      (if c.resourceWorker.threadStarted && c.resourceWorker.finished then .joiningResource
      else .checkingSerial .resources)
  | .joiningResource =>
    s.mainOn c
      (if c.resourceWorker.threadStarted then .waitingResource else .checkingSerial .resources)
  | .waitingResource =>
    if s.resource.isNone then
      s.mainOn { c with resourceWorker := { c.resourceWorker with threadStarted := false } }
        (.checkingSerial .resources)
    else s
  | .checkingResources =>
    s.mainOn c
      (if c.needsResourceWorker ok then .checkingWorkers c.desiredResourceMode else .polling)
  | .checkingWorkers target =>
    s.mainOn c (if c.serviceWorkerActive then .polling else .preparing target)
  | .preparing target =>
    s.mainOn
      { c with
        resourceWorker := ⟨false, false, false, target⟩
        toProtocolCoordinator := launchResourceWorker c.toProtocolCoordinator }
      .creatingResource
  | .creatingResource =>
    if ok then { s.mainOn c .notingResource with resource := some .copying }
    else s.mainOn c .failingResource
  | .notingResource =>
    s.mainOn { c with resourceWorker := { c.resourceWorker with threadStarted := true } } .polling
  | .failingResource => s.mainOn c.failResourceWorker .polling
  | .polling =>
    s.mainOn c
      (if c.runtimeActive && c.stopRequired .airplay && c.alive then .asking else .idle)
  | .asking =>
    match status with
    | some status => s.mainOn c (.writing status)
    | none => s.mainOn c .idle
  | .writing status => s.mainOn (c.writeAirplayStatus status) (.showing status)
  | .showing status =>
    s.mainOn
      (c.setServiceState .airplay
        (if status.running then .running else if status.starting then .starting else .failed))
      .idle

/-- A step of `protocol_coordinator_stop`. -/
def stopperStep : ServiceSystem :=
  let c := s.coordinator
  match s.stopper with
  | .idle => s
  | .joiningResource =>
    s.stopperOn c
      (if c.resourceWorker.threadStarted then .waitingResource else .joining protocolServices) []
  | .waitingResource =>
    if s.resource.isNone then
      s.stopperOn { c with resourceWorker := { c.resourceWorker with threadStarted := false } }
        (.joining protocolServices) []
    else s
  | .joining [] => s.stopperOn c .collecting []
  | .joining (service :: rest) =>
    s.stopperOn c
      (if (c.workers service).threadStarted then .waiting service rest else .joining rest) []
  | .waiting service rest =>
    if s.workers service = none then
      s.stopperOn
        { c with
          workers := update c.workers service { c.workers service with threadStarted := false } }
        (.joining rest) []
    else s
  | .collecting =>
    s.stopperOn c
      (.calling (if c.runtimeActive then protocolServices.reverse.filter c.stopRequired else []))
      []
  | .calling [] => s.stopperOn c .finishing []
  | .calling (service :: rest) => s.stopperOn c (.noting rest service) [.stopped service]
  | .noting rest service => s.stopperOn (c.setServiceState service .stopped) (.calling rest) []
  | .finishing =>
    s.stopperOn { c with toProtocolCoordinator := finishStop c.toProtocolCoordinator } .resuming []
  | .resuming => s.stopperOn { c with backgroundNetworkSuspended := false } .clearing []
  | .clearing => s.stopperOn c.clearServices .idle [.returned]

/-- A step of a turn of the resource worker. -/
def turnStep (turn : ResourceTurn) (ok : Bool) : ResourcePoint → ServiceSystem
  | .reading => s.resourceOn s.coordinator
    (some (.turning turn (.permitting (s.coordinator.services turn.service)))) []
  | .permitting state => s.resourceOn s.coordinator
    (some (if s.coordinator.resourceTransitionAllowed then .turning turn (.aiming state)
      else .finishing turn.job false)) []
  | .aiming state =>
    let required := resourceServiceRequired turn.job.target turn.service turn.job.enabled
    s.resourceOn s.coordinator
      (some
        (if s.coordinator.desiredResourceMode ≠ turn.job.target then .finishing turn.job false
        else if turn.starts then
          if !required || state = .running then turn.next else .turning turn .startReading
        else if state = .disabled || state = .stopped || required then turn.next
        else .turning turn .stopReading)) []
  | .stopReading => s.resourceOn s.coordinator
    (some (.turning turn (.stopCalling (s.coordinator.stopRequired turn.service)))) []
  | .stopCalling required => s.resourceOn s.coordinator (some (.turning turn .stopClearing))
    (if required then [.stopped turn.service] else [])
  | .stopClearing => s.resourceOn (s.coordinator.setStopRequired turn.service false)
    (some (.turning turn .stopNoting)) []
  | .stopNoting => s.resourceOn (s.coordinator.setServiceState turn.service .stopped)
    (some (if turn.service = .airplay then .turning turn .stopHiding else turn.afterStop)) []
  | .stopHiding => s.resourceOn s.coordinator.clearAirplayRuntimeStatus (some turn.afterStop) []
  | .startReading => s.resourceOn s.coordinator
    (some (.turning turn
      (if s.coordinator.stopRequired turn.service then .stopReading else .startPermitting))) []
  | .startPermitting => s.resourceOn s.coordinator
    (some (if s.coordinator.resourceTransitionAllowed then .turning turn .startAnnouncing
      else turn.nextAfterStart false)) []
  | .startAnnouncing => s.resourceOn (s.coordinator.setServiceState turn.service .starting)
    (some (.turning turn .startCalling)) []
  | .startCalling => s.resourceOn s.coordinator (some (.turning turn .starting))
    [.starting turn.service]
  | .starting => s.resourceOn s.coordinator (some (.turning turn (.flagging ok)))
    [.started turn.service (ok || turn.job.stopAfter turn.service)]
  | .flagging started =>
    s.resourceOn
      (s.coordinator.setStopRequired turn.service
        (started || turn.job.stopAfter turn.service))
      (some (.turning turn (.startNoting started))) []
  | .startNoting started =>
    s.resourceOn
      (s.coordinator.setServiceState turn.service (if started then .running else .failed))
      (some (turn.nextAfterStart started)) []

/-- A step of `coordinator_resource_worker_run`. -/
def resourceStep (ok : Bool) : ServiceSystem :=
  let c := s.coordinator
  match s.resource with
  | none => s
  | some .copying =>
    s.resourceOn c
      (some (.suspending
        ⟨c.resourceWorker.target, c.configuredEnabled, c.stopAfterStartAttempt, true⟩)) []
  | some (.suspending job) =>
    if job.target ≠ .home then
      s.resourceOn { c with backgroundNetworkSuspended := true }
        (some (({ job with success := ok } : ResourceJob).turns false protocolServices.reverse)) []
    else s.resourceOn c (some (job.turns false protocolServices.reverse)) []
  | some (.turning turn point) => s.turnStep turn ok point
  | some (.closing job) =>
    s.resourceOn c
      (some (if c.desiredResourceMode = job.target then .resuming job else .finishing job false))
      []
  | some (.resuming job) =>
    if job.target = .home then
      s.resourceOn { c with backgroundNetworkSuspended := false }
        (some (.finishing
          { job with success := job.success && (!c.backgroundNetworkSuspended || ok) } true)) []
    else s.resourceOn c (some (.finishing job true)) []
  | some (.finishing job completed) =>
    s.resourceOn
      { c with
        toProtocolCoordinator :=
          finishResourceWorker job.target completed job.success c.toProtocolCoordinator
        resourceWorker := { c.resourceWorker with
          result := completed && job.success
          finished := true } }
      none []

/-- A step of `coordinator_service_worker_run`. -/
def workerStep (service : ProtocolService) (ok : Bool) : ServiceSystem :=
  let c := s.coordinator
  match s.workers service with
  | none => s
  | some .copying => s.workerOn service c (some (.calling (c.stopAfterStartAttempt service))) []
  | some (.calling stopAfter) =>
    s.workerOn service c (some (.starting stopAfter)) [.starting service]
  | some (.starting stopAfter) =>
    s.workerOn service c (some (.flagging ok (ok || stopAfter)))
      [.started service (ok || stopAfter)]
  | some (.flagging started owed) =>
    s.workerOn service (c.setStopRequired service owed) (some (.noting started)) []
  | some (.noting started) =>
    s.workerOn service (c.setServiceState service (if started then .running else .failed))
      (some (.finishing started)) []
  | some (.finishing started) =>
    s.workerOn service
      { c with
        workers := update c.workers service { c.workers service with
          startResult := started
          startFinished := true } }
      none []

/-- One step. -/
def step : ServiceLabel → ServiceSystem
  | .start start => s.start start
  | .tick => s.tick
  | .stop => s.stop
  | .desire mode => s.desire mode
  | .main ok status => s.mainStep ok status
  | .stopper => s.stopperStep
  | .resource ok => s.resourceStep ok
  | .worker service ok => s.workerStep service ok

/-- Steps one after the other. -/
def run (labels : List ServiceLabel) : ServiceSystem := labels.foldl step s

/-- What the program begins with. -/
def initial : ServiceSystem :=
  { coordinator :=
      { ownership := .initial
        lifecycle := .stopped
        runtimeActive := false
        exclusiveMediaResources := false
        configuredEnabled := fun _ => false
        discoverySuspensionPolicy := .none
        hasSetDiscoverySuspended := false
        hasAirplayReleaseActiveMedia := false
        state := .stopped
        services := fun _ => .disabled
        activeMedia := .zero
        mediaSession := protocolMediaSessionInit
        desiredResourceMode := .home
        appliedResourceMode := .home
        resourceTransitionActive := false
        resourceTransitionFailed := false
        discoverySuspended := false
        revision := 0
        serialStartup := false
        backgroundNetworkSuspended := false
        servicesToStart := protocolServices
        stopRequired := fun _ => false
        stopAfterStartAttempt := fun _ => false
        workers := fun _ => ⟨false, false, false⟩
        resourceWorker := ⟨false, false, false, .home⟩
        airplay := .zero }
    main := .idle
    stopper := .idle
    resource := none
    workers := fun _ => none
    history := [] }

/-- A state that a run leads to, each of whose steps is as `ok` says. -/
inductive Reachable (ok : ServiceSystem → ServiceLabel → Prop) : ServiceSystem → Prop where
  | initial : Reachable ok ServiceSystem.initial
  | step {s : ServiceSystem} (label : ServiceLabel) :
      Reachable ok s → ok s label → Reachable ok (s.step label)

lemma Reachable.run {s : ServiceSystem} (h : s.Reachable fun _ _ => True)
    (labels : List ServiceLabel) : (s.run labels).Reachable fun _ _ => True := by
  induction labels generalizing s with
  | nil => exact h
  | cons label labels ih => exact ih (h.step label trivial)

end ServiceSystem

end NXCast
