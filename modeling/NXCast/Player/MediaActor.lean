import NXCast.Framework.Runs
import Mathlib.Data.Int.Notation
import Mathlib.Data.List.Basic
import Mathlib.Logic.Function.Basic

/-!
# The media actor

`media_actor.c`: producers put requests into one queue and a worker executes them.  Every section
under the actor's mutex is one step, and so is every call of a callback; a thread that dropped the
last reference to a request frees it in a step of its own after it unlocked.

A request is named by the number of requests created before it, and so is the call that created it.
`fault` says that some step touched a request that had been freed.  `releases`, `retains` and
`payloadReleases` count what happened to a request and to the object it carries, `outcomes` are the
statuses a request was completed with, `entries` the requests that entered the queue and `executions`
those that were executed, newest first, `replacedBy` is what took a request's place, and `commands` and
`commandIds` are what a request was created with and the number it got: no step reads these.  A command's
identifier is the low 64 bits of the count `commandId`.
-/

namespace NXCast

/-! ## Commands -/

/-- `MediaActorCommandKind` -/
inductive MediaActorCommandKind where
  | openMedia
  | play
  | pause
  | stop
  | stopAny
  | seekTarget
  | seekMs
  | setVolume
  | setMute
  | showOsd
  | bindStream
  | releaseLease
  | quiesce
  | shutdown
deriving DecidableEq, Repr

/-- `MediaActorProducer` -/
inductive MediaActorProducer where
  | unknown
  | app
  | ui
  | dlna
  | iptv
  | airplayVideo
  | airplayMirror
  | test
deriving DecidableEq, Repr

/-- `MediaActorCommand`; `retains` and `releases` say whether the object's functions are given. -/
structure MediaActorCommand where
  kind : MediaActorCommandKind
  producer : MediaActorProducer
  sessionToken : UInt64
  generation : UInt32
  text : Option (List UInt8)
  metadata : Option (List UInt8)
  value : ℤ
  flag : Bool
  object : Option ℕ
  retains : Bool
  releases : Bool
deriving DecidableEq

/-- `MediaActorSubmitStatus` -/
inductive MediaActorSubmitStatus where
  | accepted
  | executed
  | executionFailed
  | invalid
  | notRunning
  | queueFull
  | noMemory
  | timeout
  | shuttingDown
  | stale
deriving DecidableEq, Repr

/-- `MediaActorRequest` -/
structure MediaActorRequest where
  command : MediaActorCommand
  commandId : ℕ
  completionStatus : MediaActorSubmitStatus
  completed : Bool
  objectRetained : Bool
  references : ℕ
deriving DecidableEq

/-- `MediaActorConfig`, as `media_actor_create` takes it: whether there are the callbacks that change
what the actor does, and the numbers. -/
structure MediaActorConfig where
  capacity : ℕ
  reservedCapacity : ℕ
  maxCommandBurst : ℕ
  startSuspended : Bool
  initializes : Bool
  capacity_pos : 0 < capacity
  reserved_lt : reservedCapacity < capacity
  burst_pos : 0 < maxCommandBurst

/-- `command_valid` -/
def commandValid (command : MediaActorCommand) : Bool := command.retains = command.releases

/-- `command_uses_reserved_slot` -/
def commandUsesReservedSlot (kind : MediaActorCommandKind) : Bool :=
  decide (kind = .stopAny ∨ kind = .releaseLease ∨ kind = .quiesce ∨ kind = .shutdown)

/-- `command_is_replaceable` -/
def commandIsReplaceable (kind : MediaActorCommandKind) : Bool :=
  decide (kind = .seekMs ∨ kind = .setVolume ∨ kind = .setMute)

/-- `command_can_replace` -/
def commandCanReplace (queued replacement : MediaActorCommand) : Bool :=
  decide (queued.kind = replacement.kind ∧ queued.producer = replacement.producer ∧
    queued.sessionToken = replacement.sessionToken ∧ queued.generation = replacement.generation)

/-- `request_create`, with memory. -/
def requestCreate (command : MediaActorCommand) : MediaActorRequest :=
  { command
    commandId := 0
    completionStatus := .accepted
    completed := false
    objectRetained := command.object.isSome && command.retains
    references := 0 }

/-! ## Threads -/

/-- Where a call of `actor_submit` is that creates a request. -/
inductive ActorCall where
  | idle
  | created (wait forever : Bool)
  | waiting (forever : Bool)
  | returned (status : MediaActorSubmitStatus)
deriving DecidableEq

/-- The call has returned. -/
def ActorCall.isReturned : ActorCall → Bool
  | returned _ => true
  | _ => false

/-- Where the worker is: `top` is before the inner loop's lock, `pumping` behind the loop, and
`finishing` and `finalizing` are `actor_finish_worker` before its first and its second lock. -/
inductive ActorWorker where
  | absent
  | initializing
  | top (processed : ℕ)
  | validating (key processed : ℕ)
  | executing (key processed : ℕ)
  | completing (key processed : ℕ) (status : MediaActorSubmitStatus)
  | pumping
  | finishing
  | finalizing
  | exited
deriving DecidableEq

/-- The request the worker has taken. -/
def ActorWorker.key : ActorWorker → Option ℕ
  | validating key _ | executing key _ | completing key _ _ => some key
  | _ => none

/-- Where a call of `media_actor_start` is. -/
inductive ActorStart where
  | idle
  | creating
  | created
deriving DecidableEq

/-- Where a call of `actor_submit` is that the worker makes for itself. -/
inductive ActorDirect where
  | validating (command : MediaActorCommand) (commandId : ℕ)
  | executing (command : MediaActorCommand) (commandId : ℕ)
deriving DecidableEq

/-- `MediaActor`, with the requests and the threads. -/
structure MediaActor where
  requests : ℕ → Option MediaActorRequest
  created : ℕ
  queue : List ℕ
  dying : List ℕ
  threadStarted : Bool
  joinInProgress : Bool
  running : Bool
  stopping : Bool
  accepting : Bool
  dispatchRequested : Bool
  ready : Bool
  initializing : Bool
  initializationFailed : Bool
  dispatchEnabled : Bool
  lastCommandId : ℕ
  currentCommandId : ℕ
  worker : ActorWorker
  directs : List ActorDirect
  starting : ActorStart
  destroyed : Bool
  calls : ℕ → ActorCall
  fault : Bool
  releases : ℕ → ℕ
  retains : ℕ → ℕ
  payloadReleases : ℕ → ℕ
  outcomes : ℕ → List MediaActorSubmitStatus
  entries : List ℕ
  executions : List ℕ
  replacedBy : ℕ → Option ℕ
  commands : ℕ → Option MediaActorCommand
  commandIds : ℕ → ℕ

/-- What `media_actor_create` makes. -/
def MediaActor.initial : MediaActor :=
  { requests := fun _ => none
    created := 0
    queue := []
    dying := []
    threadStarted := false
    joinInProgress := false
    running := false
    stopping := false
    accepting := false
    dispatchRequested := false
    ready := false
    initializing := false
    initializationFailed := false
    dispatchEnabled := false
    lastCommandId := 0
    currentCommandId := 0
    worker := .absent
    directs := []
    starting := .idle
    destroyed := false
    calls := fun _ => .idle
    fault := false
    releases := fun _ => 0
    retains := fun _ => 0
    payloadReleases := fun _ => 0
    outcomes := fun _ => []
    entries := []
    executions := []
    replacedBy := fun _ => none
    commands := fun _ => none
    commandIds := fun _ => 0 }

namespace MediaActor

variable (config : MediaActorConfig) (actor : MediaActor)

/-! ## Requests -/

variable (key : ℕ)

/-- A request is written. -/
def setRequest (request : Option MediaActorRequest) : MediaActor :=
  { actor with requests := Function.update actor.requests key request }

/-- A call goes on. -/
def setCall (call : ActorCall) : MediaActor :=
  { actor with calls := Function.update actor.calls key call }

/-- A request that has been freed is touched. -/
def touchFreed : MediaActor := { actor with fault := true }

/-- Somebody frees the request if nobody refers to it. -/
def dropped (references : ℕ) : MediaActor :=
  if references = 0 then { actor with dying := key :: actor.dying } else actor

/-- `request_free` -/
def requestFree : MediaActor :=
  match actor.requests key with
  | none => actor.touchFreed
  | some request =>
    { actor.setRequest key none with
      releases := Function.update actor.releases key (actor.releases key + 1)
      payloadReleases :=
        if request.objectRetained then
          Function.update actor.payloadReleases key (actor.payloadReleases key + 1)
        else actor.payloadReleases }

/-- `request_complete_locked` -/
def requestCompleteLocked (status : MediaActorSubmitStatus) : MediaActor :=
  match actor.requests key with
  | none => actor.touchFreed
  | some request =>
    { actor.setRequest key (some
        { request with
          completed := true
          completionStatus := status
          references := request.references - 1 }) with
      outcomes := Function.update actor.outcomes key (status :: actor.outcomes key) }.dropped key
        (request.references - 1)

/-- `queue_push_locked` -/
def queuePushLocked : MediaActor :=
  { actor with queue := actor.queue ++ [key], entries := key :: actor.entries }

/-- The loop of `actor_reject_pending_locked`, which pops until the queue is empty. -/
def rejectLoop : List ℕ → MediaActor → MediaActor
  | [], actor => actor
  | key :: queue, actor =>
    rejectLoop queue ({ actor with queue }.requestCompleteLocked key .shuttingDown)

/-- `actor_reject_pending_locked` -/
def actorRejectPendingLocked : MediaActor := rejectLoop actor.queue actor

/-! ## Calls of `actor_submit` -/

/-- A call comes with a command: `request_create`, with memory. -/
def create (command : MediaActorCommand) (wait forever : Bool) : MediaActor :=
  if commandValid command then
    let request := requestCreate command
    { (actor.setRequest actor.created (some request)).setCall actor.created
        (.created wait forever) with
      created := actor.created + 1
      retains := Function.update actor.retains actor.created
        (if request.objectRetained then 1 else 0)
      commands := Function.update actor.commands actor.created (some command)
      commandIds := Function.update actor.commandIds actor.created 0 }
  else actor

/-- A call returns without having put its request into the queue, and frees it. -/
def refuse (status : MediaActorSubmitStatus) : MediaActor :=
  { actor.setCall key (.returned status) with dying := key :: actor.dying }

/-- A request takes the place of the one at the tail. -/
def replaceTail (tail key : ℕ) (request : MediaActorRequest) : MediaActor :=
  { (actor.setRequest key (some
      { request with commandId := actor.lastCommandId + 1, references := 1 })).setCall key
        (.returned .accepted) with
    lastCommandId := actor.lastCommandId + 1
    queue := actor.queue.dropLast ++ [key]
    entries := key :: actor.entries
    replacedBy := Function.update actor.replacedBy tail (some key)
    commandIds := Function.update actor.commandIds key (actor.lastCommandId + 1) }.requestCompleteLocked
      tail .accepted

/-- A request is put into the queue if there is room for its kind. -/
def push (request : MediaActorRequest) (wait forever : Bool) : MediaActor :=
  if actor.queue.length ≥ config.capacity ∨
      (commandUsesReservedSlot request.command.kind = false ∧
        actor.queue.length ≥ config.capacity - config.reservedCapacity) then
    actor.refuse key .queueFull
  else
    { (actor.setRequest key (some
        { request with
          commandId := actor.lastCommandId + 1
          references := if wait then 2 else 1 })).setCall key
          (if wait then .waiting forever else .returned .accepted) with
      lastCommandId := actor.lastCommandId + 1
      commandIds :=
        Function.update actor.commandIds key (actor.lastCommandId + 1) }.queuePushLocked key

/-- `actor_submit` under its first lock. -/
def submit : MediaActor :=
  match actor.calls key with
  | .created wait forever =>
    match actor.requests key with
    | none => actor.touchFreed
    | some request =>
      if actor.running = false then actor.refuse key .notRunning
      else if actor.stopping ∨ actor.accepting = false then actor.refuse key .shuttingDown
      else if wait = false ∧ commandIsReplaceable request.command.kind then
        match actor.queue.getLast? with
        | none => actor.push config key request wait forever
        | some tail =>
          match actor.requests tail with
          | none => actor.touchFreed
          | some queued =>
            if queued.references = 1 ∧ commandCanReplace queued.command request.command then
              actor.replaceTail tail key request
            else actor.push config key request wait forever
      else actor.push config key request wait forever
  | _ => actor

/-- A waiting call returns and drops its reference. -/
def leave (request : MediaActorRequest) (status : MediaActorSubmitStatus) : MediaActor :=
  ((actor.setRequest key (some { request with references := request.references - 1 })).setCall key
    (.returned status)).dropped key (request.references - 1)

/-- `actor_submit` under its second lock, when the wait ends or its deadline has passed. -/
def wake (expired : Bool) : MediaActor :=
  match actor.calls key with
  | .waiting forever =>
    match actor.requests key with
    | none => actor.touchFreed
    | some request =>
      if request.completed then actor.leave key request request.completionStatus
      else if expired ∧ forever = false then actor.leave key request .timeout
      else actor
  | _ => actor

/-- `request_free` after a lock. -/
def freeDying : MediaActor :=
  if key ∈ actor.dying then { actor with dying := actor.dying.erase key }.requestFree key else actor

/-! ## Calls that the worker makes for itself -/

/-- A callback of the worker is running. -/
def inCallback : Bool :=
  match actor.worker with
  | .initializing | .validating _ _ | .executing _ _ | .pumping | .finalizing => true
  | _ => false

/-- `actor_submit` of the worker with a wait, up to the callbacks. -/
def directBegin (command : MediaActorCommand) : MediaActor :=
  if actor.inCallback = false ∨ commandValid command = false then actor
  else if actor.running = false ∨ actor.stopping ∨ actor.accepting = false then actor
  else
    { actor with
      lastCommandId := actor.lastCommandId + 1
      directs := .validating command (actor.lastCommandId + 1) :: actor.directs }

/-- The validation of a direct command. -/
def directValidated (valid : Bool) : MediaActor :=
  match actor.directs with
  | .validating command commandId :: directs =>
    { actor with directs := if valid then .executing command commandId :: directs else directs }
  | _ => actor

/-- A direct command has been executed. -/
def directDone : MediaActor :=
  match actor.directs with
  | .executing _ _ :: directs => { actor with directs }
  | _ => actor

/-! ## Life cycle -/

/-- `media_actor_start` up to the thread. -/
def start : MediaActor :=
  if actor.starting ≠ .idle ∨ actor.destroyed then actor
  else if actor.running then actor
  else if actor.threadStarted ∨ actor.queue ≠ [] then actor
  else
    { actor with
      stopping := false
      accepting := true
      dispatchRequested := !config.startSuspended
      running := true
      initializing := config.initializes
      ready := !config.initializes
      initializationFailed := false
      dispatchEnabled := !config.initializes && !config.startSuspended
      worker := .absent
      starting := .creating }

/-- The thread is created, or `actor_mark_start_failed_locked`. -/
def startThread (created : Bool) : MediaActor :=
  if actor.starting ≠ .creating then actor
  else if created then { actor with worker := .initializing, starting := .created }
  else
    { actor with
      running := false
      accepting := false
      dispatchRequested := false
      initializing := false
      ready := false
      initializationFailed := true
      dispatchEnabled := false
      starting := .idle }

/-- The end of `media_actor_start`. -/
def startDone : MediaActor :=
  if actor.starting ≠ .created then actor else { actor with threadStarted := true, starting := .idle }

/-- `media_actor_activate` -/
def activate : MediaActor :=
  if actor.running ∧ actor.stopping = false ∧ actor.initializationFailed = false then
    { actor with dispatchRequested := true, dispatchEnabled := actor.ready }
  else actor

/-- `media_actor_quiesce` -/
def quiesce : MediaActor := { actor with accepting := false }

/-- `media_actor_stop` of another thread, up to the join. -/
def stop : MediaActor :=
  if actor.joinInProgress ∨ actor.threadStarted = false then actor
  else { actor with joinInProgress := true, stopping := true, accepting := false }

/-- `media_actor_stop` of the worker. -/
def stopSelf : MediaActor :=
  if actor.inCallback then { actor with stopping := true, accepting := false } else actor

/-- The end of `media_actor_stop`, behind the join. -/
def join : MediaActor :=
  if actor.joinInProgress ∧ actor.worker = .exited then
    { actor with threadStarted := false, joinInProgress := false, running := false }
  else actor

/-- `media_actor_destroy`, when the actor is stopped and no call is left inside it. -/
def destroy : MediaActor :=
  if actor.threadStarted ∨ actor.joinInProgress ∨ actor.starting ≠ .idle ∨
      ¬(actor.worker = .absent ∨ actor.worker = .exited) ∨
      ∃ key < actor.created, (actor.calls key).isReturned = false then actor
  else { actor.actorRejectPendingLocked with destroyed := true }

/-! ## The worker -/

/-- `actor_initialize_worker` behind the callback. -/
def initialized (ok : Bool) : MediaActor :=
  if actor.worker ≠ .initializing ∨ actor.directs ≠ [] then actor
  else
    let actor :=
      { actor with
        initializing := false
        ready := ok
        initializationFailed := !ok
        dispatchEnabled := ok && actor.dispatchRequested }
    if ok then { actor with worker := .top 0 }
    else
      { { actor with running := false, accepting := false }.actorRejectPendingLocked with
        worker := .exited }

/-- The lock at the top of the worker's inner loop, or the end of the loop. -/
def workerTop : MediaActor :=
  match actor.worker with
  | .top processed =>
    if processed ≥ config.maxCommandBurst then { actor with worker := .pumping }
    else if actor.stopping then { actor with worker := .finishing }
    else if actor.dispatchEnabled = false then { actor with worker := .pumping }
    else
      match actor.queue with
      | [] => { actor with worker := .pumping }
      | key :: queue =>
        match actor.requests key with
        | none => actor.touchFreed
        | some request =>
          { actor with
            queue
            currentCommandId := request.commandId
            worker := .validating key processed }
  | _ => actor

/-- The validation of the command that the worker has taken. -/
def validated (valid : Bool) : MediaActor :=
  match actor.worker with
  | .validating key processed =>
    if actor.directs ≠ [] then actor
    else
      match actor.requests key with
      | none => actor.touchFreed
      | some _ =>
        if valid then
          { actor with
            worker := .executing key processed
            executions := key :: actor.executions }
        else { actor with worker := .completing key processed .stale }
  | _ => actor

/-- The command has been executed. -/
def executed (ok : Bool) : MediaActor :=
  match actor.worker with
  | .executing key processed =>
    if actor.directs ≠ [] then actor
    else
      match actor.requests key with
      | none => actor.touchFreed
      | some _ =>
        { actor with
          worker := .completing key processed (if ok then .executed else .executionFailed) }
  | _ => actor

/-- The end of `actor_execute_request`. -/
def completed : MediaActor :=
  match actor.worker with
  | .completing key processed status =>
    { actor with currentCommandId := 0, worker := .top (processed + 1) }.requestCompleteLocked key
      status
  | _ => actor

/-- `pump_events`, or the wait for the next command. -/
def pumped : MediaActor :=
  if actor.worker ≠ .pumping ∨ actor.directs ≠ [] then actor else { actor with worker := .top 0 }

/-- `actor_finish_worker` under its first lock. -/
def finish : MediaActor :=
  if actor.worker ≠ .finishing then actor
  else { actor.actorRejectPendingLocked with worker := .finalizing }

/-- `actor_finish_worker` behind `finalize`. -/
def finalized : MediaActor :=
  if actor.worker ≠ .finalizing ∨ actor.directs ≠ [] then actor
  else
    { actor with
      running := false
      accepting := false
      dispatchRequested := false
      ready := false
      dispatchEnabled := false
      worker := .exited }

end MediaActor

/-! ## Steps -/

/-- A step of some thread. -/
inductive ActorStep where
  | create (command : MediaActorCommand) (wait forever : Bool)
  | submit (key : ℕ)
  | wake (key : ℕ) (expired : Bool)
  | free (key : ℕ)
  | directBegin (command : MediaActorCommand)
  | directValidated (valid : Bool)
  | directDone
  | start
  | startThread (created : Bool)
  | startDone
  | activate
  | quiesce
  | stop
  | stopSelf
  | join
  | destroy
  | initialized (ok : Bool)
  | workerTop
  | validated (valid : Bool)
  | executed (ok : Bool)
  | completed
  | pumped
  | finish
  | finalized

/-- What a step does; one that its thread cannot take does nothing. -/
def actorStep (config : MediaActorConfig) (actor : MediaActor) : ActorStep → MediaActor
  | .create command wait forever => actor.create command wait forever
  | .submit key => actor.submit config key
  | .wake key expired => actor.wake key expired
  | .free key => actor.freeDying key
  | .directBegin command => actor.directBegin command
  | .directValidated valid => actor.directValidated valid
  | .directDone => actor.directDone
  | .start => actor.start config
  | .startThread created => actor.startThread created
  | .startDone => actor.startDone
  | .activate => actor.activate
  | .quiesce => actor.quiesce
  | .stop => actor.stop
  | .stopSelf => actor.stopSelf
  | .join => actor.join
  | .destroy => actor.destroy
  | .initialized ok => actor.initialized ok
  | .workerTop => actor.workerTop config
  | .validated valid => actor.validated valid
  | .executed ok => actor.executed ok
  | .completed => actor.completed
  | .pumped => actor.pumped
  | .finish => actor.finish
  | .finalized => actor.finalized

end NXCast
