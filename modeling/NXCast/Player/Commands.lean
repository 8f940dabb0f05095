import NXCast.Player.MediaActor
import NXCast.Player.Ownership

/-!
# Commands of the player

How `session.c` puts commands to the actor and checks their leases: `player_submit_command` compares
the lease of a request with the current one before the request is created, and
`player_validate_actor_command` compares the command's once more when the worker has taken it.  The
ownership changes on other threads at any time, so a `PlayerSystem` is the actor and the ownership, and
its steps are those of the actor and the sections of `ownership.c`.

The claims are numbered in the order in which they were granted.  `carried` has the claim whose lease a
request was created with, `directs` those of the worker's nested calls, `passed` what has passed the
validation, and `judged` the requests that were validated when a newer claim had been granted; the
latter two are newest first, and no step reads any of these.
-/

namespace NXCast

/-! ## Requests -/

/-- `PlayerCommandKind` -/
inductive PlayerCommandKind where
  | openMedia
  | play
  | pause
  | stop
  | stopAny
  | seekTarget
  | seekMs
  | setVolume
  | setMute
  | showOsd
  | releaseLease
deriving DecidableEq

/-- `PlayerCommandSource` -/
inductive PlayerCommandSource where
  | app
  | ui
  | dlna
  | iptv
  | airplayVideo
  | airplayMirror
deriving DecidableEq

/-- `PlayerCommandRequest` -/
structure PlayerCommandRequest where
  kind : PlayerCommandKind
  source : PlayerCommandSource
  lease : PlayerOwnershipLease
  uri : Option (List UInt8)
  metadata : Option (List UInt8)
  text : Option (List UInt8)
  value : ℤ
  flag : Bool
deriving DecidableEq

/-- `PlayerCommandStatus` -/
inductive PlayerCommandStatus where
  | accepted
  | executed
  | executionFailed
  | invalid
  | notRunning
  | queueFull
  | noMemory
  | timeout
  | shuttingDown
  | stale
deriving DecidableEq

/-- `player_command_status_from_actor` -/
def playerCommandStatusFromActor : MediaActorSubmitStatus → PlayerCommandStatus
  | .accepted => .accepted
  | .executed => .executed
  | .executionFailed => .executionFailed
  | .invalid => .invalid
  | .notRunning => .notRunning
  | .queueFull => .queueFull
  | .noMemory => .noMemory
  | .timeout => .timeout
  | .shuttingDown => .shuttingDown
  | .stale => .stale

/-- `player_command_status_succeeded` -/
def playerCommandStatusSucceeded (status : PlayerCommandStatus) : Bool :=
  decide (status = .accepted ∨ status = .executed)

/-- `player_actor_kind` -/
def playerActorKind : PlayerCommandKind → MediaActorCommandKind
  | .openMedia => .openMedia
  | .play => .play
  | .pause => .pause
  | .stop => .stop
  | .stopAny => .stopAny
  | .seekTarget => .seekTarget
  | .seekMs => .seekMs
  | .setVolume => .setVolume
  | .setMute => .setMute
  | .showOsd => .showOsd
  | .releaseLease => .releaseLease

/-- `player_actor_producer` -/
def playerActorProducer : PlayerCommandSource → MediaActorProducer
  | .app => .app
  | .ui => .ui
  | .dlna => .dlna
  | .iptv => .iptv
  | .airplayVideo => .airplayVideo
  | .airplayMirror => .airplayMirror

/-- `player_source_owner` -/
def playerSourceOwner : PlayerCommandSource → PlayerMediaOwner
  | .dlna => .dlna
  | .iptv => .iptv
  | .airplayVideo => .airplayVideo
  | .airplayMirror => .airplayMirror
  | _ => .none

/-- `player_owner_from_actor_producer` -/
def playerOwnerFromActorProducer : MediaActorProducer → PlayerMediaOwner
  | .dlna => .dlna
  | .iptv => .iptv
  | .airplayVideo => .airplayVideo
  | .airplayMirror => .airplayMirror
  | _ => .none

/-- `player_command_request_valid` -/
def playerCommandRequestValid (request : PlayerCommandRequest) : Bool :=
  if request.kind = .openMedia ∧ (request.uri = none ∨ request.uri = some []) then false
  else if (request.kind = .seekTarget ∨ request.kind = .showOsd) ∧ request.text = none then false
  else if playerSourceOwner request.source = .none then
    decide (request.kind ≠ .stop ∨ request.source = .app ∨ request.source = .ui)
  else if request.kind = .stopAny then false
  else decide (request.lease.owner = playerSourceOwner request.source ∧ request.lease.generation ≠ 0)

/-- The command that `player_submit_command` makes of a request. -/
def playerActorCommand (request : PlayerCommandRequest) : MediaActorCommand where
  kind := playerActorKind request.kind
  producer := playerActorProducer request.source
  sessionToken := request.lease.token
  generation := request.lease.generation
  text := if request.kind = .openMedia then request.uri else request.text
  metadata := request.metadata
  value := request.value
  flag := request.flag
  object := none
  retains := false
  releases := false

/-- What is put to the actor: a request, a stream bridge, or a command of `player_play` and its
siblings, which come without a lease. -/
inductive PlayerSubmission where
  | request (asked : PlayerCommandRequest)
  | airplayBridge (object : ℕ) (lease : PlayerOwnershipLease) (audio : Bool)
  | app (kind : MediaActorCommandKind) (text metadata : Option (List UInt8)) (value : ℤ) (flag : Bool)

/-- `player_submit_command` up to the actor. -/
def playerSubmitCommand (initialized : Bool) (request : PlayerCommandRequest) (o : PlayerOwnership) :
    Except PlayerCommandStatus MediaActorCommand :=
  if playerCommandRequestValid request = false then .error .invalid
  else if playerSourceOwner request.source ≠ .none ∧
      playerOwnershipValidate request.lease o = false then .error .stale
  else if initialized = false then .error .notRunning
  else .ok (playerActorCommand request)

/-- `player_submit_airplay_bridge` up to the actor. -/
def playerSubmitAirplayBridge (initialized : Bool) (object : ℕ) (lease : PlayerOwnershipLease)
    (audio : Bool) (o : PlayerOwnership) : Except PlayerCommandStatus MediaActorCommand :=
  if lease.owner ≠ .airplayMirror ∨ lease.generation = 0 then .error .invalid
  else if playerOwnershipValidate lease o = false then .error .stale
  else if initialized = false then .error .notRunning
  else
    .ok
      { kind := .bindStream
        producer := .airplayMirror
        sessionToken := lease.token
        generation := lease.generation
        text := none
        metadata := none
        value := 0
        flag := audio
        object := some object
        retains := true
        releases := true }

/-- What a submission puts to the actor, unless it is refused before. -/
def PlayerSubmission.command (initialized : Bool) (o : PlayerOwnership) :
    PlayerSubmission → Except PlayerCommandStatus MediaActorCommand
  | .request asked => playerSubmitCommand initialized asked o
  | .airplayBridge object lease audio => playerSubmitAirplayBridge initialized object lease audio o
  | .app kind text metadata value flag =>
    if initialized = false then .error .notRunning
    else
      .ok
        { kind, producer := .app, sessionToken := 0, generation := 0, text, metadata, value, flag
          object := none, retains := false, releases := false }

/-! ## The callbacks of the actor -/

/-- The lease that a command names. -/
def MediaActorCommand.lease (command : MediaActorCommand) : PlayerOwnershipLease :=
  ⟨playerOwnerFromActorProducer command.producer, command.sessionToken, command.generation⟩

/-- `player_validate_actor_command` -/
def playerValidateActorCommand (command : MediaActorCommand) (o : PlayerOwnership) : Bool :=
  if playerOwnerFromActorProducer command.producer = .none then true
  else playerOwnershipValidate command.lease o

/-- What `player_execute_actor_command` does to the ownership and returns, if the backend answers
`ok`. -/
def playerExecuteOnOwnership (command : MediaActorCommand) (ok : Bool) (o : PlayerOwnership) :
    Bool × PlayerOwnership :=
  if command.kind = .releaseLease then playerOwnershipRelease command.lease o else (ok, o)

/-! ## The system -/

/-- A command that has passed the validation: the request, unless it was a nested call, and the claim
whose lease it carried. -/
structure PassedCommand where
  request : Option ℕ
  claim : Option ℕ
deriving DecidableEq

/-- The actor and the ownership. -/
structure PlayerSystem where
  ownership : PlayerOwnership
  actor : MediaActor
  carried : ℕ → Option ℕ
  directs : List (Option ℕ)
  passed : List PassedCommand
  judged : List ℕ

namespace PlayerSystem

/-- Before the first step. -/
def initial : PlayerSystem := ⟨.initial, .initial, fun _ => none, [], [], []⟩

variable (config : MediaActorConfig) (s : PlayerSystem)

/-- The lease of a claim. -/
def leaseOf (claim : ℕ) : Option PlayerOwnershipLease := s.ownership.claims.reverse[claim]?

/-- The caller has the lease that its command names from its claim. -/
def Presents (command : MediaActorCommand) (claim : Option ℕ) : Prop :=
  match claim with
  | some n => s.leaseOf n = some command.lease
  | none => command.lease ∉ s.ownership.claims

instance (command : MediaActorCommand) (claim : Option ℕ) : Decidable (s.Presents command claim) := by
  unfold Presents
  cases claim with
  | none | some => exact inferInstance

/-- A newer claim has been granted. -/
def Superseded (claim : Option ℕ) : Prop := ∃ n, claim = some n ∧ n + 1 < s.ownership.claims.length

instance (claim : Option ℕ) : Decidable (s.Superseded claim) :=
  match claim with
  | none => isFalse fun ⟨_, h, _⟩ => nomatch h
  | some n => decidable_of_iff (n + 1 < s.ownership.claims.length)
      ⟨fun h => ⟨n, rfl, h⟩, fun ⟨_, h, h'⟩ => Option.some.inj h ▸ h'⟩

/-- A step of the actor that concerns nothing else. -/
def act (step : ActorStep) : PlayerSystem := { s with actor := actorStep config s.actor step }

/-- A call comes with a submission, up to the actor's lock. -/
def submit (submission : PlayerSubmission) (claim : Option ℕ) (initialized wait forever : Bool) :
    PlayerSystem :=
  match submission.command initialized s.ownership with
  | .error _ => s
  | .ok command =>
    if s.Presents command claim ∧ commandValid command = true then
      { s.act config (.create command wait forever) with
        carried := Function.update s.carried s.actor.created claim }
    else s

/-- A submission of the worker that waits. -/
def direct (submission : PlayerSubmission) (claim : Option ℕ) (initialized : Bool) : PlayerSystem :=
  match submission.command initialized s.ownership with
  | .error _ => s
  | .ok command =>
    let next := s.act config (.directBegin command)
    if s.Presents command claim ∧ next.actor.directs ≠ s.actor.directs then
      { next with directs := claim :: s.directs }
    else s

/-- The validation of the worker's nested command. -/
def directValidated : PlayerSystem :=
  match s.actor.directs, s.directs with
  | .validating command _ :: _, claim :: claims =>
    if playerValidateActorCommand command s.ownership then
      { s.act config (.directValidated true) with passed := ⟨none, claim⟩ :: s.passed }
    else { s.act config (.directValidated false) with directs := claims }
  | _, _ => s

/-- The worker's nested command has been executed. -/
def directDone (ok : Bool) : PlayerSystem :=
  match s.actor.directs, s.directs with
  | .executing command _ :: _, _ :: claims =>
    { s.act config .directDone with
      ownership := (playerExecuteOnOwnership command ok s.ownership).2
      directs := claims }
  | _, _ => s

/-- The validation of the command that the worker has taken. -/
def validated : PlayerSystem :=
  match s.actor.worker with
  | .validating key _ =>
    match s.actor.requests key with
    | none => s.act config (.validated false)
    | some request =>
      if s.actor.directs ≠ [] then s
      else
        let judged := if s.Superseded (s.carried key) then key :: s.judged else s.judged
        if playerValidateActorCommand request.command s.ownership then
          { s.act config (.validated true) with
            passed := ⟨some key, s.carried key⟩ :: s.passed
            judged }
        else { s.act config (.validated false) with judged }
  | _ => s

/-- The command has been executed. -/
def executed (ok : Bool) : PlayerSystem :=
  match s.actor.worker with
  | .executing key _ =>
    match s.actor.requests key with
    | none => s.act config (.executed ok)
    | some request =>
      if s.actor.directs ≠ [] then s
      else
        let (ok, ownership) := playerExecuteOnOwnership request.command ok s.ownership
        { s.act config (.executed ok) with ownership }
  | _ => s

end PlayerSystem

/-- The step is one of the actor alone. -/
def ActorStep.isInner : ActorStep → Bool
  | create _ _ _ | directBegin _ | directValidated _ | directDone | validated _ | executed _ => false
  | _ => true

/-- A step of some thread. -/
inductive PlayerStep where
  | claim (owner : PlayerMediaOwner) (token : UInt64)
  | release (lease : PlayerOwnershipLease)
  | releaseCurrent (owner : PlayerMediaOwner) (token : UInt64)
  | reset
  | submit (submission : PlayerSubmission) (claim : Option ℕ) (initialized wait forever : Bool)
  | direct (submission : PlayerSubmission) (claim : Option ℕ) (initialized : Bool)
  | directValidated
  | directDone (ok : Bool)
  | validated
  | executed (ok : Bool)
  | actor (step : ActorStep)

/-- What a step does; one that its thread cannot take does nothing. -/
def playerStep (config : MediaActorConfig) (s : PlayerSystem) : PlayerStep → PlayerSystem
  | .claim owner token =>
    { s with ownership := (playerOwnershipClaim owner token s.ownership).2 }
  | .release lease => { s with ownership := (playerOwnershipRelease lease s.ownership).2 }
  | .releaseCurrent owner token =>
    { s with ownership := (playerOwnershipReleaseCurrent owner token s.ownership).2 }
  | .reset => { s with ownership := playerOwnershipReset s.ownership }
  | .submit submission claim initialized wait forever =>
    s.submit config submission claim initialized wait forever
  | .direct submission claim initialized => s.direct config submission claim initialized
  | .directValidated => s.directValidated config
  | .directDone ok => s.directDone config ok
  | .validated => s.validated config
  | .executed ok => s.executed config ok
  | .actor step => if step.isInner then s.act config step else s

/-- The states of the runs of the player. -/
def PlayerReachable (config : MediaActorConfig) (s : PlayerSystem) : Prop :=
  Runs.Reachable (playerStep config) .initial (fun _ _ => True) s

end NXCast
