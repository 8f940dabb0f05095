import NXCast.Framework.Interleaving
import NXCast.Media.RemoteHls

/-!
# Remote video

The functions of `remote_video.c` as thread programs.  A section under the mutex is one `act`,
with the callbacks made inside it; a callback outside the mutex and a call of the HLS store are
one `act` each.  What a callback answers is asked for in front of the section that uses it.

Beside the module the shared state has what the callbacks read (the player's snapshot and the
port of the server), and the history of the callbacks with the place the module was in when each
was made.  A successful claim of the player has a number, its place among the successful
claims: `ownerClaimed` is the source's flag with the number of the claim it stands for, and a
release names the claim it gives back.

`double` arithmetic, and with it the parsing and printing of numbers, is a parameter; an `ops`
entry that may be missing is a flag.
-/

namespace NXCast

open Interleaving

/-! ## Data -/

/-- `AirPlayRemoteVideoState` -/
inductive AirPlayRemoteVideoState where
  | idle
  | loading
  | buffering
  | playing
  | paused
  | stopped
  | error
deriving DecidableEq

/-- `AirPlayRemoteVideoSnapshot` -/
structure AirPlayRemoteVideoSnapshot where
  hasMedia : Bool
  seekable : Bool
  positionMs : ℤ
  durationMs : ℤ
  state : AirPlayRemoteVideoState
deriving DecidableEq

/-- `AirPlayRemotePlayRequest` -/
structure AirPlayRemotePlayRequest (ν : Type) where
  url : List UInt8
  metadata : List UInt8
  startValue : ν
  startIsFraction : Bool
  hasStart : Bool

/-- The operations on `double`. -/
structure RemoteVideoDouble (ν : Type) where
  zero : ν
  one : ν
  /-- `value > 0.0` -/
  positive : ν → Bool
  /-- `value == 0.0` -/
  isZero : ν → Bool
  /-- `value == 1.0` -/
  isOne : ν → Bool
  /-- `(int)(value * 1000.0 + 0.5)` -/
  milliseconds : ν → ℤ
  /-- `(int)(value * duration + 0.5)` -/
  fractionOf : ν → ℤ → ℤ

/-- Which entries of `AirPlayRemoteVideoOps` there are, and the functions that read and print
numbers. -/
structure AirPlayRemoteVideoConfig (ν : Type) where
  claimOwner : Bool
  releaseOwner : Bool
  controlAttached : Bool
  controlDetached : Bool
  sendReverseRequest : Bool
  controlPort : Bool
  double : RemoteVideoDouble ν
  /-- `parse_play_request` -/
  parsePlayRequest : AirPlayRtspRequest → Option (AirPlayRemotePlayRequest ν)
  /-- `query_number` -/
  queryNumber : CString → String → Option ν
  /-- The body of a `/scrub` response. -/
  scrubBody : AirPlayRemoteVideoSnapshot → Option (List UInt8)
  /-- The body of a `/playback-info` response, with the requested rate. -/
  playbackInfoBody : AirPlayRemoteVideoSnapshot → ν → Option (List UInt8)

/-- `AirPlayRemoteVideoSessionState` -/
inductive AirPlayRemoteVideoSessionState where
  | idle
  | pendingHls
  | active
deriving DecidableEq

/-- `AirPlayRemoteVideo` -/
structure AirPlayRemoteVideo (ν : Type) where
  ownerSessionId : UInt64
  generation : UInt32
  pendingSeekMs : ℤ
  pendingScrubMs : ℤ
  pendingFraction : ν
  requestedRate : ν
  pendingSeek : Bool
  pendingFractionSeek : Bool
  pendingScrub : Bool
  state : AirPlayRemoteVideoSessionState
  ownerClaimed : Option ℕ
  controlAttached : Bool
  pendingMetadata : List UInt8
  hls : AirPlayRemoteHls

/-- What a section compares before it goes on. -/
structure RemoteVideoPlace where
  state : AirPlayRemoteVideoSessionState
  ownerSessionId : UInt64
  generation : UInt32
deriving DecidableEq

/-- Where the module is. -/
def AirPlayRemoteVideo.place {ν : Type} (remote : AirPlayRemoteVideo ν) : RemoteVideoPlace :=
  ⟨remote.state, remote.ownerSessionId, remote.generation⟩

/-- A callback, with its answer where it has one. -/
inductive RemoteVideoOp where
  | claimOwner (granted : Bool)
  | releaseOwner (claim : Option ℕ)
  | controlAttached
  | controlDetached
  | load (url metadata : List UInt8)
  | play
  | pause
  | stop
  | seekMs (positionMs : ℤ)
  | sendReverseRequest (event : AirPlayRemoteHlsEvent)
deriving DecidableEq

/-- The function that makes a callback. -/
inductive RemoteVideoHandler where
  | route
  | play
  | action
  | rate
  | scrub
  | playbackInfo
  | terminate
  | closed
deriving DecidableEq

/-- A callback that was made: by whom, for which session and, where the function goes by one,
which generation, and where the module was. -/
structure RemoteVideoEvent where
  op : RemoteVideoOp
  handler : RemoteVideoHandler
  session : UInt64
  generation : Option UInt32
  place : RemoteVideoPlace
deriving DecidableEq

/-- The sessions for which the player was claimed, in order. -/
def grantedClaims (trace : List RemoteVideoEvent) : List UInt64 :=
  trace.filterMap fun event =>
    match event.op with
    | .claimOwner true => some event.session
    | _ => none

/-- The releases of the player, in order. -/
def releasedClaims (trace : List RemoteVideoEvent) : List (Option ℕ × UInt64) :=
  trace.filterMap fun event =>
    match event.op with
    | .releaseOwner claim => some (claim, event.session)
    | _ => none

/-- The module, what its callbacks read, and its history: the callbacks it has made, how often
the generation has changed, and how many `/play` requests that go on with the owner of their
session are between their two locked sections. -/
structure RemoteVideoWorld (ν : Type) where
  remote : AirPlayRemoteVideo ν
  player : AirPlayRemoteVideoSnapshot
  controlPort : UInt16
  trace : List RemoteVideoEvent
  changes : ℕ
  continuing : ℕ

namespace RemoteVideoWorld

variable {ν : Type}

/-- A callback is made. -/
def record (handler : RemoteVideoHandler) (session : UInt64) (generation : Option UInt32)
    (op : RemoteVideoOp) (world : RemoteVideoWorld ν) : RemoteVideoWorld ν :=
  { world with trace := world.trace ++ [⟨op, handler, session, generation, world.remote.place⟩] }

/-- `remote->generation++` -/
def nextGeneration (world : RemoteVideoWorld ν) : RemoteVideoWorld ν :=
  { world with
    remote := { world.remote with generation := world.remote.generation + 1 }
    changes := world.changes + 1 }

/-- `clear_owner_locked` -/
def clearOwner (config : AirPlayRemoteVideoConfig ν) (world : RemoteVideoWorld ν) :
    RemoteVideoWorld ν :=
  { world with
    remote := { world.remote with
      ownerSessionId := 0
      pendingSeekMs := 0
      pendingFraction := config.double.zero
      requestedRate := config.double.zero
      pendingSeek := false
      pendingFractionSeek := false
      pendingScrubMs := 0
      pendingScrub := false
      pendingMetadata := []
      state := .idle
      ownerClaimed := none
      controlAttached := false } }

/-- A module as `airplay_remote_video_create` makes it. -/
def initial (config : AirPlayRemoteVideoConfig ν) (player : AirPlayRemoteVideoSnapshot)
    (controlPort : UInt16) : RemoteVideoWorld ν where
  remote := ⟨0, 0, 0, 0, config.double.zero, config.double.zero, false, false, false, .idle, none,
    false, [], .cleared⟩
  player := player
  controlPort := controlPort
  trace := []
  changes := 0
  continuing := 0

end RemoteVideoWorld

/-! ## Callbacks and the HLS store -/

/-- A program of the module. -/
abbrev RemoteVideoThread (ν : Type) := Thread (RemoteVideoWorld ν)

namespace RemoteVideo

section Programs

variable {ν : Type} (config : AirPlayRemoteVideoConfig ν) (handler : RemoteVideoHandler)
  (session : UInt64) (generation : Option UInt32)

/-- A callback that returns nothing. -/
def notify (op : RemoteVideoOp) : RemoteVideoThread ν Unit :=
  Thread.modify (·.record handler session generation op)

/-- A callback that returns whether it succeeded. -/
def callback (op : RemoteVideoOp) : RemoteVideoThread ν Bool := do
  let answer ← Thread.answer
  notify handler session generation op
  return answer

/-- `release_owner`, where there is one. -/
def releaseOwner (claim : Option ℕ) : RemoteVideoThread ν Unit :=
  if config.releaseOwner then notify handler session generation (.releaseOwner claim)
  else pure ()

/-- `claim_owner`: the number of the claim if it is granted. -/
def claimOwner : RemoteVideoThread ν (Option ℕ) := do
  let granted ← Thread.answer
  Thread.atomic fun world =>
    (if granted then some (grantedClaims world.trace).length else none,
      world.record handler session generation (.claimOwner granted))

/-- A call of the HLS store that changes it. -/
def resetHls (hlsSession : UInt64) (hlsGeneration : UInt32) : RemoteVideoThread ν Unit :=
  Thread.modify fun world =>
    { world with remote := { world.remote with
      hls := airplayRemoteHlsReset hlsSession hlsGeneration world.remote.hls } }

/-- `send_hls_event` -/
def sendHlsEvent (event : AirPlayRemoteHlsEvent) : RemoteVideoThread ν Bool :=
  if config.sendReverseRequest = false ∨ event.body = [] then pure false
  else callback handler session generation (.sendReverseRequest event)

/-! ## Giving up -/

/-- A playback that ends: it was active, and the claim it held. -/
structure RemoteVideoEnd where
  active : Bool
  claim : Option ℕ

/-- What follows on the end of a playback of `session`, outside the mutex. -/
def finishPlayback (hlsGeneration : UInt32) (ended : RemoteVideoEnd) :
    RemoteVideoThread ν Bool := do
  resetHls session hlsGeneration
  let stopped ← (if ended.active then callback handler session (some hlsGeneration) .stop
    else pure true)
  (match ended.claim with
    | some claim => releaseOwner config handler session (some hlsGeneration) (some claim)
    | none => pure ())
  return stopped

/-- The locked section of `fail_generation`. -/
def failGenerationSection (failed : UInt32) (world : RemoteVideoWorld ν) :
    RemoteVideoEnd × RemoteVideoWorld ν :=
  if world.remote.state ≠ .idle ∧ world.remote.ownerSessionId = session ∧
      world.remote.generation = failed then
    (⟨world.remote.state = .active, world.remote.ownerClaimed⟩,
      (world.clearOwner config).nextGeneration)
  else (⟨false, none⟩, world)

/-- `fail_generation` -/
def failGeneration (failed : UInt32) : RemoteVideoThread ν Unit := do
  let ended ← Thread.atomic (failGenerationSection config session failed)
  let _ ← finishPlayback config handler session failed ended
  return ()

variable (world : RemoteVideoWorld ν)

/-- The locked section of `terminate_session`. -/
def terminateSection :
    Option (UInt32 × RemoteVideoEnd) × RemoteVideoWorld ν :=
  if world.remote.state ≠ .idle ∧ world.remote.ownerSessionId = session then
    (some (world.remote.generation, ⟨world.remote.state = .active, world.remote.ownerClaimed⟩),
      (world.clearOwner config).nextGeneration)
  else (none, world)

/-- `terminate_session`, with `*stopped_out` where it returns `true`. -/
def terminateSession : RemoteVideoThread ν (Option Bool) := do
  if session = 0 then return none
  else
    match ← Thread.atomic (terminateSection config session) with
    | none => return none
    | some (ended, stop) =>
      let stopped ← finishPlayback config .terminate session ended stop
      return some stopped

/-! ## `/play` -/

/-- What `handle_play` keeps of its first locked section: its generation, whether it goes on with
the claim of its own session, and the playback it replaces. -/
structure PlayLocals where
  generation : UInt32
  reuseOwner : Bool
  replaced : Option (UInt64 × UInt32 × RemoteVideoEnd)

/-- The first locked section of `handle_play`. -/
def playSection (play : AirPlayRemotePlayRequest ν) (reverseHls : Bool)
    (world : RemoteVideoWorld ν) : PlayLocals × RemoteVideoWorld ν :=
  let remote := world.remote
  let reuseOwner := !reverseHls && remote.state = .active && remote.ownerSessionId = session &&
    remote.ownerClaimed.isSome
  let replaceOwner := remote.state ≠ .idle && !reuseOwner
  let pendingSeek := play.hasStart && !play.startIsFraction &&
    config.double.positive play.startValue
  let pendingFractionSeek := play.hasStart && play.startIsFraction &&
    config.double.positive play.startValue
  (⟨remote.generation + 1, reuseOwner,
      if replaceOwner then some (remote.ownerSessionId, remote.generation,
        ⟨remote.state = .active, remote.ownerClaimed⟩)
      else none⟩,
    { world with
      remote := { remote with
        state := if reverseHls then .pendingHls else .active
        ownerClaimed := if reuseOwner then remote.ownerClaimed else none
        ownerSessionId := session
        requestedRate := config.double.one
        pendingSeek
        pendingSeekMs := if pendingSeek then config.double.milliseconds play.startValue else 0
        pendingFractionSeek
        pendingFraction := if pendingFractionSeek then play.startValue else config.double.zero
        pendingMetadata := play.metadata }
      continuing := if reuseOwner then world.continuing + 1 else world.continuing }.nextGeneration)

/-- The part of `handle_play` between its locked sections. -/
def endReplaced (locals : PlayLocals) : RemoteVideoThread ν Unit := do
  (match locals.replaced with
    | some (previousSession, previousGeneration, ended) => do
      let _ ← finishPlayback config .play previousSession previousGeneration ended
      return ()
    | none => pure ())
  resetHls 0 0

/-- `handle_play` of a locator, from the first locked section on. -/
def playHls (play : AirPlayRemotePlayRequest ν) (controlPort : UInt16) (appleSessionId : CString)
    (response : AirPlayRtspResponse) : RemoteVideoThread ν (Option AirPlayRtspResponse) := do
  let locals ← Thread.atomic (playSection config session play true)
  endReplaced config locals
  let begun ← Thread.atomic fun world =>
    let (hls, event) := airplayRemoteHlsBegin session locals.generation controlPort
      appleSessionId.bytes play.url world.remote.hls
    (event, { world with remote := { world.remote with hls } })
  let accepted ← (match begun with
    | some event => sendHlsEvent config .play session (some locals.generation) event
    | none => pure false)
  if accepted then return some response
  else
    failGeneration config .play session locals.generation
    return response.setStatus 503

/-- How the second locked section of `handle_play`, or that of `handle_action`, ends. -/
inductive StartOutcome where
  | stale
  | refused
  | failed (claim : Option ℕ)
  | started

/-- `load` and, if it succeeds, `play`, under the mutex: the module goes on with `started` or is
cleared. -/
def startPlayback (url metadata : List UInt8) (loaded played : Bool) (going : UInt32)
    (claim : Option ℕ) (world : RemoteVideoWorld ν) : StartOutcome × RemoteVideoWorld ν :=
  let world := world.record handler session (some going) (.load url metadata)
  let world := if loaded then world.record handler session (some going) .play else world
  if loaded && played then (.started, world)
  else (.failed claim, (world.clearOwner config).nextGeneration)

/-- The second locked section of `handle_play`. -/
def completePlaySection (play : AirPlayRemotePlayRequest ν) (locals : PlayLocals)
    (claim : Option ℕ) (loaded played : Bool) (world : RemoteVideoWorld ν) :
    StartOutcome × RemoteVideoWorld ν :=
  let world :=
    { world with continuing := if locals.reuseOwner then world.continuing - 1 else world.continuing }
  if world.remote.place ≠ ⟨.active, session, locals.generation⟩ then (.stale, world)
  else if locals.reuseOwner then
    startPlayback config .play session play.url play.metadata loaded played locals.generation
      world.remote.ownerClaimed
      { world with remote := { world.remote with controlAttached := true } }
  else if config.claimOwner then
    startPlayback config .play session play.url play.metadata loaded played locals.generation claim
      { world with remote := { world.remote with ownerClaimed := claim, controlAttached := true } }
  else
    startPlayback config .play session play.url play.metadata loaded played locals.generation none
      world

/-- The locked section of a `/play` whose claim is refused. -/
def refusedSection (locals : PlayLocals) (world : RemoteVideoWorld ν) : RemoteVideoWorld ν :=
  if world.remote.generation = locals.generation ∧ world.remote.ownerSessionId = session then
    world.clearOwner config
  else world

/-- `handle_play` of a URL, once the player is claimed where that is called for. -/
def completePlay (play : AirPlayRemotePlayRequest ν) (locals : PlayLocals) (claim : Option ℕ)
    (response : AirPlayRtspResponse) : RemoteVideoThread ν (Option AirPlayRtspResponse) := do
  let loaded ← Thread.answer
  let played ← Thread.answer
  match ← Thread.atomic
    (completePlaySection config session play locals claim loaded played) with
  | .started => return some response
  | .failed claim =>
    let _ ← callback .play session (some locals.generation) .stop
    (match claim with
      | some claim => releaseOwner config .play session (some locals.generation) (some claim)
      | none => pure ())
    return response.setStatus 503
  | _ =>
    -- the owner is released whether it was claimed here or reused
    if config.claimOwner then
      releaseOwner config .play session (some locals.generation) claim
      return response.setStatus 409
    else return response.setStatus 409

/-- `handle_play` of a URL, from the first locked section on. -/
def playDirect (play : AirPlayRemotePlayRequest ν) (response : AirPlayRtspResponse) :
    RemoteVideoThread ν (Option AirPlayRtspResponse) := do
  let locals ← Thread.atomic (playSection config session play false)
  endReplaced config locals
  if locals.reuseOwner = false ∧ config.claimOwner = true then
    match ← claimOwner .play session (some locals.generation) with
    | none =>
      Thread.modify (refusedSection config session locals)
      return response.setStatus 409
    | some claim => completePlay config session play locals (some claim) response
  else completePlay config session play locals none response

variable (request : AirPlayRtspRequest)

variable (response : AirPlayRtspResponse)

/-- `handle_play` -/
def handlePlay :
    RemoteVideoThread ν (Option AirPlayRtspResponse) := do
  if request.method ≠ cstring "POST" then return response.setStatus 405
  else
    match config.parsePlayRequest request with
    | none => return response.setStatus 400
    | some play =>
      if airplayRemoteHlsLocatorSupported play.url then
        match airplayRtspRequestHeader request.headers (cstring "X-Apple-Session-ID") with
        | none => return response.setStatus 503
        | some appleSessionId =>
          if config.sendReverseRequest = false ∨ config.controlPort = false then
            return response.setStatus 503
          else
            let controlPort ← Thread.get (·.controlPort)
            if controlPort = 0 then return response.setStatus 503
            else playHls config session play controlPort appleSessionId response
      else playDirect config session play response

/-! ## `/action` -/

/-- Whether the HLS play of a session and a generation is still pending. -/
def hlsPending (going : UInt32) (world : RemoteVideoWorld ν) : Bool :=
  world.remote.place = ⟨.pendingHls, session, going⟩

/-- The locked section of `handle_action` that starts the playback. -/
def readySection (action : AirPlayRemoteHlsAction) (granted loaded played : Bool)
    (world : RemoteVideoWorld ν) : StartOutcome × RemoteVideoWorld ν :=
  if hlsPending session action.generation world = false then (.stale, world)
  else
    let claim := (grantedClaims world.trace).length
    let world := world.record .action session (some action.generation) (.claimOwner granted)
    if granted = false then (.refused, world)
    else
      startPlayback config .action session action.playbackUrl world.remote.pendingMetadata loaded
        played action.generation (some claim)
        { world with remote := { world.remote with
            state := .active
            ownerClaimed := some claim
            controlAttached := true } }

/-- `handle_action` on a READY of the HLS store. -/
def handleReady (action : AirPlayRemoteHlsAction) (response : AirPlayRtspResponse) :
    RemoteVideoThread ν (Option AirPlayRtspResponse) := do
  if config.claimOwner = false then
    if ← Thread.get (hlsPending session action.generation) then
      failGeneration config .action session action.generation
      return response.setStatus 503
    else return response.setStatus 409
  else
    let granted ← Thread.answer
    let loaded ← Thread.answer
    let played ← Thread.answer
    match ← Thread.atomic (readySection config session action granted loaded played) with
    | .stale => return response.setStatus 409
    | .refused =>
      failGeneration config .action session action.generation
      return response.setStatus 409
    | .failed claim =>
      let _ ← finishPlayback config .action session action.generation ⟨true, claim⟩
      return response.setStatus 503
    | .started => return some response

/-- `handle_action` -/
def handleAction :
    RemoteVideoThread ν (Option AirPlayRtspResponse) := do
  if request.method ≠ cstring "POST" then return response.setStatus 405
  else if contentTypeIs request "application/x-apple-binary-plist" = false then
    return response.setStatus 400
  else
    let (action, result) ← Thread.atomic fun world =>
      let (hls, action, result) :=
        airplayRemoteHlsHandleAction session request.body world.remote.hls
      ((action, result), { world with remote := { world.remote with hls } })
    if result ≠ .ok then return response.setStatus 400
    else
      match action.kind with
      | .ack => return some response
      | .requestNext =>
        if ← Thread.get (hlsPending session action.generation) then
          let accepted ← (match action.event with
            | some event => sendHlsEvent config .action session (some action.generation) event
            | none => pure false)
          if accepted then return some response
          else
            failGeneration config .action session action.generation
            return response.setStatus 503
        else return response.setStatus 409
      | .ready => handleReady config session action response

/-! ## `/rate`, `/scrub` and `/playback-info` -/

/-- `session_owned` -/
def sessionOwned : Bool :=
  world.remote.state = .active ∧ world.remote.ownerSessionId = session

/-- `session_hls_pending` -/
def sessionHlsPending : Bool :=
  world.remote.state = .pendingHls ∧ world.remote.ownerSessionId = session

/-- `session_bound` -/
def sessionBound : Bool :=
  world.remote.state ≠ .idle ∧ world.remote.ownerSessionId = session

/-- The `snapshot` callback. -/
def readSnapshot : RemoteVideoThread ν (Option AirPlayRemoteVideoSnapshot) := do
  let answer ← Thread.answer
  let player ← Thread.get (·.player)
  return if answer then some player else none

/-- The locked section of `apply_pending_seek`. -/
def pendingSeekSection (snapshot : AirPlayRemoteVideoSnapshot) (world : RemoteVideoWorld ν) :
    Option ℤ × RemoteVideoWorld ν :=
  if sessionOwned session world then
    let remote := world.remote
    (if remote.pendingScrub then some remote.pendingScrubMs
      else if remote.pendingSeek then some remote.pendingSeekMs
      else if remote.pendingFractionSeek then
        some (config.double.fractionOf remote.pendingFraction snapshot.durationMs)
      else none,
      { world with remote := { remote with
          pendingScrub := false
          pendingSeek := false
          pendingFractionSeek := false } })
  else (none, world)

/-- `apply_pending_seek` -/
def applyPendingSeek (snapshot : AirPlayRemoteVideoSnapshot) : RemoteVideoThread ν Bool := do
  if snapshot.seekable = false ∨ snapshot.durationMs ≤ 0 then return true
  else
    match ← Thread.atomic (pendingSeekSection config session snapshot) with
    | none => return true
    | some target => callback handler session none (.seekMs (min target snapshot.durationMs))

/-- `snapshot_for_session` -/
def snapshotForSession : RemoteVideoThread ν (Option AirPlayRemoteVideoSnapshot) := do
  if ← Thread.get (sessionOwned session) then
    match ← readSnapshot with
    | none => return none
    | some snapshot =>
      if ← applyPendingSeek config handler session snapshot then readSnapshot
      else return none
  else return none

/-- The locked section of `handle_rate`: whether the play is still pending. -/
def rateSection (rate : ν) (world : RemoteVideoWorld ν) : Bool × RemoteVideoWorld ν :=
  (sessionHlsPending session world,
    if sessionBound session world then
      { world with remote := { world.remote with requestedRate := rate } }
    else world)

/-- `handle_rate` -/
def handleRate :
    RemoteVideoThread ν (Option AirPlayRtspResponse) := do
  if request.method ≠ cstring "POST" then return response.setStatus 405
  else if ← Thread.get (sessionBound session) then
    match (config.queryNumber request.uri "value").or (config.queryNumber request.uri "rate") with
    | none => return response.setStatus 400
    | some rate =>
      if config.double.isZero rate = false ∧ config.double.isOne rate = false then
        return response.setStatus 400
      else if ← Thread.atomic (rateSection session rate) then return some response
      else if ← callback .rate session none (if config.double.isZero rate then .pause else .play)
      then return some response
      else return response.setStatus 503
  else return response.setStatus 409

/-- The first locked section of a POST in `handle_scrub`: whether the play is pending, and whether
it is active. -/
def scrubSection (positionMs : ℤ) (world : RemoteVideoWorld ν) :
    (Bool × Bool) × RemoteVideoWorld ν :=
  ((sessionHlsPending session world, sessionOwned session world),
    if sessionHlsPending session world then
      { world with remote := { world.remote with
          pendingScrubMs := positionMs
          pendingScrub := true } }
    else world)

/-- The last locked section of a POST in `handle_scrub`. -/
def scrubbedSection : RemoteVideoWorld ν :=
  if sessionOwned session world then
    { world with remote := { world.remote with
        pendingScrub := false
        pendingSeek := false
        pendingFractionSeek := false } }
  else world

/-- `handle_scrub` -/
def handleScrub :
    RemoteVideoThread ν (Option AirPlayRtspResponse) := do
  if ← Thread.get (sessionBound session) then
    if request.method = cstring "POST" then
      match config.queryNumber request.uri "position" with
      | none => return response.setStatus 400
      | some seconds =>
        let positionMs := config.double.milliseconds seconds
        let (pending, owned) ← Thread.atomic (scrubSection session positionMs)
        if pending then return some response
        else if owned = false then return response.setStatus 409
        else if ← callback .scrub session none (.seekMs positionMs) then
          Thread.modify (scrubbedSection session)
          return some response
        else return response.setStatus 503
    else if request.method = cstring "GET" then
      match ← snapshotForSession config .scrub session with
      | none => return response.setStatus 503
      | some snapshot =>
        return (config.scrubBody snapshot).bind (response.setBody · (cstring "text/parameters"))
    else return response.setStatus 405
  else return response.setStatus 409

/-- The snapshot of an HLS play that is still pending. -/
def loadingSnapshot : AirPlayRemoteVideoSnapshot := ⟨false, false, 0, 0, .loading⟩

/-- `handle_playback_info` -/
def handlePlaybackInfo :
    RemoteVideoThread ν (Option AirPlayRtspResponse) := do
  if request.method ≠ cstring "GET" then return response.setStatus 405
  else
    let pending ← Thread.get (sessionHlsPending session)
    let snapshot ← (if pending then pure (some loadingSnapshot)
      else snapshotForSession config .playbackInfo session)
    match snapshot with
    | none => return response.setStatus 503
    | some snapshot =>
      let requestedRate ← Thread.get (·.remote.requestedRate)
      match config.playbackInfoBody snapshot requestedRate with
      | none => return response.setStatus 500
      | some body => return response.setBody body (cstring "text/x-apple-plist+xml")

/-! ## Routing -/

/-- `handle_stop` -/
def handleStop :
    RemoteVideoThread ν (Option AirPlayRtspResponse) := do
  if request.method ≠ cstring "POST" then return response.setStatus 405
  else
    match ← terminateSession config session with
    | none => return response.setStatus 409
    | some stopped => return if stopped then some response else response.setStatus 503

/-- The locked section of `airplay_remote_video_route`. -/
def reattachSection : Bool × RemoteVideoWorld ν :=
  if sessionOwned session world ∧ world.remote.controlAttached = false then
    (true, { world with remote := { world.remote with controlAttached := true } })
  else (false, world)

/-- A URI, alone or with a query. -/
def uriIs (uri : CString) (path : String) : Bool :=
  uri = cstring path || (asciiBytes path ++ asciiBytes "?").isPrefixOf uri.bytes

/-- `airplay_remote_video_route`, with `*handled_out`. -/
def airplayRemoteVideoRoute :
    RemoteVideoThread ν (Option (Bool × AirPlayRtspResponse)) := do
  if session = 0 then return none
  else
    let reattached ← Thread.atomic (reattachSection session)
    (if reattached && config.controlAttached then notify .route session none .controlAttached
      else pure ())
    if request.uri = cstring "/play" then
      return (← handlePlay config session request response).map (true, ·)
    else if request.uri = cstring "/action" then
      return (← handleAction config session request response).map (true, ·)
    else if uriIs request.uri "/rate" then
      return (← handleRate config session request response).map (true, ·)
    else if uriIs request.uri "/scrub" then
      return (← handleScrub config session request response).map (true, ·)
    else if request.uri = cstring "/playback-info" then
      return (← handlePlaybackInfo config session request response).map (true, ·)
    else if request.uri = cstring "/stop" then
      return (← handleStop config session request response).map (true, ·)
    else return some (false, response)

/-- How `airplay_remote_video_session_closed` leaves its locked section. -/
inductive ClosedOutcome where
  | pending (generation : UInt32)
  | detached
  | other

/-- The locked section of `airplay_remote_video_session_closed`. -/
def closedSection : ClosedOutcome × RemoteVideoWorld ν :=
  if sessionHlsPending session world then
    (.pending world.remote.generation, (world.clearOwner config).nextGeneration)
  else if sessionOwned session world ∧ world.remote.controlAttached = true then
    (.detached, { world with remote := { world.remote with controlAttached := false } })
  else (.other, world)

/-- `airplay_remote_video_session_closed` -/
def airplayRemoteVideoSessionClosed : RemoteVideoThread ν Unit := do
  if session = 0 then return ()
  else
    match ← Thread.atomic (closedSection config session) with
    | .pending generation => resetHls session generation
    | .detached =>
      if config.controlDetached then notify .closed session none .controlDetached
      else pure ()
    | .other => return ()

/-- `airplay_remote_video_terminate_session` -/
def airplayRemoteVideoTerminateSession : RemoteVideoThread ν Bool := do
  return (← terminateSession config session) = some true

/-- `airplay_remote_video_relinquish_session` -/
def airplayRemoteVideoRelinquishSession : RemoteVideoThread ν Bool := do
  if session = 0 then return false
  else
    match ← Thread.atomic (terminateSection config session) with
    | none => return false
    | some (generation, _) =>
      resetHls session generation
      return true

end Programs

end RemoteVideo

/-! ## Calls -/

/-- A call of the module, or a change of what its callbacks read. -/
inductive RemoteVideoCall where
  | route (session : UInt64) (request : AirPlayRtspRequest) (response : AirPlayRtspResponse)
  | sessionClosed (session : UInt64)
  | terminateSession (session : UInt64)
  | relinquishSession (session : UInt64)
  | environment (player : AirPlayRemoteVideoSnapshot) (controlPort : UInt16)

open RemoteVideo in
/-- What a call runs. -/
def RemoteVideoCall.program {ν : Type} (config : AirPlayRemoteVideoConfig ν) :
    RemoteVideoCall → RemoteVideoThread ν Unit
  | .route session request response => do
    let _ ← airplayRemoteVideoRoute config session request response
    return ()
  | .sessionClosed session => airplayRemoteVideoSessionClosed config session
  | .terminateSession session => do
    let _ ← airplayRemoteVideoTerminateSession config session
    return ()
  | .relinquishSession session => do
    let _ ← airplayRemoteVideoRelinquishSession config session
    return ()
  | .environment player controlPort =>
    Thread.modify fun world => { world with player, controlPort }

end NXCast
