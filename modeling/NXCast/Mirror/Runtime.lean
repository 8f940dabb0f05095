import Mathlib.Data.UInt

/-!
# The mirror runtime

`media/mirror_runtime.c`: the one runtime through which every AirPlay session opens its video and
audio receivers, and the queue of commands for the player.  Each definition here is one section
under `runtime->mutex`; what a call remembers from one of its sections to the next is an
attempt.

Mirror sessions, audio receivers, timing clients and stream bridges are known by the call that
created them.  What only a trace or a diagnostic counter reads is left out, and so is the audio
format, which is only handed on to a bridge.
-/

namespace NXCast

/-- `AirPlayStreamBridgeProfile` -/
inductive AirPlayStreamBridgeProfile where
  | videoAudio
  | audioOnly
deriving DecidableEq

/-- `AirPlayMirrorRuntimeStatus` -/
inductive AirPlayMirrorRuntimeStatus where
  | idle
  | preparing
  | waitingKeyframe
  | playing
  | disconnected
  | error
deriving DecidableEq

/-- `AirPlayRuntimeCommandType` -/
inductive AirPlayRuntimeCommandType where
  | load
  | replace
  | play
  | stop
  | audio
  | notify
deriving DecidableEq

/-- A stream bridge.  A call creates at most one of each profile. -/
structure RuntimeBridge where
  creator : ℕ
  profile : AirPlayStreamBridgeProfile
deriving DecidableEq

/-- A mirror session or an audio receiver. -/
structure RuntimeReceiver where
  creator : ℕ
  recording : Bool
deriving DecidableEq

/-- `airplay_mirror_session_set_recording(receiver, true)` -/
def RuntimeReceiver.record (receiver : RuntimeReceiver) : RuntimeReceiver :=
  { receiver with recording := true }

@[simp] lemma RuntimeReceiver.record_creator (receiver : RuntimeReceiver) :
    receiver.record.creator = receiver.creator := rfl

/-- `AirPlayRuntimeCommand` -/
structure AirPlayRuntimeCommand where
  type : AirPlayRuntimeCommandType
  generation : UInt32
  status : AirPlayMirrorRuntimeStatus := .idle
  bridge : Option RuntimeBridge := none
  previousGeneration : UInt32 := 0
deriving DecidableEq

/-- `AIRPLAY_RUNTIME_COMMAND_CAPACITY` -/
def commandCapacity : ℕ := 32

/-- `AirPlayMirrorRuntime`.  The ring of commands is the list of those that are queued. -/
structure AirPlayMirrorRuntime where
  commands : List AirPlayRuntimeCommand
  mirror : Option RuntimeReceiver
  audio : Option RuntimeReceiver
  audioFormatReady : Bool
  timing : Option ℕ
  bridge : Option RuntimeBridge
  audioBridge : Option RuntimeBridge
  transportSessionId : UInt64
  sessionId : UInt64
  generation : UInt32
  status : AirPlayMirrorRuntimeStatus
  opening : Bool
  recording : Bool
  playerLoadQueued : Bool
  playerPlayQueued : Bool
  audioAttachQueued : Bool
  usesNtpTiming : Bool
deriving DecidableEq

/-- What `airplay_mirror_runtime_open` remembers between its sections. -/
structure OpenAttempt where
  creator : ℕ
  sessionId : UInt64
  previousGeneration : UInt32
  generation : UInt32
  promotion : Bool
  hasAudio : Bool
deriving DecidableEq

/-- What `airplay_mirror_runtime_audio_open` remembers between its sections; `bridge` is the one
that the runtime had, if any. -/
structure AudioOpenAttempt where
  creator : ℕ
  sessionId : UInt64
  previousGeneration : UInt32
  generation : UInt32
  bridge : Option RuntimeBridge
deriving DecidableEq

/-- A generation is never 0. -/
def generationAfter (generation : UInt32) : UInt32 :=
  if generation + 1 = 0 then 1 else generation + 1

namespace AirPlayMirrorRuntime

/-- What `airplay_mirror_runtime_create` leaves. -/
def created : AirPlayMirrorRuntime :=
  { commands := [], mirror := none, audio := none, audioFormatReady := false, timing := none,
    bridge := none, audioBridge := none, transportSessionId := 0, sessionId := 0,
    generation := 0, status := .idle, opening := false, recording := false,
    playerLoadQueued := false, playerPlayQueued := false, audioAttachQueued := false,
    usesNtpTiming := false }

variable (runtime : AirPlayMirrorRuntime)

/-! ## The command queue -/

/-- `runtime_enqueue_locked` -/
def enqueue (command : AirPlayRuntimeCommand) : Bool × AirPlayMirrorRuntime :=
  if runtime.commands.length = commandCapacity then (false, runtime)
  else (true, { runtime with commands := runtime.commands ++ [command] })

/-- `runtime_set_status_locked` -/
def setStatus (status : AirPlayMirrorRuntimeStatus) : AirPlayMirrorRuntime :=
  if runtime.status = status then runtime
  else
    (enqueue { runtime with status }
      { type := .notify, generation := runtime.generation, status }).2

lemma enqueue_eq (command : AirPlayRuntimeCommand) :
    ∃ commands, (runtime.enqueue command).2 = { runtime with commands } := by
  rw [enqueue]
  split
  · exact ⟨runtime.commands, rfl⟩
  · exact ⟨_, rfl⟩

lemma setStatus_eq (status : AirPlayMirrorRuntimeStatus) :
    ∃ commands, runtime.setStatus status = { runtime with commands, status } := by
  rw [setStatus]
  split_ifs with hstat
  · subst hstat
    exact ⟨runtime.commands, rfl⟩
  · exact enqueue_eq _ _

/-- `runtime_generation_active` -/
def generationActive (generation : UInt32) : Bool :=
  runtime.sessionId ≠ 0 && runtime.generation = generation

/-- `runtime_command_complete` -/
def commandComplete (generation : UInt32) (ok : Bool)
    (successStatus : AirPlayMirrorRuntimeStatus) : AirPlayMirrorRuntime :=
  if runtime.generationActive generation then
    runtime.setStatus (if ok then successStatus else .error)
  else runtime

/-! ## Transport -/

variable (sessionId : UInt64)

/-- The section of `airplay_mirror_runtime_transport_prepare`. -/
def transportPrepare (timing : Option ℕ) (usesNtpTiming : Bool) :
    Option AirPlayMirrorRuntime :=
  if runtime.transportSessionId = 0 ∧ runtime.sessionId = 0 ∧ runtime.timing = none then
    some { runtime with transportSessionId := sessionId, timing, usesNtpTiming }
  else none

/-! ## Opening video -/

/-- The runtime has a bridge for audio alone. -/
def audioOnly : Bool := runtime.bridge.any fun bridge => bridge.profile = .audioOnly

/-- The first section of `airplay_mirror_runtime_open`. -/
def openBegin (creator : ℕ) (sessionId : UInt64) : Option (OpenAttempt × AirPlayMirrorRuntime) :=
  if runtime.opening ∨ runtime.mirror ≠ none ∨
      (runtime.transportSessionId ≠ 0 ∧ runtime.transportSessionId ≠ sessionId) ∨
      (runtime.sessionId ≠ 0 ∧ (runtime.sessionId ≠ sessionId ∨ !runtime.audioOnly)) then none
  else
    some
      ({ creator, sessionId
         previousGeneration := runtime.generation
         generation := generationAfter runtime.generation
         promotion := runtime.sessionId = sessionId
         hasAudio := runtime.audio.isSome && runtime.audioFormatReady },
       { runtime with opening := true })

/-- The runtime with the receiver and the bridges of an attempt. -/
def openInstalled (attempt : OpenAttempt) : AirPlayMirrorRuntime :=
  { runtime with
    mirror := some ⟨attempt.creator, false⟩
    bridge := some ⟨attempt.creator, .videoAudio⟩
    audioBridge := if attempt.hasAudio then some ⟨attempt.creator, .audioOnly⟩ else none
    audioAttachQueued := false
    transportSessionId := attempt.sessionId
    sessionId := attempt.sessionId
    generation := attempt.generation
    playerLoadQueued := false
    playerPlayQueued := false
    opening := false }

/-- The second section of `airplay_mirror_runtime_open`; `none` where it goes to `cleanup`. -/
def openInstall (attempt : OpenAttempt) : Option AirPlayMirrorRuntime :=
  if runtime.opening ∧ runtime.generation = attempt.previousGeneration ∧ runtime.mirror = none ∧
      (runtime.transportSessionId = 0 ∨ runtime.transportSessionId = attempt.sessionId) ∧
      ((!attempt.promotion ∧ runtime.sessionId = 0) ∨
        (attempt.promotion ∧ runtime.sessionId = attempt.sessionId ∧ runtime.audioOnly)) ∧
      (!runtime.recording ∨ runtime.commands.length < commandCapacity) then
    let installed := runtime.openInstalled attempt
    if runtime.recording && runtime.playerLoadQueued then
      let replaced := (installed.enqueue
        { type := .replace, generation := attempt.generation, bridge := installed.bridge
          previousGeneration := attempt.previousGeneration }).2
      some (setStatus { replaced with playerLoadQueued := true } .waitingKeyframe)
    else some (installed.setStatus .preparing)
  else none

/-- The section of `airplay_mirror_runtime_open` behind `cleanup`. -/
def openCleanup (attempt : OpenAttempt) : AirPlayMirrorRuntime :=
  if runtime.opening ∧ runtime.generation = attempt.previousGeneration then
    let cleared := { runtime with opening := false }
    if attempt.promotion then cleared else cleared.setStatus .error
  else runtime

/-- `airplay_mirror_session_set_recording` on the mirror session that a call has created, which
the runtime may have given up. -/
def recordMirror (creator : ℕ) : AirPlayMirrorRuntime :=
  { runtime with
    mirror := runtime.mirror.map fun mirror =>
      if mirror.creator = creator then mirror.record else mirror }

/-! ## Opening audio -/

/-- The first section of `airplay_mirror_runtime_audio_open`. -/
def audioOpenBegin (creator : ℕ) (sessionId : UInt64) :
    Option (AudioOpenAttempt × AirPlayMirrorRuntime) :=
  if runtime.opening ∨ runtime.audio ≠ none ∨ runtime.transportSessionId ≠ sessionId ∨
      (runtime.sessionId ≠ 0 ∧ runtime.sessionId ≠ sessionId) then none
  else
    some
      ({ creator, sessionId
         previousGeneration := runtime.generation
         generation :=
          if runtime.bridge = none then generationAfter runtime.generation else runtime.generation
         bridge := runtime.bridge },
       { runtime with opening := true })

/-- The runtime with the receiver of an attempt, and with a bridge for it beside the one that
there was. -/
def audioInstalled (attempt : AudioOpenAttempt) : AirPlayMirrorRuntime :=
  { runtime with
    audio := some ⟨attempt.creator, false⟩
    audioFormatReady := true
    audioBridge := if attempt.bridge = none then none else some ⟨attempt.creator, .audioOnly⟩
    audioAttachQueued := false
    opening := false }

/-- The runtime with a bridge for audio alone, which opens the session. -/
def audioBridgeInstalled (attempt : AudioOpenAttempt) : AirPlayMirrorRuntime :=
  { runtime with
    bridge := some ⟨attempt.creator, .audioOnly⟩
    sessionId := attempt.sessionId
    generation := attempt.generation
    playerLoadQueued := false
    playerPlayQueued := false }

/-- The second section of `airplay_mirror_runtime_audio_open`; `none` where it goes to
`cleanup`. -/
def audioOpenInstall (attempt : AudioOpenAttempt) : Option AirPlayMirrorRuntime :=
  if runtime.opening ∧ runtime.transportSessionId = attempt.sessionId ∧
      (runtime.sessionId = 0 ∨ runtime.sessionId = attempt.sessionId) ∧
      runtime.generation = attempt.previousGeneration ∧ runtime.audio = none ∧
      ((attempt.bridge = none ∧ runtime.bridge = none ∧ runtime.sessionId = 0) ∨
        (attempt.bridge ≠ none ∧ runtime.bridge = attempt.bridge)) then
    let installed := runtime.audioInstalled attempt
    if attempt.bridge = none then
      some ((installed.audioBridgeInstalled attempt).setStatus .preparing)
    else some installed
  else none

/-- The section of `airplay_mirror_runtime_audio_open` behind `cleanup`. -/
def audioOpenCleanup (attempt : AudioOpenAttempt) : AirPlayMirrorRuntime :=
  if runtime.opening ∧ runtime.generation = attempt.previousGeneration ∧
      runtime.transportSessionId = attempt.sessionId then
    { runtime with opening := false }
  else runtime

/-- `airplay_mirror_audio_set_recording` on the receiver that a call has created, which the
runtime may have given up. -/
def recordReceiver (creator : ℕ) : AirPlayMirrorRuntime :=
  { runtime with
    audio := runtime.audio.map fun audio =>
      if audio.creator = creator then audio.record else audio }

/-! ## Recording -/

/-- `airplay_mirror_runtime_record_audio` -/
def recordAudio : Option AirPlayMirrorRuntime :=
  if runtime.sessionId ≠ sessionId ∨ runtime.bridge = none ∨ runtime.audio = none ∨
      (runtime.mirror ≠ none ∧ !runtime.recording) ∨
      (runtime.mirror = none ∧ runtime.recording) then none
  else
    let started :=
      if runtime.mirror = none then
        { runtime with recording := true, playerLoadQueued := false, playerPlayQueued := false }
      else runtime
    some { started with audio := runtime.audio.map RuntimeReceiver.record }

/-- `airplay_mirror_runtime_record` -/
def record (sessionId : UInt64) : AirPlayMirrorRuntime :=
  if runtime.sessionId ≠ sessionId ∨ runtime.bridge = none ∨ runtime.mirror = none ∨
      runtime.playerLoadQueued then runtime
  else
    let started :=
      { runtime with
        recording := true
        playerLoadQueued := true
        mirror := runtime.mirror.map RuntimeReceiver.record
        audio := runtime.audio.map RuntimeReceiver.record }
    match started.enqueue
        { type := .load, generation := runtime.generation, bridge := runtime.bridge } with
    | (false, refused) => setStatus { refused with playerLoadQueued := false } .error
    | (true, queued) => queued.setStatus .waitingKeyframe

/-! ## The receivers' callbacks -/

/-- The first section of `runtime_video`: the generation in which the access unit is pushed. -/
def videoBegin : Option UInt32 :=
  if runtime.bridge ≠ none ∧ runtime.recording then some runtime.generation else none

/-- The last section of `runtime_video`. -/
def videoEnd (generation : UInt32) (pushed keyframe : Bool) : AirPlayMirrorRuntime :=
  if runtime.generation = generation ∧ runtime.recording then
    if !pushed then runtime.setStatus .error
    else if keyframe && !runtime.playerPlayQueued then
      match runtime.enqueue { type := .play, generation } with
      | (true, queued) => { queued with playerPlayQueued := true }
      | (false, refused) => refused.setStatus .error
    else runtime
  else runtime

/-- The first section of `runtime_audio`: the generation and the bridge for a frame that is
pushed.  Without a mirror the frame has no sink. -/
def audioBegin : Option (UInt32 × RuntimeBridge) :=
  if runtime.opening ∨ !runtime.audioFormatReady ∨ runtime.mirror = none then none
  else
    match runtime.audioBridge with
    | some bridge => if runtime.recording then some (runtime.generation, bridge) else none
    | none => none

/-- The last section of `runtime_audio`; `packets` says that the bridge has counted some. -/
def audioEnd (generation : UInt32) (bridge : RuntimeBridge) (pushed packets : Bool) :
    AirPlayMirrorRuntime :=
  if runtime.generation = generation ∧ runtime.recording ∧ runtime.audioBridge = some bridge then
    if pushed && runtime.playerLoadQueued && packets && !runtime.audioAttachQueued then
      match runtime.enqueue { type := .audio, generation, bridge } with
      | (true, queued) => { queued with audioAttachQueued := true }
      | (false, refused) => refused
    else runtime
  else runtime

/-! ## Stopping -/

/-- `airplay_mirror_runtime_stop_streams` takes receivers away. -/
def removeReceivers (video audio : Bool) : AirPlayMirrorRuntime :=
  { runtime with
    opening := true
    mirror := if video then none else runtime.mirror
    audio := if audio then none else runtime.audio
    audioFormatReady := !audio && runtime.audioFormatReady
    audioBridge := if audio then none else runtime.audioBridge }

/-- The session without video; the bridge of the audio stays, if the audio does. -/
def videoRemoved (hadVideo keepAudio : Bool) : AirPlayMirrorRuntime :=
  { runtime with
    bridge :=
      if hadVideo || !keepAudio then if hadVideo && keepAudio then runtime.audioBridge else none
      else runtime.bridge
    audioBridge := none
    sessionId := if keepAudio then sessionId else 0
    recording := keepAudio && runtime.recording
    playerLoadQueued := false
    playerPlayQueued := false }

/-- `airplay_mirror_runtime_stop_streams` leaves no video: the player is stopped, and the
generation ends. -/
def removeVideo (hadVideo keepAudio : Bool) : AirPlayMirrorRuntime :=
  let removed := runtime.videoRemoved sessionId hadVideo keepAudio
  let told :=
    if runtime.playerLoadQueued then
      (removed.enqueue { type := .stop, generation := runtime.generation }).2.setStatus
        .disconnected
    else removed
  { told with generation := generationAfter told.generation }

/-- The player gives up an audio bridge that has been attached to it: it is told so where the video
goes on. -/
def detachAudio (audio keepVideo : Bool) : AirPlayMirrorRuntime :=
  let detached :=
    if keepVideo && audio && runtime.audioAttachQueued then
      (runtime.enqueue { type := .audio, generation := runtime.generation }).2
    else runtime
  { detached with
    audioAttachQueued := if audio || !keepVideo then false else runtime.audioAttachQueued }

/-- The first section of `airplay_mirror_runtime_stop_streams`. -/
def stopStreamsBegin (video audio : Bool) : Option AirPlayMirrorRuntime :=
  if runtime.transportSessionId ≠ sessionId ∨ runtime.opening ∨
      runtime.commands.length > commandCapacity - 2 then none
  else
    let keepVideo := runtime.mirror.isSome && !video
    let keepAudio := runtime.audio.isSome && !audio
    let left := (runtime.removeReceivers video audio).detachAudio audio keepVideo
    if keepVideo then some left
    else some (left.removeVideo sessionId runtime.mirror.isSome keepAudio)

/-- The last section of `airplay_mirror_runtime_stop_streams`. -/
def stopStreamsEnd : AirPlayMirrorRuntime :=
  if runtime.transportSessionId = sessionId then { runtime with opening := false } else runtime

/-- `airplay_mirror_runtime_stop` has something to stop; session 0 stands for any. -/
def Stops : Prop :=
  (runtime.sessionId ≠ 0 ∨ runtime.transportSessionId ≠ 0) ∧
    (sessionId = 0 ∨ runtime.sessionId = sessionId ∨ runtime.transportSessionId = sessionId)

instance (sessionId : UInt64) : Decidable (runtime.Stops sessionId) :=
  inferInstanceAs (Decidable (_ ∧ _))

/-- The runtime without a session. -/
def cleared : AirPlayMirrorRuntime :=
  { runtime with
    mirror := none
    audio := none
    audioFormatReady := false
    timing := none
    usesNtpTiming := false
    bridge := none
    audioBridge := none
    audioAttachQueued := false
    transportSessionId := 0
    sessionId := 0
    opening := false
    recording := false
    playerLoadQueued := false
    playerPlayQueued := false }

/-- The section of `airplay_mirror_runtime_stop`. -/
def stop (sessionId : UInt64) : AirPlayMirrorRuntime :=
  if runtime.Stops sessionId then
    let told :=
      if runtime.playerLoadQueued then
        (runtime.cleared.enqueue { type := .stop, generation := runtime.generation }).2
      else runtime.cleared
    if runtime.sessionId ≠ 0 then told.setStatus .disconnected else told
  else runtime

end AirPlayMirrorRuntime

end NXCast
