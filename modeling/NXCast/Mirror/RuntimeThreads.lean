import NXCast.Mirror.Runtime

/-!
# The threads of the mirror runtime

Any number of calls, the receivers' callbacks and the worker, one section a step.  Between its
sections a call creates and destroys receivers and bridges, which succeeds or not; the callbacks
may come at any time, and the player answers the worker as it likes.

A call carries a mark that the code does not have: its session has been stopped since the call
began.
-/

namespace NXCast

open Function

/-! ## The worker -/

/-- A call of `AirPlayMirrorRuntimePlayerOps`; every operation is there. -/
inductive RuntimePlayerCall where
  | bindStream (bridge : Option RuntimeBridge) (generation : UInt32)
  | bindAudio (bridge : Option RuntimeBridge) (generation : UInt32)
  | setUri (metadata : String) (generation : UInt32)
  | play (generation : UInt32)
  | stop (generation : UInt32)
  | replaceGeneration (previousGeneration generation : UInt32)
  | statusChanged (status : AirPlayMirrorRuntimeStatus) (generation : UInt32)
deriving DecidableEq

/-- Where `runtime_worker` stands: in front of the queue, in front of the first section of
`runtime_process_command`, behind `bind_stream`, or in front of `runtime_command_complete`. -/
inductive RuntimeWorker where
  | waiting
  | processing (command : AirPlayRuntimeCommand)
  | bound (command : AirPlayRuntimeCommand) (ok : Bool)
  | completing (generation : UInt32) (ok : Bool) (successStatus : AirPlayMirrorRuntimeStatus)
deriving DecidableEq

/-- The metadata that goes with a bridge. -/
def AirPlayRuntimeCommand.metadata (command : AirPlayRuntimeCommand) : String :=
  if command.type = .load ∧ command.bridge.any (fun bridge => bridge.profile = .audioOnly) then
    "AirPlay Audio"
  else "AirPlay Screen Mirroring"

/-! ## Calls -/

/-- A call between two of its sections: `airplay_mirror_runtime_open` in front of its second
section, of its clean-up and of `airplay_mirror_session_set_recording`, the same for
`airplay_mirror_runtime_audio_open`, then `airplay_mirror_runtime_stop_streams` and the
callbacks in front of their last section. -/
inductive RuntimeStage where
  | opening (attempt : OpenAttempt)
  | openFailed (attempt : OpenAttempt)
  | opened (attempt : OpenAttempt)
  | audioOpening (attempt : AudioOpenAttempt)
  | audioOpenFailed (attempt : AudioOpenAttempt)
  | audioOpened (attempt : AudioOpenAttempt)
  | stoppingStreams (sessionId : UInt64)
  | video (generation : UInt32) (keyframe : Bool)
  | audio (generation : UInt32) (bridge : RuntimeBridge)
deriving DecidableEq

/-- A call under way, and whether its session has been stopped since it began. -/
structure RuntimeCall where
  stage : RuntimeStage
  stopped : Bool
deriving DecidableEq

/-- The session that a call works for. -/
def RuntimeStage.session : RuntimeStage → Option UInt64
  | opening attempt | openFailed attempt | opened attempt => some attempt.sessionId
  | audioOpening attempt | audioOpenFailed attempt | audioOpened attempt => some attempt.sessionId
  | stoppingStreams sessionId => some sessionId
  | video .. | audio .. => none

/-- What `airplay_mirror_runtime_stop` means for a call; session 0 stands for any. -/
def RuntimeCall.mark (sessionId : UInt64) (call : RuntimeCall) : RuntimeCall :=
  if call.stage.session.any fun session => sessionId = 0 ∨ session = sessionId then
    { call with stopped := true }
  else call

@[simp] lemma RuntimeCall.mark_stage (sessionId : UInt64) (call : RuntimeCall) :
    (call.mark sessionId).stage = call.stage := by
  rw [mark]
  split <;> rfl

/-! ## The system -/

/-- The runtime and its threads, with the commands that the worker has taken and the calls of the
player that it has made.  Calls are numbered in the order in which they come. -/
structure MirrorSystem where
  runtime : AirPlayMirrorRuntime
  worker : RuntimeWorker
  calls : ℕ → Option RuntimeCall
  next : ℕ
  taken : List AirPlayRuntimeCommand
  played : List RuntimePlayerCall

/-- A step: a call that comes, with its arguments, the next section of a call, with what it has
made of receivers and bridges, or the worker's, with what the player answers. -/
inductive MirrorLabel where
  | transportPrepare (sessionId : UInt64) (peerIpv4Address : UInt32) (peerTimingPort : UInt16)
      (usesNtpTiming timingCreated : Bool)
  | «open» (sessionId streamConnectionId : UInt64)
  | audioOpen (sessionId : UInt64)
  | recordAudio (sessionId : UInt64)
  | record (sessionId : UInt64)
  | stopStreams (sessionId : UInt64) (video audio : Bool)
  | stop (sessionId : UInt64)
  | video (keyframe : Bool)
  | audio
  | resume (id : ℕ) (ok packets : Bool)
  | work (player : RuntimePlayerCall → Bool)

namespace MirrorSystem

/-- What `airplay_mirror_runtime_create` leaves. -/
def initial : MirrorSystem := ⟨.created, .waiting, fun _ => none, 0, [], []⟩

variable (s : MirrorSystem)

/-- A call that is done with its first section. -/
def begin (runtime : AirPlayMirrorRuntime) (stage : RuntimeStage) : MirrorSystem :=
  { s with runtime, calls := update s.calls s.next (some ⟨stage, false⟩), next := s.next + 1 }

/-- A call goes on. -/
def goOn (id : ℕ) (runtime : AirPlayMirrorRuntime) (call : Option RuntimeCall) : MirrorSystem :=
  { s with runtime, calls := update s.calls id call }

section Calls

variable {s} {id : ℕ} {runtime : AirPlayMirrorRuntime} {stage : RuntimeStage}
  {call : Option RuntimeCall}

@[simp] lemma begin_runtime : (s.begin runtime stage).runtime = runtime := rfl

@[simp] lemma begin_next : (s.begin runtime stage).next = s.next + 1 := rfl

@[simp] lemma begin_calls_self : (s.begin runtime stage).calls s.next = some ⟨stage, false⟩ :=
  update_self ..

lemma begin_calls_of_ne (h : id ≠ s.next) : (s.begin runtime stage).calls id = s.calls id :=
  update_of_ne h ..

@[simp] lemma goOn_runtime : (s.goOn id runtime call).runtime = runtime := rfl

@[simp] lemma goOn_next : (s.goOn id runtime call).next = s.next := rfl

@[simp] lemma goOn_calls_self : (s.goOn id runtime call).calls id = call := update_self ..

lemma goOn_calls_of_ne {other : ℕ} (h : other ≠ id) :
    (s.goOn id runtime call).calls other = s.calls other :=
  update_of_ne h ..

end Calls

/-- `airplay_mirror_runtime_transport_prepare` -/
def transportPrepare (sessionId : UInt64) (peerIpv4Address : UInt32) (peerTimingPort : UInt16)
    (usesNtpTiming timingCreated : Bool) : MirrorSystem :=
  if sessionId = 0 ∨ (usesNtpTiming ∧ (peerIpv4Address = 0 ∨ peerTimingPort = 0)) ∨
      (usesNtpTiming ∧ !timingCreated) then s
  else
    let timing := if usesNtpTiming then some s.next else none
    match s.runtime.transportPrepare sessionId timing usesNtpTiming with
    | some runtime => { s with runtime, next := s.next + 1 }
    | none => s

/-- `airplay_mirror_runtime_open` -/
def «open» (sessionId streamConnectionId : UInt64) : MirrorSystem :=
  if sessionId = 0 ∨ streamConnectionId = 0 then s
  else
    match s.runtime.openBegin s.next sessionId with
    | some (attempt, runtime) => s.begin runtime (.opening attempt)
    | none => s

/-- `airplay_mirror_runtime_audio_open`, for a format that there is. -/
def audioOpen (sessionId : UInt64) : MirrorSystem :=
  if sessionId = 0 then s
  else
    match s.runtime.audioOpenBegin s.next sessionId with
    | some (attempt, runtime) => s.begin runtime (.audioOpening attempt)
    | none => s

/-- `airplay_mirror_runtime_record_audio` -/
def recordAudio (sessionId : UInt64) : MirrorSystem :=
  match s.runtime.recordAudio sessionId with
  | some runtime => { s with runtime }
  | none => s

/-- `airplay_mirror_runtime_record` -/
def record (sessionId : UInt64) : MirrorSystem :=
  { s with runtime := s.runtime.record sessionId }

/-- `airplay_mirror_runtime_stop_streams` -/
def stopStreams (sessionId : UInt64) (video audio : Bool) : MirrorSystem :=
  if sessionId = 0 ∨ (!video ∧ !audio) then s
  else
    match s.runtime.stopStreamsBegin sessionId video audio with
    | some runtime => s.begin runtime (.stoppingStreams sessionId)
    | none => s

/-- `airplay_mirror_runtime_stop` -/
def stop (sessionId : UInt64) : MirrorSystem :=
  { s with
    runtime := s.runtime.stop sessionId
    calls := fun id => (s.calls id).map (RuntimeCall.mark sessionId) }

/-- `runtime_video` -/
def video (keyframe : Bool) : MirrorSystem :=
  match s.runtime.videoBegin with
  | some generation => s.begin s.runtime (.video generation keyframe)
  | none => s

/-- `runtime_audio` -/
def audio : MirrorSystem :=
  match s.runtime.audioBegin with
  | some (generation, bridge) => s.begin s.runtime (.audio generation bridge)
  | none => s

/-- The next section of a call.  `ok` says that everything up to it has been created, or that
the bridge has taken what was pushed. -/
def resume (id : ℕ) (ok packets : Bool) : MirrorSystem :=
  match s.calls id with
  | none => s
  | some call =>
    match call.stage with
    | .opening attempt =>
      if ok then
        match s.runtime.openInstall attempt with
        | some runtime =>
          s.goOn id runtime
            (if runtime.recording then some { call with stage := .opened attempt } else none)
        | none => s.goOn id s.runtime (some { call with stage := .openFailed attempt })
      else s.goOn id (s.runtime.openCleanup attempt) none
    | .openFailed attempt => s.goOn id (s.runtime.openCleanup attempt) none
    | .opened attempt => s.goOn id (s.runtime.recordMirror attempt.creator) none
    | .audioOpening attempt =>
      if ok then
        match s.runtime.audioOpenInstall attempt with
        | some runtime =>
          s.goOn id runtime
            (if runtime.recording then some { call with stage := .audioOpened attempt } else none)
        | none => s.goOn id s.runtime (some { call with stage := .audioOpenFailed attempt })
      else s.goOn id (s.runtime.audioOpenCleanup attempt) none
    | .audioOpenFailed attempt => s.goOn id (s.runtime.audioOpenCleanup attempt) none
    | .audioOpened attempt => s.goOn id (s.runtime.recordReceiver attempt.creator) none
    | .stoppingStreams sessionId => s.goOn id (s.runtime.stopStreamsEnd sessionId) none
    | .video generation keyframe => s.goOn id (s.runtime.videoEnd generation ok keyframe) none
    | .audio generation bridge => s.goOn id (s.runtime.audioEnd generation bridge ok packets) none

/-- The worker goes on after calls of the player. -/
def workOn (worker : RuntimeWorker) (played : List RuntimePlayerCall) : MirrorSystem :=
  { s with worker, played := s.played ++ played }

/-- The first section of `runtime_process_command`, and the calls of the player behind it. -/
def process (command : AirPlayRuntimeCommand) (player : RuntimePlayerCall → Bool) : MirrorSystem :=
  let generation := command.generation
  match command.type with
  | .load =>
    if s.runtime.generationActive generation then
      let bind := RuntimePlayerCall.bindStream command.bridge generation
      s.workOn (.bound command (player bind)) [bind]
    else s.workOn .waiting []
  | .replace =>
    if s.runtime.generationActive generation then
      let previous := command.previousGeneration
      let calls : List RuntimePlayerCall :=
        [.stop previous, .bindStream none previous, .replaceGeneration previous generation,
          .bindStream command.bridge generation]
      s.workOn (.bound command (calls.all player))
        (calls.take ((calls.takeWhile player).length + 1))
    else s.workOn .waiting []
  | .play =>
    if s.runtime.generationActive generation then
      s.workOn (.completing generation (player (.play generation)) .playing) [.play generation]
    else s.workOn .waiting []
  | .stop =>
    s.workOn .waiting [.bindAudio none generation, .stop generation, .bindStream none generation]
  | .audio =>
    if s.runtime.generationActive generation ∧
        (command.bridge = none ∨ s.runtime.audioBridge = command.bridge) then
      s.workOn .waiting [.bindAudio command.bridge generation]
    else s.workOn .waiting []
  | .notify => s.workOn .waiting [.statusChanged command.status generation]

/-- `runtime_process_command` behind `bind_stream`; a binding that has come to nothing is
undone. -/
def processBound (command : AirPlayRuntimeCommand) (bound : Bool)
    (player : RuntimePlayerCall → Bool) : MirrorSystem :=
  let generation := command.generation
  let load := RuntimePlayerCall.setUri command.metadata generation
  let loads := bound && s.runtime.generationActive generation
  let ok := loads && player load
  let unbinds := !ok && (bound || command.type = .load)
  s.workOn (.completing generation ok .waitingKeyframe)
    ((if loads then [load] else []) ++ if unbinds then [.bindStream none generation] else [])

/-- The next section of `runtime_worker`. -/
def work (player : RuntimePlayerCall → Bool) : MirrorSystem :=
  match s.worker with
  | .waiting =>
    match s.runtime.commands with
    | [] => s
    | command :: commands =>
      { s with
        runtime := { s.runtime with commands }
        worker := .processing command
        taken := s.taken ++ [command] }
  | .processing command => s.process command player
  | .bound command ok => s.processBound command ok player
  | .completing generation ok successStatus =>
    { s with
      runtime := s.runtime.commandComplete generation ok successStatus
      worker := .waiting }

/-- One step. -/
def step : MirrorLabel → MirrorSystem
  | .transportPrepare sessionId peerIpv4Address peerTimingPort usesNtpTiming timingCreated =>
    s.transportPrepare sessionId peerIpv4Address peerTimingPort usesNtpTiming timingCreated
  | .open sessionId streamConnectionId => s.open sessionId streamConnectionId
  | .audioOpen sessionId => s.audioOpen sessionId
  | .recordAudio sessionId => s.recordAudio sessionId
  | .record sessionId => s.record sessionId
  | .stopStreams sessionId video audio => s.stopStreams sessionId video audio
  | .stop sessionId => s.stop sessionId
  | .video keyframe => s.video keyframe
  | .audio => s.audio
  | .resume id ok packets => s.resume id ok packets
  | .work player => s.work player

/-- Steps one after the other. -/
def run (labels : List MirrorLabel) : MirrorSystem := labels.foldl step s

/-- A state that a run leads to, each of whose steps is as `ok` says. -/
inductive Reachable (ok : MirrorSystem → MirrorLabel → Prop) : MirrorSystem → Prop where
  | initial : Reachable ok MirrorSystem.initial
  | step {s : MirrorSystem} (label : MirrorLabel) :
      Reachable ok s → ok s label → Reachable ok (s.step label)

variable {s} in
lemma Reachable.run (h : s.Reachable fun _ _ => True) (labels : List MirrorLabel) :
    (s.run labels).Reachable fun _ _ => True := by
  induction labels generalizing s with
  | nil => exact h
  | cons label labels ih => exact ih (h.step label trivial)

end MirrorSystem

end NXCast
