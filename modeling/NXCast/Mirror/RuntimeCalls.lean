import NXCast.Mirror.Runtime

/-!
# Calls of the mirror runtime

The calls that a connection makes of the runtime, each from its first section to its last.  In front of
every section the worker and the receivers may have been at work: `ahead` are their sections, in any number
and order.  What a call creates is there, and no port is zero.

`HoldsStreams` is the runtime between two calls of the session that prepared it: the two receivers, the
bridges that go with them, and the one flag for the recording of both.
-/

namespace NXCast

open Option RuntimeBridge AirPlayMirrorRuntime

/-- A section of the worker or of a receiver's callback. -/
inductive RuntimeMove where
  | take
  | complete (generation : UInt32) (ok : Bool) (successStatus : AirPlayMirrorRuntimeStatus)
  | video (generation : UInt32) (pushed keyframe : Bool)
  | audio (generation : UInt32) (bridge : RuntimeBridge) (pushed packets : Bool)

/-- What the section does to the runtime. -/
def AirPlayMirrorRuntime.move (runtime : AirPlayMirrorRuntime) : RuntimeMove → AirPlayMirrorRuntime
  | .take => { runtime with commands := runtime.commands.tail }
  | .complete generation ok successStatus => runtime.commandComplete generation ok successStatus
  | .video generation pushed keyframe => runtime.videoEnd generation pushed keyframe
  | .audio generation bridge pushed packets => runtime.audioEnd generation bridge pushed packets

/-- A port that a socket has got. -/
abbrev Port := { port : UInt16 // port ≠ 0 }

/-- The runtime as the handlers of a connection see it, with the other surroundings. -/
structure MirrorMedia (ν : Type) where
  runtime : AirPlayMirrorRuntime
  next : ℕ
  ahead : List (List RuntimeMove)
  rest : ν

namespace MirrorMedia

variable {ν : Type} (media : MirrorMedia ν)

/-- The next section begins. -/
def enter : MirrorMedia ν :=
  { media with
    runtime := (media.ahead.headD []).foldl AirPlayMirrorRuntime.move media.runtime
    ahead := media.ahead.tail }

/-- A section ends. -/
def put (runtime : AirPlayMirrorRuntime) : MirrorMedia ν := { media with runtime }

/-- A call has a number. -/
def count : MirrorMedia ν := { media with next := media.next + 1 }

/-- `airplay_mirror_runtime_transport_prepare`: the timing port. -/
def transportPrepare (ports : ℕ → Port) (sessionId : UInt64) (peerIpv4Address : UInt32)
    (peerTimingPort : UInt16) (usesNtpTiming : Bool) : Option UInt16 × MirrorMedia ν :=
  if sessionId = 0 ∨ (usesNtpTiming ∧ (peerIpv4Address = 0 ∨ peerTimingPort = 0)) then (none, media)
  else
    let media := media.count.enter
    let timing := if usesNtpTiming then some media.next else none
    match media.runtime.transportPrepare sessionId timing usesNtpTiming with
    | some runtime => (some (if usesNtpTiming then ports media.next else 0), media.put runtime)
    | none => (none, media)

/-- `airplay_mirror_runtime_open` from its second section on. -/
def openRest (ports : ℕ → Port) (attempt : OpenAttempt) : Option UInt16 × MirrorMedia ν :=
  let media := media.enter
  match media.runtime.openInstall attempt with
  | some runtime =>
    let opened := media.put runtime
    if media.runtime.recording then
      let opened := opened.enter
      (some (ports attempt.creator), opened.put (opened.runtime.recordMirror attempt.creator))
    else (some (ports attempt.creator), opened)
  | none =>
    let media := media.enter
    (none, media.put (media.runtime.openCleanup attempt))

/-- `airplay_mirror_runtime_open`: the data port. -/
def «open» (ports : ℕ → Port) (sessionId streamConnectionId : UInt64) :
    Option UInt16 × MirrorMedia ν :=
  if sessionId = 0 ∨ streamConnectionId = 0 then (none, media)
  else
    let media := media.count.enter
    match media.runtime.openBegin media.next sessionId with
    | some (attempt, runtime) => (media.put runtime).openRest ports attempt
    | none => (none, media)

/-- `airplay_mirror_runtime_audio_open` from its second section on. -/
def audioOpenRest (ports controlPorts : ℕ → Port) (attempt : AudioOpenAttempt) :
    Option (UInt16 × UInt16) × MirrorMedia ν :=
  let media := media.enter
  match media.runtime.audioOpenInstall attempt with
  | some runtime =>
    let opened := media.put runtime
    let answer := some ((ports attempt.creator).1, (controlPorts attempt.creator).1)
    if runtime.recording then
      let opened := opened.enter
      (answer, opened.put (opened.runtime.recordReceiver attempt.creator))
    else (answer, opened)
  | none =>
    let media := media.enter
    (none, media.put (media.runtime.audioOpenCleanup attempt))

/-- `airplay_mirror_audio_format` accepts the format. -/
def audioFormat (compressionType : UInt8) (samplesPerFrame : UInt16) (sampleRate : UInt32) : Bool :=
  let samples : Option UInt16 :=
    match compressionType with
    | 2 => if samplesPerFrame = 0 ∨ samplesPerFrame = 352 then some 352 else none
    | 4 => some (if samplesPerFrame = 0 then 1024 else samplesPerFrame)
    | 8 => some (if samplesPerFrame = 0 then 480 else samplesPerFrame)
    | _ => none
  samples.isSome && decide (sampleRate = 0 ∨ sampleRate = 44100)

/-- `airplay_mirror_runtime_audio_open`: the data and the control port. -/
def audioOpen (ports controlPorts : ℕ → Port) (sessionId : UInt64) (compressionType : UInt8)
    (samplesPerFrame : UInt16) (sampleRate : UInt32) : Option (UInt16 × UInt16) × MirrorMedia ν :=
  if sessionId = 0 ∨ audioFormat compressionType samplesPerFrame sampleRate = false then (none, media)
  else
    let media := media.count.enter
    match media.runtime.audioOpenBegin media.next sessionId with
    | some (attempt, runtime) => (media.put runtime).audioOpenRest ports controlPorts attempt
    | none => (none, media)

/-- `airplay_mirror_runtime_record_audio` -/
def recordAudio (sessionId : UInt64) : Bool × MirrorMedia ν :=
  let media := media.enter
  match media.runtime.recordAudio sessionId with
  | some runtime => (true, media.put runtime)
  | none => (false, media)

/-- `airplay_mirror_runtime_record` -/
def record (sessionId : UInt64) : MirrorMedia ν :=
  let media := media.enter
  media.put (media.runtime.record sessionId)

/-- `airplay_mirror_runtime_stop_streams` -/
def stopStreams (sessionId : UInt64) (video audio : Bool) : Bool × MirrorMedia ν :=
  if sessionId = 0 ∨ (video = false ∧ audio = false) then (false, media)
  else
    let media := media.enter
    match media.runtime.stopStreamsBegin sessionId video audio with
    | some runtime =>
      let media := (media.put runtime).enter
      (true, media.put (media.runtime.stopStreamsEnd sessionId))
    | none => (false, media)

/-- `airplay_mirror_runtime_stop` -/
def stop (sessionId : UInt64) : MirrorMedia ν :=
  let media := media.enter
  media.put (media.runtime.stop sessionId)

end MirrorMedia

/-! ## What the threads leave alone -/

namespace AirPlayMirrorRuntime

variable {runtime runtime' runtime'' : AirPlayMirrorRuntime}

/-- Only the queue, the status and what has been queued for the player differ. -/
def SameMedia (runtime runtime' : AirPlayMirrorRuntime) : Prop :=
  ∃ commands status playerPlayQueued audioAttachQueued,
    runtime' = { runtime with commands, status, playerPlayQueued, audioAttachQueued }

lemma SameMedia.refl (runtime : AirPlayMirrorRuntime) : runtime.SameMedia runtime :=
  ⟨_, _, _, _, rfl⟩

lemma SameMedia.trans (h : runtime.SameMedia runtime') (h' : runtime'.SameMedia runtime'') :
    runtime.SameMedia runtime'' := by
  obtain ⟨_, _, _, _, rfl⟩ := h
  obtain ⟨_, _, _, _, rfl⟩ := h'
  exact ⟨_, _, _, _, rfl⟩

lemma sameMedia_enqueue (runtime : AirPlayMirrorRuntime) (command : AirPlayRuntimeCommand) :
    runtime.SameMedia (runtime.enqueue command).2 := by
  obtain ⟨commands, h⟩ := runtime.enqueue_eq command
  rw [h]
  exact ⟨_, _, _, _, rfl⟩

lemma sameMedia_setStatus (runtime : AirPlayMirrorRuntime) (status : AirPlayMirrorRuntimeStatus) :
    runtime.SameMedia (runtime.setStatus status) := by
  obtain ⟨commands, h⟩ := runtime.setStatus_eq status
  rw [h]
  exact ⟨_, _, _, _, rfl⟩

/-- **The threads** leave the receivers and what is recorded alone. -/
lemma sameMedia_move (runtime : AirPlayMirrorRuntime) (move : RuntimeMove) :
    runtime.SameMedia (runtime.move move) := by
  cases move with
  | take => exact ⟨_, _, _, _, rfl⟩
  | complete generation ok successStatus =>
    change runtime.SameMedia (runtime.commandComplete generation ok successStatus)
    unfold commandComplete
    split
    · exact sameMedia_setStatus _ _
    · exact .refl runtime
  | video generation pushed keyframe =>
    change runtime.SameMedia (runtime.videoEnd generation pushed keyframe)
    rw [videoEnd]
    generalize hq : enqueue _ _ = queued
    have hsame : runtime.SameMedia queued.2 := by
      rw [← hq]
      exact sameMedia_enqueue _ _
    obtain ⟨ok, queued⟩ := queued
    split
    · split
      · exact sameMedia_setStatus _ _
      split
      · cases ok with
        | true => exact hsame.trans ⟨_, _, _, _, rfl⟩
        | false => exact hsame.trans (sameMedia_setStatus _ _)
      · exact .refl runtime
    · exact .refl runtime
  | audio generation bridge pushed packets =>
    change runtime.SameMedia (runtime.audioEnd generation bridge pushed packets)
    rw [audioEnd]
    generalize hq : enqueue _ _ = queued
    have hsame : runtime.SameMedia queued.2 := by
      rw [← hq]
      exact sameMedia_enqueue _ _
    obtain ⟨ok, queued⟩ := queued
    split
    · split
      · cases ok with
        | true => exact hsame.trans ⟨_, _, _, _, rfl⟩
        | false => exact hsame
      · exact .refl runtime
    · exact .refl runtime

end AirPlayMirrorRuntime

namespace MirrorMedia

variable {ν : Type} {media : MirrorMedia ν}

lemma sameMedia_enter (media : MirrorMedia ν) : media.runtime.SameMedia media.enter.runtime := by
  unfold enter
  generalize media.ahead.headD [] = moves
  generalize media.runtime = runtime
  induction moves generalizing runtime with
  | nil => exact .refl runtime
  | cons move moves ih => exact (runtime.sameMedia_move move).trans (ih _)

end MirrorMedia

/-! ## A session's streams -/

/-- The runtime has no session. -/
structure AirPlayMirrorRuntime.Emptied (runtime : AirPlayMirrorRuntime) : Prop where
  mirror : runtime.mirror = none
  audio : runtime.audio = none
  format : runtime.audioFormatReady = false
  timing : runtime.timing = none
  bridge : runtime.bridge = none
  audioBridge : runtime.audioBridge = none
  transport : runtime.transportSessionId = 0
  session : runtime.sessionId = 0
  idle : runtime.opening = false
  recording : runtime.recording = false
  queued : runtime.playerLoadQueued = false

/-- The runtime of a session, with the streams that it holds; `opening` while a stop of some others is
not through. -/
structure AirPlayMirrorRuntime.HoldsStreams (runtime : AirPlayMirrorRuntime) (sessionId : UInt64)
    (video audio : Bool) : Prop where
  nonzero : sessionId ≠ 0
  transport : runtime.transportSessionId = sessionId
  session : runtime.sessionId = if video || audio then sessionId else 0
  mirrorHeld : runtime.mirror.isSome = video
  audioHeld : runtime.audio.isSome = audio
  format : runtime.audioFormatReady = audio
  bridge : runtime.bridge.map RuntimeBridge.profile =
    if video then some .videoAudio else if audio then some .audioOnly else none
  audioBridge : runtime.audioBridge.map RuntimeBridge.profile =
    if video && audio then some .audioOnly else none
  held : runtime.recording = true → (video || audio) = true
  mirrorRecording : ∀ receiver, runtime.mirror = some receiver → receiver.recording = runtime.recording
  audioRecording : ∀ receiver, runtime.audio = some receiver → receiver.recording = runtime.recording
  queued : runtime.playerLoadQueued = true → runtime.recording = true

namespace AirPlayMirrorRuntime

variable {runtime runtime' : AirPlayMirrorRuntime} {sessionId : UInt64} {video audio : Bool}

lemma Emptied.same (h : runtime.Emptied) (hsame : runtime.SameMedia runtime') : runtime'.Emptied := by
  obtain ⟨_, _, _, _, rfl⟩ := hsame
  exact ⟨h.mirror, h.audio, h.format, h.timing, h.bridge, h.audioBridge, h.transport, h.session, h.idle,
    h.recording, h.queued⟩

lemma HoldsStreams.same (h : runtime.HoldsStreams sessionId video audio)
    (hsame : runtime.SameMedia runtime') : runtime'.HoldsStreams sessionId video audio := by
  obtain ⟨_, _, _, _, rfl⟩ := hsame
  exact ⟨h.nonzero, h.transport, h.session, h.mirrorHeld, h.audioHeld, h.format, h.bridge, h.audioBridge,
    h.held, h.mirrorRecording, h.audioRecording, h.queued⟩

lemma HoldsStreams.setOpening (h : runtime.HoldsStreams sessionId video audio) (opening : Bool) :
    ({ runtime with opening } : AirPlayMirrorRuntime).HoldsStreams sessionId video audio :=
  ⟨h.nonzero, h.transport, h.session, h.mirrorHeld, h.audioHeld, h.format, h.bridge, h.audioBridge,
    h.held, h.mirrorRecording, h.audioRecording, h.queued⟩

lemma HoldsStreams.mirror_none (h : runtime.HoldsStreams sessionId false audio) :
    runtime.mirror = none := by
  simpa using h.mirrorHeld

lemma SameMedia.recording (h : runtime.SameMedia runtime') : runtime'.recording = runtime.recording := by
  obtain ⟨_, _, _, _, rfl⟩ := h
  rfl

lemma SameMedia.transport (h : runtime.SameMedia runtime') :
    runtime'.transportSessionId = runtime.transportSessionId := by
  obtain ⟨_, _, _, _, rfl⟩ := h
  rfl

/-! ## The sections -/

/-- **A transport** on a runtime without a session. -/
lemma Emptied.transportPrepare (h : runtime.Emptied) (hsess : sessionId ≠ 0) {timing : Option ℕ}
    {usesNtpTiming : Bool}
    (hprep : runtime.transportPrepare sessionId timing usesNtpTiming = some runtime') :
    runtime'.HoldsStreams sessionId false false := by
  unfold AirPlayMirrorRuntime.transportPrepare at hprep
  split at hprep
  · obtain rfl := some_inj.mp hprep
    refine ⟨hsess, rfl, h.session, ?_, ?_, h.format, ?_, ?_, ?_, ?_, ?_, ?_⟩
    · simp [h.mirror]
    · simp [h.audio]
    · simp [h.bridge]
    · simp [h.audioBridge]
    · simp [h.recording]
    · simp [h.mirror]
    · simp [h.audio]
    · simp [h.queued]
  · cases hprep

/-- An installed mirror, and a player that has been asked for the first time or again. -/
lemma openInstall_eq {attempt : OpenAttempt} (h : runtime.openInstall attempt = some runtime') :
    ∃ playerLoadQueued, (playerLoadQueued = true → runtime.recording = true) ∧
      ({ runtime.openInstalled attempt with playerLoadQueued } : AirPlayMirrorRuntime).SameMedia
        runtime' := by
  unfold openInstall at h
  split at h
  · dsimp only at h
    split_ifs at h with hrec
    · rw [Bool.and_eq_true] at hrec
      obtain rfl := some_inj.mp h
      refine ⟨true, fun _ => hrec.1, ?_⟩
      refine SameMedia.trans ?_ (sameMedia_setStatus _ _)
      obtain ⟨commands, hcmds⟩ := enqueue_eq (runtime.openInstalled attempt)
        { type := .replace, generation := attempt.generation
          bridge := (runtime.openInstalled attempt).bridge
          previousGeneration := attempt.previousGeneration }
      rw [hcmds]
      exact ⟨_, _, _, _, rfl⟩
    · obtain rfl := some_inj.mp h
      exact ⟨false, nofun, sameMedia_setStatus _ _⟩
  · cases h

lemma transportSessionId_openCleanup (runtime : AirPlayMirrorRuntime) (attempt : OpenAttempt) :
    (runtime.openCleanup attempt).transportSessionId = runtime.transportSessionId := by
  unfold openCleanup
  split
  · dsimp only
    split
    · rfl
    · exact (sameMedia_setStatus _ _).transport
  · rfl

lemma SameMedia.recordMirror (h : runtime.SameMedia runtime') (creator : ℕ) :
    (runtime.recordMirror creator).SameMedia (runtime'.recordMirror creator) := by
  obtain ⟨_, _, _, _, rfl⟩ := h
  exact ⟨_, _, _, _, rfl⟩

lemma SameMedia.recordReceiver (h : runtime.SameMedia runtime') (creator : ℕ) :
    (runtime.recordReceiver creator).SameMedia (runtime'.recordReceiver creator) := by
  obtain ⟨_, _, _, _, rfl⟩ := h
  exact ⟨_, _, _, _, rfl⟩

lemma recordMirror_openInstalled (runtime : AirPlayMirrorRuntime) (attempt : OpenAttempt)
    (playerLoadQueued : Bool) :
    ({ runtime.openInstalled attempt with playerLoadQueued } : AirPlayMirrorRuntime).recordMirror
        attempt.creator =
      { runtime.openInstalled attempt with
        playerLoadQueued
        mirror := some ⟨attempt.creator, true⟩ } := by
  simp [recordMirror, openInstalled, RuntimeReceiver.record]

lemma HoldsStreams.openInstalled (h : runtime.HoldsStreams sessionId false audio)
    {attempt : OpenAttempt} (hsess : attempt.sessionId = sessionId)
    (haudio : attempt.hasAudio = audio) {playerLoadQueued : Bool}
    (hq : playerLoadQueued → runtime.recording) :
    ({ runtime.openInstalled attempt with
        playerLoadQueued
        mirror := some ⟨attempt.creator, runtime.recording⟩ } :
      AirPlayMirrorRuntime).HoldsStreams sessionId true audio where
  nonzero := h.nonzero
  transport := hsess
  session := hsess
  mirrorHeld := rfl
  audioHeld := h.audioHeld
  format := h.format
  bridge := rfl
  audioBridge := by
    subst haudio
    change (if attempt.hasAudio then some (⟨attempt.creator, .audioOnly⟩ : RuntimeBridge) else none).map
      profile = _
    cases attempt.hasAudio <;> rfl
  held _ := rfl
  mirrorRecording receiver hrecv := by
    obtain rfl := some_inj.mp hrecv
    rfl
  audioRecording := h.audioRecording
  queued := hq

/-- The runtime with the receiver of an attempt and the bridge that goes with it. -/
def audioReady (runtime : AirPlayMirrorRuntime) (attempt : AudioOpenAttempt) : AirPlayMirrorRuntime :=
  if attempt.bridge = none then (runtime.audioInstalled attempt).audioBridgeInstalled attempt
  else runtime.audioInstalled attempt

lemma recordReceiver_audioReady (runtime : AirPlayMirrorRuntime) (attempt : AudioOpenAttempt) :
    (runtime.audioReady attempt).recordReceiver attempt.creator =
      { runtime.audioReady attempt with audio := some ⟨attempt.creator, true⟩ } := by
  unfold audioReady
  split <;> simp [recordReceiver, audioInstalled, audioBridgeInstalled, RuntimeReceiver.record]

lemma audioOpenInstall_eq {attempt : AudioOpenAttempt}
    (h : runtime.audioOpenInstall attempt = some runtime') :
    (runtime.audioReady attempt).SameMedia runtime' := by
  unfold audioReady
  unfold audioOpenInstall at h
  split at h
  · dsimp only at h
    split_ifs at h with hbridge
    · obtain rfl := some_inj.mp h
      rw [if_pos hbridge]
      exact sameMedia_setStatus _ _
    · obtain rfl := some_inj.mp h
      rw [if_neg hbridge]
      exact .refl _
  · cases h

lemma audioReady_audio (runtime : AirPlayMirrorRuntime) (attempt : AudioOpenAttempt) :
    ({ runtime.audioReady attempt with audio := some ⟨attempt.creator, false⟩ } :
      AirPlayMirrorRuntime) = runtime.audioReady attempt := by
  unfold audioReady
  split <;> rfl

lemma transportSessionId_audioOpenCleanup (runtime : AirPlayMirrorRuntime) (attempt : AudioOpenAttempt) :
    (runtime.audioOpenCleanup attempt).transportSessionId = runtime.transportSessionId := by
  unfold audioOpenCleanup
  split <;> rfl

/-- The session with a receiver for audio that has been told what the others are. -/
lemma HoldsStreams.audioInstalled (h : runtime.HoldsStreams sessionId video false)
    {attempt : AudioOpenAttempt} (hsess : attempt.sessionId = sessionId)
    (hbridge : attempt.bridge = none ↔ video = false) :
    ({ runtime.audioReady attempt with audio := some ⟨attempt.creator, runtime.recording⟩ } :
      AirPlayMirrorRuntime).HoldsStreams sessionId video true := by
  unfold audioReady
  cases video with
  | false =>
    rw [if_pos (hbridge.mpr rfl)]
    refine ⟨h.nonzero, h.transport, hsess, h.mirrorHeld, rfl, rfl, rfl, ?_, fun _ => rfl,
      h.mirrorRecording, ?_, nofun⟩
    · change (if attempt.bridge = none then none
        else some (⟨attempt.creator, .audioOnly⟩ : RuntimeBridge)).map profile = _
      rw [if_pos (hbridge.mpr rfl)]
      rfl
    · intro receiver hrecv
      obtain rfl := some_inj.mp hrecv
      rfl
  | true =>
    have hsome : attempt.bridge ≠ none := fun hnone => nomatch hbridge.mp hnone
    rw [if_neg hsome]
    refine ⟨h.nonzero, h.transport, h.session, h.mirrorHeld, rfl, rfl, h.bridge, ?_, fun _ => rfl,
      h.mirrorRecording, ?_, h.queued⟩
    · change (if attempt.bridge = none then none
        else some (⟨attempt.creator, .audioOnly⟩ : RuntimeBridge)).map profile = _
      rw [if_neg hsome]
      rfl
    · intro receiver hrecv
      obtain rfl := some_inj.mp hrecv
      rfl

/-- Every receiver records. -/
def recorded (runtime : AirPlayMirrorRuntime) (playerLoadQueued : Bool) : AirPlayMirrorRuntime :=
  { runtime with
    recording := true
    playerLoadQueued
    mirror := runtime.mirror.map RuntimeReceiver.record
    audio := runtime.audio.map RuntimeReceiver.record }

lemma HoldsStreams.recorded (h : runtime.HoldsStreams sessionId true audio) (playerLoadQueued : Bool) :
    (runtime.recorded playerLoadQueued).HoldsStreams sessionId true audio := by
  refine ⟨h.nonzero, h.transport, h.session, ?_, ?_, h.format, h.bridge, h.audioBridge, fun _ => rfl,
    ?_, ?_, fun _ => rfl⟩
  · simpa [AirPlayMirrorRuntime.recorded] using h.mirrorHeld
  · simpa [AirPlayMirrorRuntime.recorded] using h.audioHeld
  all_goals
    intro receiver hrecv
    obtain ⟨found, -, rfl⟩ := map_eq_some_iff.mp hrecv
    rfl

/-- A recording that begins, with or without room for the load of the player. -/
lemma record_eq (hmirror : runtime.mirror ≠ none) (hbridge : runtime.bridge ≠ none)
    (hsess : runtime.sessionId = sessionId) (hq : runtime.playerLoadQueued = false) :
    ∃ playerLoadQueued, (runtime.recorded playerLoadQueued).SameMedia (runtime.record sessionId) := by
  unfold record
  rw [if_neg (by simp [hmirror, hbridge, hsess, hq])]
  dsimp only
  split
  · rename_i refused href
    rw [enqueue] at href
    split at href
    · obtain ⟨-, rfl⟩ := Prod.mk.inj href
      exact ⟨false, sameMedia_setStatus _ _⟩
    · cases (Prod.mk.inj href).1
  · rename_i queued hsome
    rw [enqueue] at hsome
    split at hsome
    · cases (Prod.mk.inj hsome).1
    · obtain ⟨-, rfl⟩ := Prod.mk.inj hsome
      exact ⟨true, SameMedia.trans ⟨_, _, _, _, rfl⟩ (sameMedia_setStatus _ _)⟩

/-- **The recording** of a session with video. -/
lemma HoldsStreams.record (h : runtime.HoldsStreams sessionId true audio) :
    (runtime.record sessionId).HoldsStreams sessionId true audio ∧
      (runtime.record sessionId).recording := by
  have hmirror : runtime.mirror ≠ none := by
    intro hnone
    have hheld := h.mirrorHeld
    simp [hnone] at hheld
  have hbridge : runtime.bridge ≠ none := by
    intro hnone
    have hprofile := h.bridge
    simp [hnone] at hprofile
  by_cases hq : runtime.playerLoadQueued = true
  · have href : runtime.record sessionId = runtime := by
      unfold AirPlayMirrorRuntime.record
      rw [if_pos (.inr (.inr (.inr hq)))]
    rw [href]
    exact ⟨h, h.queued hq⟩
  · rw [Bool.not_eq_true] at hq
    obtain ⟨playerLoadQueued, hsame⟩ := record_eq hmirror hbridge h.session hq
    exact ⟨(h.recorded playerLoadQueued).same hsame, hsame.recording⟩

/-- **The recording** of a session with audio, which is that of its video if it has one. -/
lemma HoldsStreams.recordAudio (h : runtime.HoldsStreams sessionId video true)
    (hvideo : runtime.recording = video) :
    ∃ runtime', runtime.recordAudio sessionId = some runtime' ∧
      runtime'.HoldsStreams sessionId video true ∧ runtime'.recording := by
  have hsess : runtime.sessionId = sessionId := by
    have hsess := h.session
    simpa using hsess
  have hbridge : runtime.bridge ≠ none := by
    intro hnone
    have hprofile := h.bridge
    cases video <;> simp [hnone] at hprofile
  have haudio : runtime.audio ≠ none := by
    intro hnone
    have hheld := h.audioHeld
    simp [hnone] at hheld
  have hheld := h.mirrorHeld
  unfold AirPlayMirrorRuntime.recordAudio
  cases video with
  | false =>
    have hmirror := h.mirror_none
    rw [if_neg (by simp [hsess, hbridge, haudio, hmirror, hvideo])]
    refine ⟨_, rfl, ?_, ?_⟩
    · rw [if_pos hmirror]
      refine ⟨h.nonzero, h.transport, h.session, h.mirrorHeld, ?_, h.format, h.bridge, h.audioBridge,
        fun _ => rfl, ?_, ?_, fun _ => rfl⟩
      · simpa using h.audioHeld
      · intro receiver hrecv
        exact nomatch hmirror.symm.trans hrecv
      · intro receiver hrecv
        obtain ⟨found, -, rfl⟩ := map_eq_some_iff.mp hrecv
        rfl
    · rw [if_pos hmirror]
  | true =>
    have hmirror : runtime.mirror ≠ none := by
      intro hnone
      simp [hnone] at hheld
    rw [if_neg (by simp [hsess, hbridge, haudio, hmirror, hvideo])]
    refine ⟨_, rfl, ?_, ?_⟩
    · rw [if_neg hmirror]
      refine ⟨h.nonzero, h.transport, h.session, h.mirrorHeld, ?_, h.format, h.bridge, h.audioBridge,
        h.held, h.mirrorRecording, ?_, h.queued⟩
      · simpa using h.audioHeld
      intro receiver hrecv
      obtain ⟨found, -, rfl⟩ := map_eq_some_iff.mp hrecv
      exact hvideo.symm
    · rw [if_neg hmirror]
      exact hvideo

lemma sameMedia_detachAudio (runtime : AirPlayMirrorRuntime) (audio keepVideo : Bool) :
    runtime.SameMedia (runtime.detachAudio audio keepVideo) := by
  unfold detachAudio
  split
  · exact (sameMedia_enqueue _ _).trans ⟨_, _, _, _, rfl⟩
  · exact ⟨_, _, _, _, rfl⟩

lemma removeVideo_eq (runtime : AirPlayMirrorRuntime) (sessionId : UInt64) (hadVideo keepAudio : Bool) :
    ∃ generation, ({ runtime.videoRemoved sessionId hadVideo keepAudio with generation } :
      AirPlayMirrorRuntime).SameMedia (runtime.removeVideo sessionId hadVideo keepAudio) := by
  unfold removeVideo
  dsimp only
  split
  · have hsame : (runtime.videoRemoved sessionId hadVideo keepAudio).SameMedia _ :=
      (sameMedia_enqueue _ { type := .stop, generation := runtime.generation }).trans
        (sameMedia_setStatus _ .disconnected)
    obtain ⟨_, _, _, _, hleft⟩ := hsame
    rw [hleft]
    exact ⟨_, _, _, _, _, rfl⟩
  · exact ⟨_, .refl _⟩

lemma HoldsStreams.removeAudio (h : runtime.HoldsStreams sessionId true audio) (stopAudio : Bool) :
    (runtime.removeReceivers false stopAudio).HoldsStreams sessionId true (audio && !stopAudio) := by
  cases stopAudio with
  | false =>
    rw [Bool.not_false, Bool.and_true]
    exact h.setOpening true
  | true =>
    rw [Bool.not_true, Bool.and_false]
    exact ⟨h.nonzero, h.transport, h.session, h.mirrorHeld, rfl, rfl, h.bridge, rfl, fun _ => rfl,
      h.mirrorRecording, nofun, h.queued⟩

lemma HoldsStreams.removeVideo (h : runtime.HoldsStreams sessionId video audio)
    {stopVideo : Bool} (hvideo : (video && !stopVideo) = false) (stopAudio : Bool) {left : AirPlayMirrorRuntime}
    (hleft : (runtime.removeReceivers stopVideo stopAudio).SameMedia left) (generation : UInt32) :
    ({ left.videoRemoved sessionId video (audio && !stopAudio) with generation } :
      AirPlayMirrorRuntime).HoldsStreams sessionId false (audio && !stopAudio) := by
  obtain ⟨_, _, _, _, rfl⟩ := hleft
  have hmirror : (runtime.removeReceivers stopVideo stopAudio).mirror = none := by
    change (if stopVideo then none else runtime.mirror) = none
    cases stopVideo with
    | true => rfl
    | false =>
      have hheld := h.mirrorHeld
      rw [Bool.not_false, Bool.and_true] at hvideo
      simpa [hvideo] using hheld
  have haudioBridge : (audio && !stopAudio) →
      (runtime.removeReceivers stopVideo stopAudio).audioBridge = runtime.audioBridge := by
    intro hkeep
    rw [Bool.and_eq_true, Bool.not_eq_true'] at hkeep
    change (if stopAudio then none else runtime.audioBridge) = _
    rw [hkeep.2]
    rfl
  refine ⟨h.nonzero, h.transport, ?_, ?_, ?_, ?_, ?_, rfl, ?_, ?_, ?_, nofun⟩
  · rw [Bool.false_or]
    rfl
  · change (runtime.removeReceivers stopVideo stopAudio).mirror.isSome = false
    rw [hmirror]
    rfl
  · change (if stopAudio then none else runtime.audio).isSome = _
    have hheld := h.audioHeld
    cases stopAudio with
    | true => simp
    | false => simpa using hheld
  · change (!stopAudio && runtime.audioFormatReady) = _
    rw [h.format, Bool.and_comm]
  · change (if video || !(audio && !stopAudio) then
        if video && (audio && !stopAudio) then
          (runtime.removeReceivers stopVideo stopAudio).audioBridge else none
      else runtime.bridge).map profile = _
    have hbridge := h.bridge
    have hprofile := h.audioBridge
    cases hkeep : (audio && !stopAudio) with
    | false =>
      rw [Bool.not_false, Bool.or_true, if_pos rfl, Bool.and_false]
      rfl
    | true =>
      obtain ⟨rfl, -⟩ := (Bool.and_eq_true _ _).mp hkeep
      cases video with
      | true =>
        simp only [haudioBridge hkeep]
        exact hprofile
      | false => exact hbridge
  · intro hrec
    exact ((Bool.and_eq_true _ _).mp hrec).1
  · intro receiver hrecv
    exact nomatch hmirror.symm.trans hrecv
  · intro receiver hrecv
    change receiver.recording = ((audio && !stopAudio) && runtime.recording)
    have hheld : (if stopAudio then none else runtime.audio) = some receiver := hrecv
    cases stopAudio with
    | true => cases hheld
    | false =>
      have hsome : audio := by
        have haudioHeld := h.audioHeld
        rw [show runtime.audio = some receiver from hheld] at haudioHeld
        exact haudioHeld.symm
      rw [hsome, h.audioRecording receiver hheld]
      rfl

/-- **A stop of streams** leaves the others, and their recording. -/
lemma HoldsStreams.stopStreamsBegin (h : runtime.HoldsStreams sessionId video audio)
    {stopVideo stopAudio : Bool}
    (hstop : runtime.stopStreamsBegin sessionId stopVideo stopAudio = some runtime') :
    runtime'.HoldsStreams sessionId (video && !stopVideo) (audio && !stopAudio) ∧
      (((video && !stopVideo) || (audio && !stopAudio)) →
        runtime'.recording = runtime.recording) := by
  unfold AirPlayMirrorRuntime.stopStreamsBegin at hstop
  split at hstop
  · cases hstop
  simp only [h.mirrorHeld, h.audioHeld] at hstop
  have hsame := sameMedia_detachAudio (runtime.removeReceivers stopVideo stopAudio) stopAudio
    (video && !stopVideo)
  split_ifs at hstop with hkeep
  · obtain rfl := some_inj.mp hstop
    obtain ⟨rfl, hstopVideo⟩ := (Bool.and_eq_true _ _).mp hkeep
    rw [Bool.not_eq_true'] at hstopVideo
    subst hstopVideo
    exact ⟨(h.removeAudio stopAudio).same hsame, fun _ => hsame.recording⟩
  rw [Bool.not_eq_true] at hkeep
  obtain rfl := some_inj.mp hstop
  obtain ⟨generation, hremoved⟩ := removeVideo_eq _ sessionId video (audio && !stopAudio)
  rw [hkeep] at hsame ⊢
  refine ⟨(h.removeVideo hkeep stopAudio hsame generation).same hremoved, fun hleft => ?_⟩
  rw [Bool.false_or] at hleft
  rw [hremoved.recording]
  change ((audio && !stopAudio) && recording _) = runtime.recording
  rw [hleft, Bool.true_and, hsame.recording]
  rfl

/-- **A stop** of the session leaves none. -/
lemma emptied_stop (hsess : sessionId ≠ 0) (htrans : runtime.transportSessionId = sessionId) :
    (runtime.stop sessionId).Emptied := by
  have hstops : runtime.Stops sessionId := by
    refine ⟨.inr ?_, .inr (.inr htrans)⟩
    rw [htrans]
    exact hsess
  have hclear : runtime.cleared.Emptied :=
    ⟨rfl, rfl, rfl, rfl, rfl, rfl, rfl, rfl, rfl, rfl, rfl⟩
  have htold : runtime.cleared.SameMedia (if runtime.playerLoadQueued then
      (runtime.cleared.enqueue { type := .stop, generation := runtime.generation }).2
    else runtime.cleared) := by
    split
    · exact sameMedia_enqueue _ _
    · exact .refl _
  unfold stop
  rw [if_pos hstops]
  dsimp only
  split
  · exact hclear.same (htold.trans (sameMedia_setStatus _ _))
  · exact hclear.same htold

end AirPlayMirrorRuntime

/-! ## The calls -/

namespace MirrorMedia

variable {ν α : Type} {media : MirrorMedia ν} {sessionId : UInt64} {video audio : Bool}

/-- The runtime after a call, as its answer says. -/
def Leaves (done undone : AirPlayMirrorRuntime → Prop) (result : Option α × MirrorMedia ν) : Prop :=
  match result.1 with
  | some _ => done result.2.runtime
  | none => undone result.2.runtime

/-- **`airplay_mirror_runtime_transport_prepare`** -/
lemma leaves_transportPrepare (h : media.runtime.Emptied) (ports : ℕ → Port) (sessionId : UInt64)
    (peerIpv4Address : UInt32) (peerTimingPort : UInt16) (usesNtpTiming : Bool) :
    Leaves (·.HoldsStreams sessionId false false) (·.Emptied)
      (media.transportPrepare ports sessionId peerIpv4Address peerTimingPort usesNtpTiming) := by
  unfold transportPrepare
  split
  · exact h
  rename_i hguard
  rw [not_or] at hguard
  have hin : media.count.enter.runtime.Emptied := h.same media.count.sameMedia_enter
  dsimp only
  split
  · rename_i runtime hprep
    exact hin.transportPrepare hguard.1 hprep
  · exact hin

lemma holdsStreams_enter (h : media.runtime.HoldsStreams sessionId video audio) :
    media.enter.runtime.HoldsStreams sessionId video audio ∧
      media.enter.runtime.recording = media.runtime.recording :=
  ⟨h.same media.sameMedia_enter, media.sameMedia_enter.recording⟩

lemma leaves_openRest (h : media.runtime.HoldsStreams sessionId false audio) (ports : ℕ → Port)
    {attempt : OpenAttempt} (hsess : attempt.sessionId = sessionId)
    (haudio : attempt.hasAudio = audio) :
    Leaves (fun runtime => runtime.HoldsStreams sessionId true audio ∧
        runtime.recording = media.runtime.recording)
      (fun runtime => runtime.transportSessionId = sessionId) (media.openRest ports attempt) := by
  obtain ⟨hin, hrec⟩ := holdsStreams_enter h
  unfold openRest
  rw [← hrec]
  dsimp only
  generalize media.enter = entered at hin ⊢
  split
  · rename_i runtime hinstall
    obtain ⟨playerLoadQueued, hq, hsame⟩ := openInstall_eq hinstall
    have hinst := hin.openInstalled hsess haudio hq
    split_ifs with hrecords
    · -- The mirror is told after the section in which it was installed.
      have hlater := (hsame.trans (entered.put runtime).sameMedia_enter).recordMirror attempt.creator
      rw [recordMirror_openInstalled] at hlater
      rw [hrecords] at hinst
      exact ⟨hinst.same hlater, hlater.recording⟩
    · rw [Bool.not_eq_true] at hrecords
      rw [hrecords] at hinst
      exact ⟨hinst.same hsame, hsame.recording⟩
  · have hlater := entered.sameMedia_enter.transport
    change transportSessionId (openCleanup _ _) = sessionId
    rw [transportSessionId_openCleanup, hlater]
    exact hin.transport

/-- **`airplay_mirror_runtime_open`** -/
lemma leaves_open (h : media.runtime.HoldsStreams sessionId false audio) (ports : ℕ → Port)
    (streamConnectionId : UInt64) :
    Leaves (fun runtime => runtime.HoldsStreams sessionId true audio ∧
        runtime.recording = media.runtime.recording)
      (fun runtime => runtime.transportSessionId = sessionId)
      (media.open ports sessionId streamConnectionId) := by
  unfold MirrorMedia.open
  split
  · exact h.transport
  have hin : media.count.enter.runtime.HoldsStreams sessionId false audio ∧
      media.count.enter.runtime.recording = media.count.runtime.recording := holdsStreams_enter h
  obtain ⟨hin, hrec⟩ := hin
  change media.count.enter.runtime.recording = media.runtime.recording at hrec
  rw [← hrec]
  dsimp only
  split
  · rename_i attempt runtime hbegin
    unfold openBegin at hbegin
    split at hbegin
    · cases hbegin
    obtain ⟨rfl, rfl⟩ := Prod.mk.inj (some_inj.mp hbegin)
    refine leaves_openRest (hin.setOpening true) ports rfl ?_
    change (media.count.enter.runtime.audio.isSome && media.count.enter.runtime.audioFormatReady) = audio
    rw [hin.audioHeld, hin.format, Bool.and_self]
  · exact hin.transport

lemma leaves_audioOpenRest (h : media.runtime.HoldsStreams sessionId video false)
    (ports controlPorts : ℕ → Port) {attempt : AudioOpenAttempt}
    (hsess : attempt.sessionId = sessionId) (hbridge : attempt.bridge = none ↔ video = false) :
    Leaves (fun runtime => runtime.HoldsStreams sessionId video true ∧
        runtime.recording = media.runtime.recording)
      (fun runtime => runtime.transportSessionId = sessionId)
      (media.audioOpenRest ports controlPorts attempt) := by
  obtain ⟨hin, hrec⟩ := holdsStreams_enter h
  unfold audioOpenRest
  rw [← hrec]
  dsimp only
  generalize media.enter = entered at hin ⊢
  split
  · rename_i runtime hinstall
    have hsame := audioOpenInstall_eq hinstall
    have hinst := hin.audioInstalled hsess hbridge
    have hready : (entered.runtime.audioReady attempt).recording = entered.runtime.recording := by
      unfold audioReady
      split <;> rfl
    have hkept : runtime.recording = entered.runtime.recording := hsame.recording.trans hready
    split_ifs with hrecords
    · have hlater := (hsame.trans (entered.put runtime).sameMedia_enter).recordReceiver attempt.creator
      rw [recordReceiver_audioReady] at hlater
      rw [← hkept, hrecords] at hinst
      exact ⟨hinst.same hlater, hlater.recording.trans hready⟩
    · rw [Bool.not_eq_true] at hrecords
      rw [← hkept, hrecords, audioReady_audio] at hinst
      exact ⟨hinst.same hsame, hkept⟩
  · have hlater := entered.sameMedia_enter.transport
    change transportSessionId (audioOpenCleanup _ _) = sessionId
    rw [transportSessionId_audioOpenCleanup, hlater]
    exact hin.transport

/-- **`airplay_mirror_runtime_audio_open`** -/
lemma leaves_audioOpen (h : media.runtime.HoldsStreams sessionId video false)
    (ports controlPorts : ℕ → Port) (compressionType : UInt8) (samplesPerFrame : UInt16)
    (sampleRate : UInt32) :
    Leaves (fun runtime => runtime.HoldsStreams sessionId video true ∧
        runtime.recording = media.runtime.recording)
      (fun runtime => runtime.transportSessionId = sessionId)
      (media.audioOpen ports controlPorts sessionId compressionType samplesPerFrame sampleRate) := by
  unfold MirrorMedia.audioOpen
  split
  · exact h.transport
  have hin : media.count.enter.runtime.HoldsStreams sessionId video false ∧
      media.count.enter.runtime.recording = media.count.runtime.recording := holdsStreams_enter h
  obtain ⟨hin, hrec⟩ := hin
  change media.count.enter.runtime.recording = media.runtime.recording at hrec
  rw [← hrec]
  dsimp only
  split
  · rename_i attempt runtime hbegin
    unfold audioOpenBegin at hbegin
    split at hbegin
    · cases hbegin
    obtain ⟨rfl, rfl⟩ := Prod.mk.inj (some_inj.mp hbegin)
    refine leaves_audioOpenRest (hin.setOpening true) ports controlPorts rfl ?_
    have hbridge := hin.bridge
    change media.count.enter.runtime.bridge = none ↔ video = false
    rw [← map_eq_none_iff (f := profile), hbridge]
    cases video <;> simp
  · exact hin.transport

/-- **`airplay_mirror_runtime_record_audio`** -/
lemma recordAudio_spec (h : media.runtime.HoldsStreams sessionId video true)
    (hvideo : media.runtime.recording = video) :
    (media.recordAudio sessionId).1 ∧
      (media.recordAudio sessionId).2.runtime.HoldsStreams sessionId video true ∧
      (media.recordAudio sessionId).2.runtime.recording := by
  obtain ⟨hin, hrec⟩ := holdsStreams_enter h
  obtain ⟨runtime, hrecord, hholds⟩ := hin.recordAudio (hrec.trans hvideo)
  unfold MirrorMedia.recordAudio
  dsimp only
  rw [hrecord]
  exact ⟨rfl, hholds⟩

/-- **`airplay_mirror_runtime_record`** -/
lemma record_spec (h : media.runtime.HoldsStreams sessionId true audio) :
    (media.record sessionId).runtime.HoldsStreams sessionId true audio ∧
      (media.record sessionId).runtime.recording :=
  (holdsStreams_enter h).1.record

/-- **`airplay_mirror_runtime_stop_streams`** leaves the other streams, or all of them. -/
lemma stopStreams_spec (h : media.runtime.HoldsStreams sessionId video audio)
    (stopVideo stopAudio : Bool) :
    let result := media.stopStreams sessionId stopVideo stopAudio
    let left := if result.1 then (video && !stopVideo, audio && !stopAudio) else (video, audio)
    result.2.runtime.HoldsStreams sessionId left.1 left.2 ∧
      ((left.1 || left.2) → result.2.runtime.recording = media.runtime.recording) := by
  obtain ⟨hin, hrec⟩ := holdsStreams_enter h
  unfold MirrorMedia.stopStreams
  dsimp only
  split
  · exact ⟨h, fun _ => rfl⟩
  split
  · rename_i runtime hstop
    obtain ⟨hleft, hkept⟩ := hin.stopStreamsBegin hstop
    have hsame := (media.enter.put runtime).sameMedia_enter
    have hlater := hleft.same hsame
    have hend : (media.enter.put runtime).enter.runtime.stopStreamsEnd sessionId =
        { (media.enter.put runtime).enter.runtime with opening := false } := by
      unfold stopStreamsEnd
      rw [if_pos hlater.transport]
    refine ⟨?_, fun hsome => ?_⟩
    · change AirPlayMirrorRuntime.HoldsStreams (stopStreamsEnd _ _) _ _ _
      rw [hend]
      exact hlater.setOpening false
    · change recording (stopStreamsEnd _ _) = _
      rw [hend]
      exact hsame.recording.trans ((hkept hsome).trans hrec)
  · exact ⟨hin, fun _ => hrec⟩

/-- **`airplay_mirror_runtime_stop`** leaves no session. -/
lemma emptied_stop (hsess : sessionId ≠ 0) (h : media.runtime.transportSessionId = sessionId) :
    (media.stop sessionId).runtime.Emptied := by
  have htrans := media.sameMedia_enter.transport.trans h
  exact AirPlayMirrorRuntime.emptied_stop hsess htrans

end MirrorMedia

end NXCast
