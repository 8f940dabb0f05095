import NXCast.Player.Session
import NXCast.Rtsp.Text

/-!
# The libmpv backend

`libmpv.c` between the player and mpv.  A command of the player and an event of mpv each run in one
section under `g_mutex`: it changes the flags of the backend, makes asynchronous calls to mpv, and
queues events for the player in a buffer with room for four, which are sent when the mutex is free.
`g_state` is derived from the flags by `libmpv_refresh_state_locked`.

Whether mpv takes a call, whether there is memory, and the clock are given from outside.
-/

namespace NXCast

/-! ## Types -/

/-- `PlayerEvent` with its type, its error and its URI. -/
structure LibmpvEvent where
  type : PlayerEventType
  event : PlayerEvent
  errorCode : ℤ
  uri : Option CString
deriving DecidableEq

/-- A seek target as the player gives it.  The number tells requests apart; nothing looks at it. -/
structure LibmpvSeek where
  target : CString
  number : ℕ
deriving DecidableEq

/-- The static variables of `libmpv.c`; a pending seek is its target. -/
structure LibmpvBackend where
  mpv : Bool
  hasMedia : Bool
  uri : Option CString
  state : PlayerState
  positionMs : ℤ
  durationMs : ℤ
  volume : ℤ
  mute : Bool
  seekable : Bool
  pause : Bool
  pausedForCache : Bool
  seeking : Bool
  pendingSeek : Option LibmpvSeek
  stopped : Bool
  fileLoaded : Bool
  loadPending : Bool
  startupRenderHold : Bool
  startupRestartSeen : Bool
  initialSeekInflight : Bool
  initialSeekEventSeen : Bool
  playRequested : Bool
  playUnpausePending : Bool
  startupHoldDeadlineMs : ℕ
  lastError : ℤ
deriving DecidableEq

/-- An asynchronous call to mpv.  The text of a seek is what `libmpv_normalize_seek_target_alloc` makes
of its target. -/
inductive MpvCall where
  | loadfile (uri : Option CString) (paused : Bool)
  | setPause (flag : Bool)
  | stop
  | seek (request : LibmpvSeek)
  | setVolume (volume : ℤ)
  | setMute (mute : Bool)
deriving DecidableEq

/-- What a section meets: memory for a copy, whether the options of a file fit, the volume of the
process, and the calls that mpv takes. -/
structure LibmpvAnswers where
  memory : Bool
  formatted : Bool
  processVolume : Bool
  takes : MpvCall → Bool

/-- `LIBMPV_INITIAL_SEEK_WINDOW_MS` -/
def libmpvInitialSeekWindowMs : ℕ := 350
/-- `LIBMPV_INITIAL_SEEK_TIMEOUT_MS` -/
def libmpvInitialSeekTimeoutMs : ℕ := 3000
/-- `LIBMPV_STARTUP_GATE_TIMEOUT_MS` -/
def libmpvStartupGateTimeoutMs : ℕ := 15000

/-- The room of `LibmpvPendingEvents`. -/
def libmpvPendingEventsMax : ℕ := 4

/-- `PLAYER_SCREEN_MIRROR_URI` -/
def playerScreenMirrorUri : CString := CString.ofBuffer (asciiBytes "airplay://mirror")

/-- `player_uri_is_screen_mirror` -/
def playerUriIsScreenMirror (uri : Option CString) : Bool := decide (uri = some playerScreenMirrorUri)

namespace LibmpvBackend

/-- What `libmpv_reset_locked` leaves, with a handle of mpv. -/
def initialized : LibmpvBackend where
  mpv := true
  hasMedia := false
  uri := none
  state := .idle
  positionMs := 0
  durationMs := 0
  volume := playerDefaultVolume
  mute := false
  seekable := false
  pause := true
  pausedForCache := false
  seeking := false
  pendingSeek := none
  stopped := false
  fileLoaded := false
  loadPending := false
  startupRenderHold := false
  startupRestartSeen := false
  initialSeekInflight := false
  initialSeekEventSeen := false
  playRequested := false
  playUnpausePending := false
  startupHoldDeadlineMs := 0
  lastError := 0

variable (backend : LibmpvBackend)

/-- There is something that mpv can be asked to play. -/
def ready : Bool :=
  backend.mpv && backend.hasMedia && backend.uri.any fun uri => uri.bytes ≠ []

/-- `libmpv_derive_state_locked` -/
def deriveState : PlayerState :=
  if backend.lastError ≠ 0 then .error
  else if !(backend.hasMedia && backend.uri.any fun uri => uri.bytes ≠ []) then .idle
  else if backend.stopped then .stopped
  else if !backend.fileLoaded then .loading
  else if backend.startupRenderHold then .loading
  else if backend.seeking then .seeking
  else if backend.pausedForCache && !backend.pause then .buffering
  else if backend.pause then .paused else .playing

/-- The event that `libmpv_queue_event_locked` makes. -/
def event (type : PlayerEventType) : LibmpvEvent where
  type := type
  event := ⟨backend.state, backend.positionMs, backend.durationMs, backend.volume, backend.mute,
    backend.seekable⟩
  errorCode := backend.lastError
  uri := if backend.hasMedia then backend.uri else none

end LibmpvBackend

/-! ## What a section does -/

/-- A section on its way: the variables, the events for the player, the values that `g_state` has been
given, and the calls to mpv with its answers. -/
structure LibmpvSection where
  backend : LibmpvBackend
  pending : List LibmpvEvent
  changes : List PlayerState
  calls : List (MpvCall × Bool)
deriving DecidableEq

variable (backend : LibmpvBackend)

/-- The lock is taken. -/
def LibmpvBackend.enter : LibmpvSection := ⟨backend, [], [], []⟩

namespace LibmpvSection

def update (f : LibmpvBackend → LibmpvBackend) (x : LibmpvSection) : LibmpvSection :=
  { x with backend := f x.backend }

/-- mpv is called. -/
def call (answers : LibmpvAnswers) (request : MpvCall) (x : LibmpvSection) : LibmpvSection :=
  { x with calls := x.calls ++ [(request, answers.takes request)] }

/-- `libmpv_queue_event_locked` -/
def queueEvent (type : PlayerEventType) (x : LibmpvSection) : LibmpvSection :=
  if x.pending.length ≥ libmpvPendingEventsMax then x
  else { x with pending := x.pending ++ [x.backend.event type] }

/-- `libmpv_refresh_state_locked` -/
def refreshState (x : LibmpvSection) : LibmpvSection :=
  if x.backend.deriveState ≠ x.backend.state then
    queueEvent .stateChanged
      { x with
        backend := { x.backend with state := x.backend.deriveState }
        changes := x.changes ++ [x.backend.deriveState] }
  else x

variable (value : ℤ)

/-- `libmpv_set_position_locked` -/
def setPosition (x : LibmpvSection) : LibmpvSection :=
  if max value 0 ≠ x.backend.positionMs then
    queueEvent .positionChanged (x.update fun b => { b with positionMs := max value 0 })
  else x

/-- `libmpv_set_duration_locked` -/
def setDuration (x : LibmpvSection) : LibmpvSection :=
  if max value 0 ≠ x.backend.durationMs then
    queueEvent .durationChanged (x.update fun b => { b with durationMs := max value 0 })
  else x

/-- `libmpv_set_volume_locked` -/
def setVolume (x : LibmpvSection) : LibmpvSection :=
  if min (max value 0) 100 ≠ x.backend.volume then
    queueEvent .volumeChanged (x.update fun b => { b with volume := min (max value 0) 100 })
  else x

/-- `libmpv_set_mute_locked` -/
def setMute (value : Bool) (x : LibmpvSection) : LibmpvSection :=
  if value ≠ x.backend.mute then
    queueEvent .muteChanged (x.update fun b => { b with mute := value })
  else x

/-- `libmpv_set_seekable_locked` -/
def setSeekable (value : Bool) (x : LibmpvSection) : LibmpvSection :=
  x.update fun b => { b with seekable := value && !playerUriIsScreenMirror b.uri }

/-- `libmpv_clear_pending_seek_locked` -/
def clearPendingSeek (x : LibmpvSection) : LibmpvSection :=
  x.update fun b => { b with pendingSeek := none }

/-- `libmpv_reset_startup_gate_locked` -/
def resetStartupGate (x : LibmpvSection) : LibmpvSection :=
  x.update fun b => { b with
    startupRenderHold := false
    startupRestartSeen := false
    initialSeekInflight := false
    initialSeekEventSeen := false
    playRequested := false
    playUnpausePending := false
    startupHoldDeadlineMs := 0 }

/-- `libmpv_release_startup_gate_locked` -/
def releaseStartupGate (x : LibmpvSection) : LibmpvSection :=
  if !x.backend.startupRenderHold then x
  else x.update fun b => { b with
    startupRenderHold := false
    initialSeekInflight := false
    initialSeekEventSeen := false
    startupHoldDeadlineMs := 0 }

/-- `libmpv_send_seek_target_locked`, with whether it has sent. -/
def sendSeekTarget (answers : LibmpvAnswers) (request : LibmpvSeek) (x : LibmpvSection) :
    Bool × LibmpvSection :=
  if !x.backend.ready || x.backend.state = .stopped || request.target.bytes = [] then (false, x)
  else if answers.takes (.seek request) then
    (true, ((x.call answers (.seek request)).update fun b =>
      { b with lastError := 0, seeking := true }).refreshState)
  else (false, x.call answers (.seek request))

/-- `libmpv_maybe_issue_pending_seek_locked` -/
def maybeIssuePendingSeek (answers : LibmpvAnswers) (x : LibmpvSection) : LibmpvSection :=
  match x.backend.pendingSeek with
  | none => x
  | some request =>
    if !x.backend.fileLoaded then x
    else if !x.backend.seekable then x
    else
      let (sent, y) := x.sendSeekTarget answers request
      if sent then y.clearPendingSeek else y

/-! What the parts leave: the backend, and the calls. -/

variable {f : LibmpvBackend → LibmpvBackend} {x : LibmpvSection} {answers : LibmpvAnswers}

@[simp] lemma enter_backend (backend : LibmpvBackend) : backend.enter.backend = backend := rfl
@[simp] lemma enter_calls (backend : LibmpvBackend) : backend.enter.calls = [] := rfl
@[simp] lemma update_backend : (x.update f).backend = f x.backend := rfl
@[simp] lemma update_calls : (x.update f).calls = x.calls := rfl
@[simp] lemma call_backend (request : MpvCall) : (x.call answers request).backend = x.backend := rfl
@[simp] lemma call_calls (request : MpvCall) :
    (x.call answers request).calls = x.calls ++ [(request, answers.takes request)] := rfl

@[simp] lemma queueEvent_backend (type : PlayerEventType) :
    (x.queueEvent type).backend = x.backend := by
  unfold queueEvent
  split <;> rfl

@[simp] lemma queueEvent_calls (type : PlayerEventType) : (x.queueEvent type).calls = x.calls := by
  unfold queueEvent
  split <;> rfl

@[simp] lemma refreshState_backend :
    x.refreshState.backend = { x.backend with state := x.backend.deriveState } := by
  unfold refreshState
  split
  · rw [queueEvent_backend]
  next h =>
  rw [not_not] at h
  rw [h]

@[simp] lemma refreshState_calls : x.refreshState.calls = x.calls := by
  unfold refreshState
  split
  · rw [queueEvent_calls]
  · rfl

@[simp] lemma setPosition_backend :
    (x.setPosition value).backend = { x.backend with positionMs := max value 0 } := by
  unfold setPosition
  split
  · rw [queueEvent_backend, update_backend]
  next h =>
  rw [not_not] at h
  rw [h]

@[simp] lemma setPosition_calls : (x.setPosition value).calls = x.calls := by
  unfold setPosition
  split
  · rw [queueEvent_calls, update_calls]
  · rfl

@[simp] lemma setDuration_backend :
    (x.setDuration value).backend = { x.backend with durationMs := max value 0 } := by
  unfold setDuration
  split
  · rw [queueEvent_backend, update_backend]
  next h =>
  rw [not_not] at h
  rw [h]

@[simp] lemma setDuration_calls : (x.setDuration value).calls = x.calls := by
  unfold setDuration
  split
  · rw [queueEvent_calls, update_calls]
  · rfl

@[simp] lemma setVolume_backend :
    (x.setVolume value).backend = { x.backend with volume := min (max value 0) 100 } := by
  unfold setVolume
  split
  · rw [queueEvent_backend, update_backend]
  next h =>
  rw [not_not] at h
  rw [h]

@[simp] lemma setVolume_calls : (x.setVolume value).calls = x.calls := by
  unfold setVolume
  split
  · rw [queueEvent_calls, update_calls]
  · rfl

@[simp] lemma setMute_backend (value : Bool) :
    (x.setMute value).backend = { x.backend with mute := value } := by
  unfold setMute
  split
  · rw [queueEvent_backend, update_backend]
  next h =>
  rw [not_not] at h
  rw [h]

@[simp] lemma setMute_calls (value : Bool) : (x.setMute value).calls = x.calls := by
  unfold setMute
  split
  · rw [queueEvent_calls, update_calls]
  · rfl

@[simp] lemma clearPendingSeek_backend :
    x.clearPendingSeek.backend = { x.backend with pendingSeek := none } := rfl
@[simp] lemma clearPendingSeek_calls : x.clearPendingSeek.calls = x.calls := rfl
@[simp] lemma setSeekable_calls (value : Bool) : (x.setSeekable value).calls = x.calls := rfl
@[simp] lemma resetStartupGate_calls : x.resetStartupGate.calls = x.calls := rfl

@[simp] lemma releaseStartupGate_calls : x.releaseStartupGate.calls = x.calls := by
  unfold releaseStartupGate
  split <;> rfl

/-- The backend that has sent a seek. -/
abbrev sought (backend : LibmpvBackend) : LibmpvBackend :=
  let flagged := { backend with lastError := 0, seeking := true }
  { flagged with state := flagged.deriveState }

lemma sendSeekTarget_cases (answers : LibmpvAnswers) (request : LibmpvSeek) (x : LibmpvSection) :
    (x.sendSeekTarget answers request = (false, x) ∧
        (x.backend.ready = false ∨ x.backend.state = .stopped ∨ request.target.bytes = [])) ∨
      (answers.takes (.seek request) = false ∧
        x.sendSeekTarget answers request = (false, x.call answers (.seek request))) ∨
      (answers.takes (.seek request) ∧ (x.sendSeekTarget answers request).1 ∧
        (x.sendSeekTarget answers request).2.backend = sought x.backend ∧
        (x.sendSeekTarget answers request).2.calls = x.calls ++ [(.seek request, true)]) := by
  unfold sendSeekTarget
  split
  · next h =>
    refine .inl ⟨rfl, ?_⟩
    simpa [or_assoc] using h
  split
  · next htakes =>
    refine .inr (.inr ⟨htakes, rfl, ?_, ?_⟩)
    · rw [refreshState_backend, update_backend, call_backend]
    · rw [refreshState_calls, update_calls, call_calls, htakes]
  · next htakes => exact .inr (.inl ⟨Bool.eq_false_iff.mpr htakes, rfl⟩)

/-- What becomes of a pending seek: it stays, mpv does not take it, or it is sent. -/
lemma maybeIssuePendingSeek_cases (answers : LibmpvAnswers) (x : LibmpvSection) :
    x.maybeIssuePendingSeek answers = x ∨
      (∃ request, x.backend.pendingSeek = some request ∧ answers.takes (.seek request) = false ∧
        x.maybeIssuePendingSeek answers = x.call answers (.seek request)) ∨
      ∃ request, x.backend.pendingSeek = some request ∧ x.backend.fileLoaded ∧
        x.backend.seekable ∧
        (x.maybeIssuePendingSeek answers).backend = { sought x.backend with pendingSeek := none } ∧
        (x.maybeIssuePendingSeek answers).calls = x.calls ++ [(.seek request, true)] := by
  unfold maybeIssuePendingSeek
  cases hpend : x.backend.pendingSeek with
  | none => exact .inl rfl
  | some request =>
    dsimp only
    split
    · exact .inl rfl
    next hload =>
    split
    · exact .inl rfl
    next hseekable =>
    rw [Bool.not_eq_true', Bool.not_eq_false] at hload hseekable
    rcases sendSeekTarget_cases answers request x with
      ⟨heq, -⟩ | ⟨htakes, heq⟩ | ⟨-, hsent, hbackend, hcalls⟩
    · rw [heq]
      exact .inl rfl
    · rw [heq]
      exact .inr (.inl ⟨request, rfl, htakes, rfl⟩)
    · refine .inr (.inr ⟨request, rfl, hload, hseekable, ?_, ?_⟩)
      · rw [hsent, if_pos rfl, clearPendingSeek_backend, hbackend]
      · rw [hsent, if_pos rfl, clearPendingSeek_calls, hcalls]

end LibmpvSection

/-! ## Commands -/

section Commands

variable (now : ℕ) (answers : LibmpvAnswers) (backend : LibmpvBackend)

/-- `libmpv_async_load_current` -/
def libmpvAsyncLoadCurrent (paused : Bool) : Bool × LibmpvSection :=
  if !backend.ready || !answers.formatted then (false, backend.enter)
  else
    let x := backend.enter.call answers (.loadfile backend.uri paused)
    if !answers.takes (.loadfile backend.uri paused) then (false, x)
    else
      let x := x.update fun b => { b with
        lastError := 0
        pause := paused
        stopped := false
        fileLoaded := false
        loadPending := true
        startupRenderHold := true
        startupRestartSeen := false
        initialSeekInflight := false
        initialSeekEventSeen := false
        playRequested := !paused
        playUnpausePending := false
        startupHoldDeadlineMs := now + libmpvStartupGateTimeoutMs
        seeking := false
        pausedForCache := false }
      (true, (((x.clearPendingSeek.setPosition 0).setDuration 0).refreshState).queueEvent .uriChanged)

/-- `libmpv_set_media` -/
def libmpvSetMedia (uri : CString) : Bool × LibmpvSection :=
  if uri.bytes = [] || !answers.memory then (false, backend.enter)
  else
    let (loaded, x) := libmpvAsyncLoadCurrent now answers
      { backend with uri := some uri, hasMedia := true, lastError := 0 } true
    if loaded then (true, x)
    else (false, x.update fun b =>
      { b with uri := backend.uri, hasMedia := backend.hasMedia, lastError := backend.lastError })

/-- `libmpv_play` -/
def libmpvPlay : Bool × LibmpvSection :=
  if !backend.ready then (false, backend.enter)
  else if backend.state = .stopped then libmpvAsyncLoadCurrent now answers backend false
  else
    let x := backend.enter.update fun b => { b with
      lastError := 0
      playRequested := true
      startupHoldDeadlineMs :=
        if b.startupRenderHold then now + libmpvStartupGateTimeoutMs else b.startupHoldDeadlineMs }
    if !backend.fileLoaded then
      (true, (x.update fun b => { b with playUnpausePending := true }).refreshState)
    else
      let x := (x.update fun b => { b with playUnpausePending := false }).call answers (.setPause false)
      if !answers.takes (.setPause false) then (false, x)
      else (true, (x.update fun b => { b with pause := false }).refreshState)

/-- `libmpv_pause` -/
def libmpvPause : Bool × LibmpvSection :=
  if !backend.ready || backend.state = .stopped then (false, backend.enter)
  else
    let x := backend.enter.call answers (.setPause true)
    if !answers.takes (.setPause true) then (false, x)
    else
      let x := (x.update fun b => { b with lastError := 0 }).releaseStartupGate
      (true, (x.update fun b => { b with
        playRequested := false
        playUnpausePending := false
        pause := true }).refreshState)

/-- `libmpv_stop` -/
def libmpvStop : Bool × LibmpvSection :=
  if !backend.ready then (false, backend.enter)
  else
    let x := backend.enter.call answers .stop
    if !answers.takes .stop then (false, x)
    else
      let x := (x.update fun b => { b with
        lastError := 0
        stopped := true
        fileLoaded := false
        loadPending := false }).resetStartupGate
      let x := x.update fun b => { b with
        seeking := false
        pausedForCache := false
        playRequested := false
        pause := true }
      (true, (x.clearPendingSeek.setPosition 0).refreshState)

/-- `libmpv_seek_target` -/
def libmpvSeekTarget (request : LibmpvSeek) : Bool × LibmpvSection :=
  if !backend.ready || playerUriIsScreenMirror backend.uri || backend.state = .stopped ||
      request.target.bytes = [] then (false, backend.enter)
  else
    let x := if backend.startupRenderHold then backend.enter.update fun b => { b with
        initialSeekInflight := true
        initialSeekEventSeen := false
        startupHoldDeadlineMs := now + libmpvInitialSeekTimeoutMs }
      else backend.enter
    if !backend.fileLoaded then
      if !answers.memory then (false, x)
      else (true, x.update fun b => { b with pendingSeek := some request })
    else
      let (sent, x) := x.sendSeekTarget answers request
      if sent then (true, x)
      else if backend.startupRenderHold then (false, x.update fun b => { b with
        initialSeekInflight := false
        startupHoldDeadlineMs := now + libmpvInitialSeekWindowMs })
      else (false, x)

/-- `libmpv_set_volume` -/
def libmpvSetVolume (volume : ℤ) : Bool × LibmpvSection :=
  if !backend.mpv then (false, backend.enter)
  else if answers.processVolume then (true, backend.enter.setVolume volume)
  else
    let x := backend.enter.call answers (.setVolume (min (max volume 0) 100))
    if !answers.takes (.setVolume (min (max volume 0) 100)) then (false, x)
    else (true, x.setVolume volume)

/-- `libmpv_set_mute` -/
def libmpvSetMute (mute : Bool) : Bool × LibmpvSection :=
  if !backend.mpv then (false, backend.enter)
  else if answers.processVolume then (true, backend.enter.setMute mute)
  else
    let x := backend.enter.call answers (.setMute mute)
    if !answers.takes (.setMute mute) then (false, x)
    else (true, x.setMute mute)

/-- `libmpv_release_expired_startup_gate`, with which `libmpv_pump_events` ends. -/
def libmpvReleaseExpiredStartupGate : LibmpvSection :=
  if backend.startupRenderHold && decide (backend.startupHoldDeadlineMs > 0) &&
      decide (now ≥ backend.startupHoldDeadlineMs) then
    if !backend.fileLoaded then
      backend.enter.update fun b => { b with startupHoldDeadlineMs := now + libmpvStartupGateTimeoutMs }
    else backend.enter.releaseStartupGate.refreshState
  else backend.enter

end Commands

/-! ## Events of mpv -/

/-- `mpv_end_file_reason` -/
inductive MpvEndFileReason where
  | eof
  | stop
  | quit
  | error
  | redirect
deriving DecidableEq

/-- `LibmpvObservedProperty`, with what a change holds where it is of the format that was asked for. -/
inductive MpvProperty where
  | volume (value : Option ℤ)
  | timePos (value : Option ℤ)
  | pause (value : Option Bool)
  | mute (value : Option Bool)
  | duration (value : Option ℤ)
  | seekable (value : Option Bool)
  | pausedForCache (value : Option Bool)
  | seeking (value : Option Bool)
  | audioRate
deriving DecidableEq

/-- `LibmpvReplyId` -/
inductive LibmpvReplyId where
  | loadfile
  | play
  | pause
  | stop
  | seek
  | setVolume
  | setMute
deriving DecidableEq

section Events

variable (now : ℕ) (answers : LibmpvAnswers) (backend : LibmpvBackend)

/-- `MPV_EVENT_START_FILE` -/
def libmpvStartFile : LibmpvSection :=
  (backend.enter.update fun b => { b with
    lastError := 0
    stopped := false
    fileLoaded := false
    loadPending := false
    seeking := false }).refreshState

/-- `MPV_EVENT_FILE_LOADED`; the audio of a mirrored screen is attached apart from this. -/
def libmpvFileLoaded : LibmpvSection :=
  let x := backend.enter.update fun b =>
    { b with lastError := 0, stopped := false, fileLoaded := true }
  let x := x.maybeIssuePendingSeek answers
  if x.backend.playRequested && x.backend.playUnpausePending then
    let x := (x.update fun b => { b with playUnpausePending := false }).call answers (.setPause false)
    if answers.takes (.setPause false) then (x.update fun b => { b with pause := false }).refreshState
    else x.refreshState
  else x.refreshState

/-- `MPV_EVENT_SEEK` -/
def libmpvSeekEvent : LibmpvSection :=
  (backend.enter.update fun b => { b with
    seeking := true
    initialSeekEventSeen :=
      (b.startupRenderHold && b.initialSeekInflight) || b.initialSeekEventSeen }).refreshState

/-- What `MPV_EVENT_PLAYBACK_RESTART` does to the gate. -/
def libmpvRestartGate (x : LibmpvSection) : LibmpvSection :=
  if x.backend.startupRenderHold && x.backend.playRequested then
    if x.backend.initialSeekInflight && x.backend.initialSeekEventSeen then x.releaseStartupGate
    else if !x.backend.startupRestartSeen then
      x.update fun b => { b with
        startupRestartSeen := true
        startupHoldDeadlineMs := if !b.initialSeekInflight then now + libmpvInitialSeekWindowMs
          else b.startupHoldDeadlineMs }
    else if !x.backend.initialSeekInflight then x.releaseStartupGate
    else x
  else x

/-- `MPV_EVENT_PLAYBACK_RESTART` -/
def libmpvPlaybackRestart : LibmpvSection :=
  let x := backend.enter.update fun b =>
    { b with fileLoaded := true, stopped := false, seeking := false }
  (libmpvRestartGate now (x.maybeIssuePendingSeek answers)).refreshState

/-- `MPV_EVENT_END_FILE`; the end of a file that a load has replaced is ignored. -/
def libmpvEndFile (reason : MpvEndFileReason) (error : ℤ) : LibmpvSection :=
  if backend.loadPending then backend.enter
  else
    let x := (backend.enter.update fun b =>
      { b with stopped := true, fileLoaded := false }).resetStartupGate
    let x := (x.update fun b => { b with seeking := false }).clearPendingSeek
    let x := x.update fun b => { b with pausedForCache := false, pause := true }
    if reason = .error then
      ((x.update fun b => { b with lastError := error }).refreshState).queueEvent .error
    else
      let x := x.update fun b => { b with lastError := 0 }
      if reason = .eof && decide (x.backend.durationMs > 0) then
        (x.setPosition x.backend.durationMs).refreshState
      else (x.setPosition 0).refreshState

/-- `libmpv_handle_property_change` -/
def libmpvPropertyChange (change : MpvProperty) : LibmpvSection :=
  let x := backend.enter
  match change with
  | .volume none | .mute none | .audioRate => x
  | .volume (some value) => x.setVolume value
  | .timePos value => x.setPosition (value.getD 0)
  | .pause value => (x.update fun b => { b with pause := value.getD b.pause }).refreshState
  | .mute (some value) => x.setMute value
  | .duration value => x.setDuration (value.getD 0)
  | .seekable none => x.maybeIssuePendingSeek answers
  | .seekable (some value) => (x.setSeekable value).maybeIssuePendingSeek answers
  | .pausedForCache value =>
    (x.update fun b => { b with pausedForCache := value.getD b.pausedForCache }).refreshState
  | .seeking value => (x.update fun b => { b with seeking := value.getD b.seeking }).refreshState

/-- `MPV_EVENT_COMMAND_REPLY` and `MPV_EVENT_SET_PROPERTY_REPLY` -/
def libmpvReply (id : LibmpvReplyId) (failed : Bool) : LibmpvSection :=
  if !failed then backend.enter
  else (backend.enter.update fun b => { b with
    seeking := if id = .seek then false else b.seeking
    loadPending := if id = .loadfile then false else b.loadPending }).refreshState

/-- `MPV_EVENT_SHUTDOWN` -/
def libmpvShutdown : LibmpvSection :=
  let x := (backend.enter.update fun b =>
    { b with stopped := true, fileLoaded := false }).resetStartupGate
  ((x.update fun b => { b with seeking := false }).clearPendingSeek).refreshState

end Events

/-! ## Steps -/

/-- A command of the player, an event of mpv, or the end of a pump. -/
inductive LibmpvLabel where
  | setMedia (uri : CString) (now : ℕ) (answers : LibmpvAnswers)
  | play (now : ℕ) (answers : LibmpvAnswers)
  | pause (answers : LibmpvAnswers)
  | stop (answers : LibmpvAnswers)
  | seekTarget (request : LibmpvSeek) (now : ℕ) (answers : LibmpvAnswers)
  | setVolume (volume : ℤ) (answers : LibmpvAnswers)
  | setMute (mute : Bool) (answers : LibmpvAnswers)
  | pump (now : ℕ)
  | startFile
  | fileLoaded (answers : LibmpvAnswers)
  | seek
  | playbackRestart (now : ℕ) (answers : LibmpvAnswers)
  | endFile (reason : MpvEndFileReason) (error : ℤ)
  | property (change : MpvProperty) (answers : LibmpvAnswers)
  | reply (id : LibmpvReplyId) (failed : Bool)
  | shutdown

/-- The section of a label with the answer of a command; an event is always handled. -/
def libmpvSection : LibmpvLabel → Bool × LibmpvSection
  | .setMedia uri now answers => libmpvSetMedia now answers backend uri
  | .play now answers => libmpvPlay now answers backend
  | .pause answers => libmpvPause answers backend
  | .stop answers => libmpvStop answers backend
  | .seekTarget request now answers => libmpvSeekTarget now answers backend request
  | .setVolume volume answers => libmpvSetVolume answers backend volume
  | .setMute mute answers => libmpvSetMute answers backend mute
  | .pump now => (true, libmpvReleaseExpiredStartupGate now backend)
  | .startFile => (true, libmpvStartFile backend)
  | .fileLoaded answers => (true, libmpvFileLoaded answers backend)
  | .seek => (true, libmpvSeekEvent backend)
  | .playbackRestart now answers => (true, libmpvPlaybackRestart now answers backend)
  | .endFile reason error => (true, libmpvEndFile backend reason error)
  | .property change answers => (true, libmpvPropertyChange answers backend change)
  | .reply id failed => (true, libmpvReply backend id failed)
  | .shutdown => (true, libmpvShutdown backend)

/-- The backend behind a label. -/
def libmpvStep (label : LibmpvLabel) : LibmpvBackend :=
  (libmpvSection backend label).2.backend

end NXCast
