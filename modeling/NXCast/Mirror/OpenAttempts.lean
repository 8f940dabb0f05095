import NXCast.Mirror.RuntimeThreads

/-!
# Attempts that end with their session

A call that opens video or audio, or that stops single streams, sets `opening` and gives up the
mutex.  When it comes back it tells its own attempt by the generation it has seen and by the ids
of its session.  `airplay_mirror_runtime_stop` clears `opening` but leaves the generation, so a
later attempt looks the same.

In a run in which that mistake cannot happen, a call whose session has been stopped changes
nothing any more.  The invariant is that `opening` is set on behalf of a call that has not been
stopped and that still finds what it remembers.
-/

namespace NXCast

open Function Option

/-! ## What the runtime shows of an attempt -/

namespace AirPlayMirrorRuntime

/-- The calls that have created what the runtime holds. -/
def creators (runtime : AirPlayMirrorRuntime) : List (Option ℕ) :=
  [runtime.mirror.map RuntimeReceiver.creator, runtime.audio.map RuntimeReceiver.creator,
    runtime.bridge.map RuntimeBridge.creator, runtime.audioBridge.map RuntimeBridge.creator]

/-- The runtime holds a receiver or a bridge that call `id` has created. -/
def Holds (runtime : AirPlayMirrorRuntime) (id : ℕ) : Prop := some id ∈ runtime.creators

end AirPlayMirrorRuntime

namespace RuntimeStage

/-- The runtime shows the ids by which a call tells its own attempt. -/
def Recognises (runtime : AirPlayMirrorRuntime) : RuntimeStage → Prop
  | opening attempt | openFailed attempt => runtime.generation = attempt.previousGeneration
  | audioOpening attempt | audioOpenFailed attempt =>
    runtime.generation = attempt.previousGeneration ∧
      runtime.transportSessionId = attempt.sessionId
  | stoppingStreams sessionId => runtime.transportSessionId = sessionId
  | opened _ | audioOpened _ | video .. | audio .. => False

/-- The call has set `opening` and is not done. -/
def Attempting : RuntimeStage → Prop
  | opening _ | openFailed _ | audioOpening _ | audioOpenFailed _ | stoppingStreams _ => True
  | opened _ | audioOpened _ | video .. | audio .. => False

/-- The receiver has been installed in a session that is still there. -/
def Installed (runtime : AirPlayMirrorRuntime) : RuntimeStage → Prop
  | opened attempt => runtime.transportSessionId = attempt.sessionId
  | audioOpened attempt => runtime.transportSessionId = attempt.sessionId
  | _ => False

/-- What call `id` remembers is of that call and of a session. -/
def Of (id : ℕ) : RuntimeStage → Prop
  | opening attempt | openFailed attempt | opened attempt =>
    attempt.creator = id ∧ attempt.sessionId ≠ 0
  | audioOpening attempt | audioOpenFailed attempt | audioOpened attempt =>
    attempt.creator = id ∧ attempt.sessionId ≠ 0
  | stoppingStreams sessionId => sessionId ≠ 0
  | video .. | audio .. => True

lemma Recognises.attempting {runtime : AirPlayMirrorRuntime} {stage : RuntimeStage}
    (h : stage.Recognises runtime) : stage.Attempting := by
  cases stage <;> trivial

end RuntimeStage

namespace MirrorSystem

/-- Call `id` is an attempt whose session has not been stopped. -/
def UnderWay (s : MirrorSystem) (id : ℕ) : Prop :=
  ∃ call, s.calls id = some call ∧ call.stopped = false ∧ call.stage.Attempting

/-- A stop of a session with an attempt under way has something to stop; and where a call whose
session has been stopped still finds what it remembers, no attempt is under way. -/
def Calm (s : MirrorSystem) : MirrorLabel → Prop
  | .stop sessionId =>
    s.runtime.Stops sessionId ∨
      ∀ id call, s.calls id = some call → call.stage.Attempting → call.mark sessionId = call
  | .resume id _ _ =>
    ∀ call, s.calls id = some call → call.stopped → call.stage.Recognises s.runtime →
      ∀ other, ¬s.UnderWay other
  | _ => True

/-- A call whose session has been stopped is done with the runtime: the runtime holds nothing
that the call has created, and a section of the call changes nothing. -/
structure AttemptsEnd (s : MirrorSystem) (label : MirrorLabel) : Prop where
  not_held : ∀ id call, s.calls id = some call → call.stopped → ¬s.runtime.Holds id
  unchanged : ∀ id ok packets call, label = .resume id ok packets → s.calls id = some call →
    call.stage.session ≠ none → call.stopped → (s.step label).runtime = s.runtime

end MirrorSystem

/-! ## What the sections do to the ids -/

namespace AirPlayMirrorRuntime

variable {runtime runtime' runtime'' : AirPlayMirrorRuntime}

/-- A section that leaves alone what attempts go by. -/
structure SameIds (runtime runtime' : AirPlayMirrorRuntime) : Prop where
  opening : runtime'.opening = runtime.opening
  generation : runtime'.generation = runtime.generation
  transport : runtime'.transportSessionId = runtime.transportSessionId
  session : runtime'.sessionId = runtime.sessionId
  held : ∀ id, runtime'.Holds id → runtime.Holds id

namespace SameIds

lemma refl (runtime : AirPlayMirrorRuntime) : SameIds runtime runtime :=
  ⟨rfl, rfl, rfl, rfl, fun _ => id⟩

lemma trans (h : SameIds runtime runtime') (h' : SameIds runtime' runtime'') :
    SameIds runtime runtime'' where
  opening := h'.opening.trans h.opening
  generation := h'.generation.trans h.generation
  transport := h'.transport.trans h.transport
  session := h'.session.trans h.session
  held id hid := h.held id (h'.held id hid)

lemma recognises (h : SameIds runtime runtime') {stage : RuntimeStage} :
    stage.Recognises runtime' ↔ stage.Recognises runtime := by
  cases stage <;> simp only [RuntimeStage.Recognises, h.generation, h.transport]

lemma installed (h : SameIds runtime runtime') {stage : RuntimeStage} :
    stage.Installed runtime' ↔ stage.Installed runtime := by
  cases stage <;> simp only [RuntimeStage.Installed, h.transport]

lemma enqueue {command : AirPlayRuntimeCommand} : SameIds runtime (runtime.enqueue command).2 := by
  obtain ⟨commands, h⟩ := runtime.enqueue_eq command
  rw [h]
  exact ⟨rfl, rfl, rfl, rfl, fun _ => id⟩

lemma setStatus {status : AirPlayMirrorRuntimeStatus} :
    SameIds runtime (runtime.setStatus status) := by
  obtain ⟨commands, h⟩ := runtime.setStatus_eq status
  rw [h]
  exact ⟨rfl, rfl, rfl, rfl, fun _ => id⟩

variable {generation : UInt32}

lemma commandComplete {ok : Bool} {successStatus : AirPlayMirrorRuntimeStatus} :
    SameIds runtime (runtime.commandComplete generation ok successStatus) := by
  rw [AirPlayMirrorRuntime.commandComplete]
  split
  · exact setStatus
  · exact refl runtime

lemma of_creators (hopen : runtime'.opening = runtime.opening)
    (hgen : runtime'.generation = runtime.generation)
    (htrans : runtime'.transportSessionId = runtime.transportSessionId)
    (hsess : runtime'.sessionId = runtime.sessionId)
    (hcreators : runtime'.creators = runtime.creators) : SameIds runtime runtime' where
  opening := hopen
  generation := hgen
  transport := htrans
  session := hsess
  held id hid := by
    rw [Holds, hcreators] at hid
    exact hid

lemma detachAudio {audio keepVideo : Bool} :
    SameIds runtime (runtime.detachAudio audio keepVideo) := by
  rw [AirPlayMirrorRuntime.detachAudio]
  split
  · exact .trans .enqueue (.of_creators rfl rfl rfl rfl rfl)
  · exact .of_creators rfl rfl rfl rfl rfl

lemma recordAudio {sessionId : UInt64} (h : runtime.recordAudio sessionId = some runtime') :
    SameIds runtime runtime' := by
  rw [AirPlayMirrorRuntime.recordAudio] at h
  split at h
  · cases h
  dsimp only at h
  split at h <;> cases h
  all_goals exact of_creators rfl rfl rfl rfl (by simp [creators, comp_def])

lemma record {sessionId : UInt64} : SameIds runtime (runtime.record sessionId) := by
  rw [AirPlayMirrorRuntime.record]
  split
  · exact refl runtime
  dsimp only
  generalize hq : AirPlayMirrorRuntime.enqueue _ _ = queued
  have hsame : SameIds runtime queued.2 := by
    rw [← hq]
    refine trans ?_ enqueue
    exact of_creators rfl rfl rfl rfl (by simp [creators, comp_def])
  obtain ⟨ok, queued⟩ := queued
  cases ok with
  | false =>
    refine hsame.trans (trans ?_ setStatus)
    exact of_creators rfl rfl rfl rfl rfl
  | true => exact hsame.trans setStatus

lemma videoEnd {pushed keyframe : Bool} :
    SameIds runtime (runtime.videoEnd generation pushed keyframe) := by
  rw [AirPlayMirrorRuntime.videoEnd]
  generalize hq : AirPlayMirrorRuntime.enqueue _ _ = queued
  have hsame : SameIds runtime queued.2 := by
    rw [← hq]
    exact enqueue
  obtain ⟨ok, queued⟩ := queued
  split
  · split
    · exact setStatus
    split
    · cases ok with
      | true => exact hsame.trans (of_creators rfl rfl rfl rfl rfl)
      | false => exact hsame.trans setStatus
    · exact refl runtime
  · exact refl runtime

lemma audioEnd {bridge : RuntimeBridge} {pushed packets : Bool} :
    SameIds runtime (runtime.audioEnd generation bridge pushed packets) := by
  rw [AirPlayMirrorRuntime.audioEnd]
  generalize hq : AirPlayMirrorRuntime.enqueue _ _ = queued
  have hsame : SameIds runtime queued.2 := by
    rw [← hq]
    exact enqueue
  obtain ⟨ok, queued⟩ := queued
  split
  · split
    · cases ok with
      | true => exact hsame.trans (of_creators rfl rfl rfl rfl rfl)
      | false => exact hsame
    · exact refl runtime
  · exact refl runtime

lemma recordMirror {creator : ℕ} : SameIds runtime (runtime.recordMirror creator) := by
  refine of_creators rfl rfl rfl rfl ?_
  simp only [creators, AirPlayMirrorRuntime.recordMirror, map_map]
  congr 2
  funext mirror
  dsimp only [comp]
  split <;> rfl

lemma recordReceiver {creator : ℕ} : SameIds runtime (runtime.recordReceiver creator) := by
  refine of_creators rfl rfl rfl rfl ?_
  simp only [creators, AirPlayMirrorRuntime.recordReceiver, map_map]
  congr 3
  funext audio
  dsimp only [comp]
  split <;> rfl

end SameIds

/-- What it takes to install an attempt's receiver, and what becomes of the ids. -/
structure Installs (runtime runtime' : AirPlayMirrorRuntime) (creator : ℕ) (sessionId : UInt64) :
    Prop where
  opening : runtime.opening = true
  transport : runtime.transportSessionId = 0 ∨ runtime.transportSessionId = sessionId
  opening' : runtime'.opening = false
  transport' : runtime'.transportSessionId = sessionId
  session' : runtime'.sessionId = sessionId ∨ runtime'.sessionId = runtime.sessionId
  held : ∀ id, runtime'.Holds id → id = creator ∨ runtime.Holds id

variable {id : ℕ}

lemma holds_openInstalled {attempt : OpenAttempt} (h : (runtime.openInstalled attempt).Holds id) :
    id = attempt.creator ∨ runtime.Holds id := by
  unfold Holds creators openInstalled at *
  cases attempt.hasAudio <;> simp at h ⊢ <;> grind

variable {attempt : AudioOpenAttempt}

lemma holds_audioInstalled
    (h : (runtime.audioInstalled attempt).Holds id) : id = attempt.creator ∨ runtime.Holds id := by
  unfold Holds creators audioInstalled at *
  cases attempt.bridge <;> simp at h ⊢ <;> grind

lemma holds_audioBridgeInstalled
    (h : (runtime.audioBridgeInstalled attempt).Holds id) :
    id = attempt.creator ∨ runtime.Holds id := by
  unfold Holds creators audioBridgeInstalled at *
  grind

lemma holds_removeReceivers {video audio : Bool}
    (h : (runtime.removeReceivers video audio).Holds id) : runtime.Holds id := by
  unfold Holds creators removeReceivers at *
  cases video <;> cases audio <;> simp at h ⊢ <;> grind

variable {sessionId : UInt64}

lemma holds_videoRemoved {hadVideo keepAudio : Bool}
    (h : (runtime.videoRemoved sessionId hadVideo keepAudio).Holds id) : runtime.Holds id := by
  unfold Holds creators videoRemoved at *
  cases hadVideo <;> cases keepAudio <;> simp at h ⊢ <;> grind

namespace Installs

/-- Video is installed with bridges of its own; the audio receiver stays. -/
lemma of_openInstall {attempt : OpenAttempt} (h : runtime.openInstall attempt = some runtime') :
    Installs runtime runtime' attempt.creator attempt.sessionId ∧
      runtime.generation = attempt.previousGeneration := by
  rw [openInstall] at h
  split at h
  · rename_i htest
    obtain ⟨hopen, hgen, -, htrans, -, -⟩ := htest
    have hsame : SameIds (runtime.openInstalled attempt) runtime' := by
      split at h <;> cases h
      · refine .trans ?_ .setStatus
        exact .trans .enqueue (.of_creators rfl rfl rfl rfl rfl)
      · exact .setStatus
    refine ⟨⟨hopen, htrans, hsame.opening, hsame.transport, .inl hsame.session, ?_⟩, hgen⟩
    exact fun id hid => holds_openInstalled (hsame.held id hid)
  · cases h

/-- Audio is installed with a bridge of its own, for the video that there is or for itself. -/
lemma of_audioOpenInstall
    (h : runtime.audioOpenInstall attempt = some runtime') :
    Installs runtime runtime' attempt.creator attempt.sessionId ∧
      runtime.generation = attempt.previousGeneration ∧
      runtime.transportSessionId = attempt.sessionId := by
  rw [audioOpenInstall] at h
  split at h
  · rename_i htest
    obtain ⟨hopen, htrans, -, hgen, -, -⟩ := htest
    refine ⟨?_, hgen, htrans⟩
    split at h <;> cases h
    · have hsame : SameIds ((runtime.audioInstalled attempt).audioBridgeInstalled attempt)
          (((runtime.audioInstalled attempt).audioBridgeInstalled attempt).setStatus .preparing) :=
        .setStatus
      refine ⟨hopen, .inr htrans, hsame.opening, hsame.transport.trans htrans,
        .inl hsame.session, fun id hid => ?_⟩
      rcases holds_audioBridgeInstalled (hsame.held id hid) with hid | hid
      · exact .inl hid
      · exact holds_audioInstalled hid
    · exact ⟨hopen, .inr htrans, rfl, htrans, .inr rfl, fun _ => holds_audioInstalled⟩
  · cases h

end Installs

/-- What `airplay_mirror_runtime_stop_streams` needs in its first section, and what it leaves. -/
structure StopsStreams (runtime runtime' : AirPlayMirrorRuntime) (sessionId : UInt64) : Prop where
  transport : runtime.transportSessionId = sessionId
  transport' : runtime'.transportSessionId = sessionId
  session' : runtime'.sessionId = runtime.sessionId ∨ runtime'.sessionId = sessionId ∨
    runtime'.sessionId = 0
  held : ∀ id, runtime'.Holds id → runtime.Holds id

lemma StopsStreams.of_stopStreamsBegin {video audio : Bool}
    (h : runtime.stopStreamsBegin sessionId video audio = some runtime') :
    StopsStreams runtime runtime' sessionId := by
  rw [stopStreamsBegin] at h
  split at h
  · cases h
  rename_i htest
  have htrans : runtime.transportSessionId = sessionId := by
    by_contra hne
    exact htest (.inl hne)
  dsimp only at h
  generalize hkeep : (runtime.mirror.isSome && !video) = keepVideo at h
  generalize hleft : (runtime.removeReceivers video audio).detachAudio audio keepVideo = left at h
  have hsame : SameIds (runtime.removeReceivers video audio) left := by
    rw [← hleft]
    exact .detachAudio
  split at h <;> cases h
  · exact ⟨htrans, hsame.transport.trans htrans, .inl hsame.session,
      fun id hid => holds_removeReceivers (hsame.held id hid)⟩
  rw [removeVideo]
  generalize hadvideo : runtime.mirror.isSome = hadVideo
  generalize hkeepAudio : (runtime.audio.isSome && !audio) = keepAudio
  generalize htold : (if left.playerLoadQueued then _
    else left.videoRemoved sessionId hadVideo keepAudio) = told
  have hvideo : SameIds (left.videoRemoved sessionId hadVideo keepAudio) told := by
    rw [← htold]
    split
    · exact .trans .enqueue .setStatus
    · exact .refl _
  refine ⟨htrans, ?_, .inr ?_, fun id hid => ?_⟩
  · exact hvideo.transport.trans (hsame.transport.trans htrans)
  · refine Or.imp hvideo.session.trans hvideo.session.trans ?_
    cases keepAudio with
    | true => exact .inl rfl
    | false => exact .inr rfl
  · exact holds_removeReceivers (hsame.held id (holds_videoRemoved (hvideo.held id hid)))

/-- The last section of an attempt takes `opening` back where the call finds what it remembers,
and changes nothing elsewhere. -/
structure Closes (stage : RuntimeStage) (runtime runtime' : AirPlayMirrorRuntime) : Prop where
  cleared : runtime.opening → stage.Recognises runtime →
    SameIds { runtime with opening := false } runtime'
  unchanged : ¬(runtime.opening ∧ stage.Recognises runtime) → runtime' = runtime

namespace Closes

lemma openCleanup {attempt : OpenAttempt} :
    Closes (.openFailed attempt) runtime (runtime.openCleanup attempt) where
  cleared hopen hgen := by
    replace hgen : runtime.generation = attempt.previousGeneration := hgen
    rw [AirPlayMirrorRuntime.openCleanup, if_pos ⟨hopen, hgen⟩]
    split
    · exact .refl _
    · exact .setStatus
  unchanged hnot := if_neg hnot

lemma audioOpenCleanup :
    Closes (.audioOpenFailed attempt) runtime (runtime.audioOpenCleanup attempt) where
  cleared hopen hids := by
    obtain ⟨hgen, htrans⟩ := hids
    rw [AirPlayMirrorRuntime.audioOpenCleanup, if_pos ⟨hopen, hgen, htrans⟩]
    exact .refl _
  unchanged hnot := if_neg hnot

lemma stopStreamsEnd {sessionId : UInt64} :
    Closes (.stoppingStreams sessionId) runtime (runtime.stopStreamsEnd sessionId) where
  cleared _ htrans := by
    replace htrans : runtime.transportSessionId = sessionId := htrans
    rw [AirPlayMirrorRuntime.stopStreamsEnd, if_pos htrans]
    exact .refl _
  unchanged hnot := by
    rw [AirPlayMirrorRuntime.stopStreamsEnd]
    split_ifs with htrans
    · have hopen : runtime.opening = false := by
        by_contra hopen
        exact hnot ⟨by simpa using hopen, htrans⟩
      rw [← hopen]
    · rfl

end Closes

lemma stop_of_stops (h : runtime.Stops sessionId) :
    SameIds runtime.cleared (runtime.stop sessionId) := by
  rw [stop, if_pos h]
  generalize htold : (if runtime.playerLoadQueued then _ else runtime.cleared) = told
  have hclear : SameIds runtime.cleared told := by
    rw [← htold]
    split
    · exact .enqueue
    · exact .refl _
  split
  · exact hclear.trans .setStatus
  · exact hclear

lemma not_holds_cleared : ¬runtime.cleared.Holds id := by
  simp [Holds, creators, cleared]

lemma recordMirror_of_not_holds {creator : ℕ} (h : ¬runtime.Holds creator) :
    runtime.recordMirror creator = runtime := by
  rw [recordMirror]
  cases hmirror : runtime.mirror with
  | none => rw [map_none, ← hmirror]
  | some mirror =>
    have hne : mirror.creator ≠ creator := by
      rintro rfl
      exact h (by simp [Holds, creators, hmirror])
    rw [map_some, if_neg hne, ← hmirror]

lemma recordReceiver_of_not_holds {creator : ℕ} (h : ¬runtime.Holds creator) :
    runtime.recordReceiver creator = runtime := by
  rw [recordReceiver]
  cases haudio : runtime.audio with
  | none => rw [map_none, ← haudio]
  | some audio =>
    have hne : audio.creator ≠ creator := by
      rintro rfl
      exact h (by simp [Holds, creators, haudio])
    rw [map_some, if_neg hne, ← haudio]

end AirPlayMirrorRuntime

/-! ## The invariant -/

namespace MirrorSystem

open AirPlayMirrorRuntime

variable {s s' : MirrorSystem}

/-- `opening` is set on behalf of a call that has not been stopped and that finds what it
remembers; what the runtime holds has been created by calls of its session, none of which has
been stopped. -/
structure Sound (s : MirrorSystem) : Prop where
  session : s.runtime.sessionId ≠ 0 → s.runtime.sessionId = s.runtime.transportSessionId
  opening : s.runtime.opening → ∃ id call, s.calls id = some call ∧ call.stopped = false ∧
    call.stage.Recognises s.runtime
  held : ∀ id, s.runtime.Holds id → s.runtime.transportSessionId ≠ 0 ∧ id < s.next
  of : ∀ id call, s.calls id = some call → call.stage.Of id ∧ id < s.next
  installed : ∀ id call, s.calls id = some call → s.runtime.Holds id →
    call.stopped = false ∧ call.stage.Installed s.runtime

namespace Sound

lemma initial : MirrorSystem.initial.Sound where
  session h := absurd rfl h
  opening h := nomatch h
  held id hid := by simp [Holds, creators, MirrorSystem.initial, created] at hid
  of id call hcall := nomatch hcall
  installed id call hcall := nomatch hcall

lemma same (h : s.Sound) (hids : SameIds s.runtime s'.runtime) (hcalls : s'.calls = s.calls)
    (hnext : s'.next = s.next) : s'.Sound where
  session := by
    rw [hids.session, hids.transport]
    exact h.session
  opening hopen := by
    rw [hids.opening] at hopen
    obtain ⟨id, call, hcall, hstop, hknow⟩ := h.opening hopen
    rw [hcalls]
    exact ⟨id, call, hcall, hstop, hids.recognises.mpr hknow⟩
  held id hid := by
    rw [hids.transport, hnext]
    exact h.held id (hids.held id hid)
  of id call hcall := by
    rw [hcalls] at hcall
    rw [hnext]
    exact h.of id call hcall
  installed id call hcall hid := by
    rw [hcalls] at hcall
    rw [hids.installed]
    exact h.installed id call hcall (hids.held id hid)

variable {call : RuntimeCall} {runtime : AirPlayMirrorRuntime}

variable {call' : Option RuntimeCall}

/-- A call goes on or returns; if the runtime is still opening, it is not on its behalf, or it
still finds what it remembers. -/
lemma goOn (h : s.Sound) {id : ℕ} (hcall : s.calls id = some call)
    (hids : SameIds { s.runtime with opening := runtime.opening } runtime)
    (hopen : runtime.opening → s.runtime.opening ∧ (call.stopped = false →
      call.stage.Recognises s.runtime → ∃ next ∈ call', next.stopped = false ∧
      next.stage.Recognises s.runtime))
    (hnext : ∀ next ∈ call', next.stage.Of id ∧ (s.runtime.Holds id → next.stopped = false ∧
      next.stage.Installed s.runtime)) :
    (s.goOn id runtime call').Sound where
  session := by
    rw [goOn_runtime, hids.session, hids.transport]
    exact h.session
  opening hset := by
    obtain ⟨hwas, hgoes⟩ := hopen hset
    obtain ⟨other, witness, hwitness, hstop, hknow⟩ := h.opening hwas
    by_cases hother : other = id
    · subst hother
      rw [hcall, some.injEq] at hwitness
      subst hwitness
      obtain ⟨next, hmem, hgo, hstill⟩ := hgoes hstop hknow
      exact ⟨other, next, goOn_calls_self.trans hmem, hgo, hids.recognises.mpr hstill⟩
    · exact ⟨other, witness, (goOn_calls_of_ne hother).trans hwitness, hstop,
        hids.recognises.mpr hknow⟩
  held other hother := by
    rw [goOn_runtime, hids.transport]
    exact h.held other (hids.held other hother)
  of other next hother := by
    by_cases hid : other = id
    · subst hid
      rw [goOn_calls_self] at hother
      exact ⟨(hnext next hother).1, (h.of other call hcall).2⟩
    · rw [goOn_calls_of_ne hid] at hother
      exact h.of other next hother
  installed other next hother hheld := by
    rw [goOn_runtime, hids.installed]
    by_cases hid : other = id
    · subst hid
      rw [goOn_calls_self] at hother
      exact (hnext next hother).2 (hids.held other hheld)
    · rw [goOn_calls_of_ne hid] at hother
      exact h.installed other next hother (hids.held other hheld)

variable {stage : RuntimeStage}

/-- The last section of an attempt; one whose session has been stopped finds nothing. -/
lemma close (h : s.Sound) {id : ℕ} (hcall : s.calls id = some call)
    (hcloses : Closes stage s.runtime runtime)
    (hstage : stage.Recognises s.runtime ↔ call.stage.Recognises s.runtime) :
    (s.goOn id runtime none).Sound := by
  by_cases hfinds : s.runtime.opening ∧ stage.Recognises s.runtime
  · have hclear := hcloses.cleared hfinds.1 hfinds.2
    refine h.goOn hcall ?_ ?_ (by simp)
    · rw [hclear.opening]
      exact hclear
    · intro hset
      rw [hclear.opening] at hset
      cases hset
  · rw [hcloses.unchanged hfinds]
    refine h.goOn hcall (.refl _) ?_ (by simp)
    intro hset
    exact ⟨hset, fun _ hknow => absurd ⟨hset, hstage.mpr hknow⟩ hfinds⟩

/-- An attempt that has failed to install its receiver goes on to its clean-up. -/
lemma fail (h : s.Sound) {id : ℕ} (hcall : s.calls id = some call)
    (hof : call.stage.Of id → stage.Of id)
    (hknow : call.stage.Recognises s.runtime → stage.Recognises s.runtime)
    (hinst : ¬call.stage.Installed s.runtime) :
    (s.goOn id s.runtime (some { call with stage })).Sound := by
  refine h.goOn hcall (.refl _) ?_ ?_
  · intro hset
    exact ⟨hset, fun hstop hfinds => ⟨_, rfl, hstop, hknow hfinds⟩⟩
  · rintro next ⟨⟩
    exact ⟨hof (h.of id call hcall).1, fun hheld => absurd (h.installed id call hcall hheld).2 hinst⟩

lemma install (h : s.Sound) {id : ℕ} (hcall : s.calls id = some call) (hstop : call.stopped = false)
    {sessionId : UInt64} (hinst : Installs s.runtime runtime id sessionId) (hsess : sessionId ≠ 0)
    (hnext : ∀ next ∈ call', next.stopped = call.stopped ∧ next.stage.Of id ∧ (runtime.transportSessionId = sessionId → next.stage.Installed runtime)) :
    (s.goOn id runtime call').Sound where
  session hset := by
    rw [goOn_runtime] at *
    rcases hinst.session' with hnew | hsame
    · rw [hnew, hinst.transport']
    rw [hsame] at hset ⊢
    rw [h.session hset, hinst.transport']
    rcases hinst.transport with hzero | htrans
    · exact absurd ((h.session hset).trans hzero) hset
    · exact htrans
  opening hset := by
    rw [goOn_runtime, hinst.opening'] at hset
    cases hset
  held other hother := by
    rw [goOn_runtime, hinst.transport', goOn_next]
    refine ⟨hsess, ?_⟩
    rcases hinst.held other hother with rfl | hheld
    · exact (h.of other call hcall).2
    · exact (h.held other hheld).2
  of other next hother := by
    by_cases hid : other = id
    · subst hid
      rw [goOn_calls_self] at hother
      exact ⟨(hnext next hother).2.1, (h.of other call hcall).2⟩
    · rw [goOn_calls_of_ne hid] at hother
      exact h.of other next hother
  installed other next hother hheld := by
    by_cases hid : other = id
    · subst hid
      rw [goOn_calls_self] at hother
      obtain ⟨hsame, -, hinstalled⟩ := hnext next hother
      exact ⟨hsame.trans hstop, hinstalled hinst.transport'⟩
    rw [goOn_calls_of_ne hid] at hother
    have hheld := (hinst.held other hheld).resolve_left hid
    obtain ⟨hgo, hinstalled⟩ := h.installed other next hother hheld
    have htrans : runtime.transportSessionId = s.runtime.transportSessionId :=
      hinst.transport'.trans (hinst.transport.resolve_left (h.held other hheld).1).symm
    refine ⟨hgo, ?_⟩
    cases hstage : next.stage <;>
      simp only [hstage, RuntimeStage.Installed] at hinstalled ⊢ <;>
      exact htrans.trans hinstalled

lemma begin (h : s.Sound)
    (hsess : runtime.sessionId ≠ 0 → runtime.sessionId = runtime.transportSessionId)
    (htrans : runtime.transportSessionId = s.runtime.transportSessionId)
    (hheld : ∀ id, runtime.Holds id → s.runtime.Holds id)
    (hopen : stage.Recognises runtime ∨ runtime = s.runtime) (hof : stage.Of s.next) :
    (s.begin runtime stage).Sound where
  session := hsess
  opening hset := by
    rcases hopen with hknow | hsame
    · exact ⟨s.next, _, begin_calls_self, rfl, hknow⟩
    rw [begin_runtime, hsame] at hset ⊢
    obtain ⟨other, witness, hwitness, hrest⟩ := h.opening hset
    exact ⟨other, witness, (begin_calls_of_ne (h.of other witness hwitness).2.ne).trans hwitness,
      hrest⟩
  held other hother := by
    rw [begin_runtime, htrans, begin_next]
    obtain ⟨hne, hlt⟩ := h.held other (hheld other hother)
    exact ⟨hne, hlt.trans (Nat.lt_succ_self _)⟩
  of other next hother := by
    by_cases hid : other = s.next
    · subst hid
      rw [begin_calls_self, some.injEq] at hother
      subst hother
      exact ⟨hof, Nat.lt_succ_self _⟩
    · rw [begin_calls_of_ne hid] at hother
      obtain ⟨hstage, hlt⟩ := h.of other next hother
      exact ⟨hstage, hlt.trans (Nat.lt_succ_self _)⟩
  installed other next hother hothers := by
    have hlt := (h.held other (hheld other hothers)).2
    rw [begin_calls_of_ne hlt.ne] at hother
    obtain ⟨hgo, hinst⟩ := h.installed other next hother (hheld other hothers)
    refine ⟨hgo, ?_⟩
    cases hstage : next.stage <;>
      simp only [hstage, RuntimeStage.Installed, begin_runtime] at hinst ⊢ <;>
      exact htrans.trans hinst

/-- A stop marks the calls of its session, and the runtime holds nothing of them. -/
lemma stop (h : s.Sound) {sessionId : UInt64} (hcalm : s.Calm (.stop sessionId)) :
    (s.stop sessionId).Sound := by
  have hof : ∀ id call, (s.stop sessionId).calls id = some call →
      ∃ before, s.calls id = some before ∧ before.mark sessionId = call := by
    intro id call hcall
    exact map_eq_some_iff.mp hcall
  by_cases hstops : s.runtime.Stops sessionId
  · have hclear := stop_of_stops hstops
    have hnone : ∀ id, ¬(s.runtime.stop sessionId).Holds id :=
      fun id hid => not_holds_cleared (hclear.held id hid)
    constructor
    · exact absurd hclear.session
    · intro hset
      rw [MirrorSystem.stop, hclear.opening] at hset
      cases hset
    · exact fun id hid => absurd hid (hnone id)
    · intro id call hcall
      obtain ⟨before, hpre, rfl⟩ := hof id call hcall
      rw [RuntimeCall.mark_stage]
      exact h.of id before hpre
    · exact fun id call _ hid => absurd hid (hnone id)
  have hruntime : (s.stop sessionId).runtime = s.runtime := if_neg hstops
  have hattempts := hcalm.resolve_left hstops
  constructor
  · rw [hruntime]
    exact h.session
  · rw [hruntime]
    intro hset
    obtain ⟨id, call, hcall, hrest⟩ := h.opening hset
    refine ⟨id, call, ?_, hrest⟩
    show (s.calls id).map _ = _
    rw [hcall, map_some, hattempts id call hcall hrest.2.attempting]
  · rw [hruntime]
    exact h.held
  · intro id call hcall
    obtain ⟨before, hpre, rfl⟩ := hof id call hcall
    rw [RuntimeCall.mark_stage]
    exact h.of id before hpre
  rw [hruntime]
  intro id call hcall hid
  obtain ⟨before, hpre, rfl⟩ := hof id call hcall
  obtain ⟨hgo, hinst⟩ := h.installed id before hpre hid
  have hother : ¬before.stage.session.any fun session => sessionId = 0 ∨ session = sessionId := by
    -- the stop is not of the session whose receiver the runtime holds
    have hheld := (h.held id hid).1
    cases hstage : before.stage <;>
      simp only [hstage, RuntimeStage.Installed] at hinst <;>
      simp only [RuntimeStage.session, any_some, decide_eq_true_eq, ← hinst] <;>
      exact fun hsess => hstops ⟨.inr hheld, hsess.imp_right .inr⟩
  rw [RuntimeCall.mark, if_neg hother]
  exact ⟨hgo, hinst⟩

end Sound

variable {call : RuntimeCall}

variable {packets : Bool}

/-- A call whose session has been stopped does not find what it remembers while the runtime is
opening: it would be on behalf of an attempt that is under way. -/
lemma Sound.not_finds (h : s.Sound) {id : ℕ} {ok : Bool}
    (hcalm : s.Calm (.resume id ok packets)) (hcall : s.calls id = some call)
    (hstop : call.stopped) : ¬(s.runtime.opening ∧ call.stage.Recognises s.runtime) := by
  rintro ⟨hopen, hknow⟩
  obtain ⟨other, witness, hwitness, hgo, hfinds⟩ := h.opening hopen
  exact hcalm call hcall hstop hknow other ⟨witness, hwitness, hgo, hfinds.attempting⟩

lemma Sound.resume (h : s.Sound) {id : ℕ} {ok : Bool}
    (hcalm : s.Calm (.resume id ok packets)) : (s.resume id ok packets).Sound := by
  rw [MirrorSystem.resume]
  cases hcall : s.calls id with
  | none => exact h
  | some call =>
    have hof := (h.of id call hcall).1
    have hfinds := h.not_finds hcalm hcall
    -- a call that sets nothing
    have hquiet : ∀ runtime, SameIds s.runtime runtime → ¬call.stage.Recognises s.runtime →
        (s.goOn id runtime none).Sound := by
      intro runtime hsame hnot
      refine h.goOn hcall ?_ ?_ (by simp)
      · rw [hsame.opening]
        exact hsame
      · intro hset
        rw [hsame.opening] at hset
        exact ⟨hset, fun _ hknow => absurd hknow hnot⟩
    obtain ⟨stage, stopped⟩ := call
    cases stage with
    | opening attempt =>
      dsimp only
      cases ok with
      | false => exact h.close hcall .openCleanup .rfl
      | true =>
        cases hinstall : s.runtime.openInstall attempt with
        | none => exact h.fail hcall (fun hof => hof) (fun hids => hids) (fun hin => hin)
        | some runtime =>
          obtain ⟨hinst, hgen⟩ := Installs.of_openInstall hinstall
          have hstop : stopped = false := by
            by_contra hstop
            exact hfinds (by simpa using hstop) ⟨hinst.opening, hgen⟩
          obtain ⟨rfl, hsess⟩ := hof
          apply h.install hcall hstop hinst hsess
          intro next hnext
          by_cases hrec : runtime.recording
          · simp only [hrec, if_true, mem_some_iff] at hnext
            subst hnext
            exact ⟨rfl, ⟨rfl, hsess⟩, fun htrans => htrans⟩
          · simp [hrec] at hnext
    | openFailed attempt => exact h.close hcall .openCleanup .rfl
    | opened attempt => exact hquiet _ .recordMirror (fun hnot => hnot)
    | audioOpening attempt =>
      dsimp only
      cases ok with
      | false => exact h.close hcall .audioOpenCleanup .rfl
      | true =>
        cases hinstall : s.runtime.audioOpenInstall attempt with
        | none => exact h.fail hcall (fun hof => hof) (fun hids => hids) (fun hin => hin)
        | some runtime =>
          obtain ⟨hinst, hids⟩ := Installs.of_audioOpenInstall hinstall
          have hstop : stopped = false := by
            by_contra hstop
            exact hfinds (by simpa using hstop) ⟨hinst.opening, hids⟩
          obtain ⟨rfl, hsess⟩ := hof
          apply h.install hcall hstop hinst hsess
          intro next hnext
          by_cases hrec : runtime.recording
          · simp only [hrec, if_true, mem_some_iff] at hnext
            subst hnext
            exact ⟨rfl, ⟨rfl, hsess⟩, fun htrans => htrans⟩
          · simp [hrec] at hnext
    | audioOpenFailed attempt => exact h.close hcall .audioOpenCleanup .rfl
    | audioOpened attempt => exact hquiet _ .recordReceiver (fun hnot => hnot)
    | stoppingStreams sessionId => exact h.close hcall .stopStreamsEnd .rfl
    | video generation keyframe => exact hquiet _ .videoEnd (fun hnot => hnot)
    | audio generation bridge => exact hquiet _ .audioEnd (fun hnot => hnot)

lemma Sound.work (h : s.Sound) {player : RuntimePlayerCall → Bool} : (s.work player).Sound := by
  rw [MirrorSystem.work]
  split
  · split
    · exact h
    · exact h.same (.of_creators rfl rfl rfl rfl rfl) rfl rfl
  · rw [process]
    split <;> first | exact h.same (.refl _) rfl rfl | skip
    all_goals split <;> exact h.same (.refl _) rfl rfl
  · exact h.same (.refl _) rfl rfl
  · exact h.same .commandComplete rfl rfl

/-- A transport is prepared where there is none, so no attempt goes by it. -/
lemma Sound.prepare (h : s.Sound) {sessionId : UInt64} {timing : Option ℕ} {usesNtpTiming : Bool}
    {runtime : AirPlayMirrorRuntime}
    (hprep : s.runtime.transportPrepare sessionId timing usesNtpTiming = some runtime) :
    { s with runtime, next := s.next + 1 }.Sound := by
  rw [AirPlayMirrorRuntime.transportPrepare] at hprep
  split at hprep
  · rename_i hfree
    obtain ⟨htrans, hsess, -⟩ := hfree
    cases hprep
    have hnone : ∀ id, ¬s.runtime.Holds id := fun id hid => (h.held id hid).1 htrans
    constructor
    · exact absurd hsess
    · intro hset
      obtain ⟨id, call, hcall, hgo, hknow⟩ := h.opening hset
      refine ⟨id, call, hcall, hgo, ?_⟩
      have hof := (h.of id call hcall).1
      cases hstage : call.stage <;>
        simp only [hstage, RuntimeStage.Recognises, RuntimeStage.Of] at hknow hof ⊢
      · exact hknow
      · exact hknow
      · exact absurd (hknow.2.symm.trans htrans) hof.2
      · exact absurd (hknow.2.symm.trans htrans) hof.2
      · exact absurd (hknow.symm.trans htrans) hof
    · exact fun id hid => absurd hid (hnone id)
    · intro id call hcall
      obtain ⟨hof, hlt⟩ := h.of id call hcall
      exact ⟨hof, hlt.trans (Nat.lt_succ_self _)⟩
    · exact fun id call _ hid => absurd hid (hnone id)
  · cases hprep

/-- **One step.** -/
theorem Sound.step (h : s.Sound) {label : MirrorLabel} (hcalm : s.Calm label) :
    (s.step label).Sound := by
  cases label with
  | transportPrepare sessionId peerIpv4Address peerTimingPort usesNtpTiming timingCreated =>
    rw [MirrorSystem.step, MirrorSystem.transportPrepare]
    split
    · exact h
    dsimp only
    split
    · rename_i runtime hprep
      exact h.prepare hprep
    · exact h
  | «open» sessionId streamConnectionId =>
    rw [MirrorSystem.step, MirrorSystem.open]
    split_ifs with hargs
    · exact h
    split
    · rename_i attempt runtime hbegin
      rw [openBegin] at hbegin
      split at hbegin
      · cases hbegin
      cases hbegin
      exact h.begin h.session rfl (fun _ hid => hid) (.inl rfl)
        ⟨rfl, fun hzero => hargs (.inl hzero)⟩
    · exact h
  | audioOpen sessionId =>
    rw [MirrorSystem.step, MirrorSystem.audioOpen]
    split_ifs with hargs
    · exact h
    split
    · rename_i attempt runtime hbegin
      rw [audioOpenBegin] at hbegin
      split at hbegin
      · cases hbegin
      rename_i htest
      cases hbegin
      have htrans : s.runtime.transportSessionId = sessionId := by
        by_contra hne
        exact htest (.inr (.inr (.inl hne)))
      exact h.begin h.session rfl (fun _ hid => hid) (.inl ⟨rfl, htrans⟩) ⟨rfl, hargs⟩
    · exact h
  | recordAudio sessionId =>
    rw [MirrorSystem.step, MirrorSystem.recordAudio]
    split
    · rename_i runtime hrecord
      exact h.same (.recordAudio hrecord) rfl rfl
    · exact h
  | record sessionId => exact h.same .record rfl rfl
  | stopStreams sessionId video audio =>
    rw [MirrorSystem.step, MirrorSystem.stopStreams]
    split_ifs with hargs
    · exact h
    split
    · rename_i runtime hbegin
      have hstops := StopsStreams.of_stopStreamsBegin hbegin
      have hknow : (RuntimeStage.stoppingStreams sessionId).Recognises runtime :=
        hstops.transport'
      refine h.begin ?_ ?_ hstops.held (.inl hknow) fun hzero => hargs (.inl hzero)
      · intro hset
        rw [hstops.transport']
        rcases hstops.session' with hsame | hnew | hzero
        · rw [hsame] at hset ⊢
          exact (h.session hset).trans hstops.transport
        · exact hnew
        · exact absurd hzero hset
      · rw [hstops.transport', hstops.transport]
    · exact h
  | stop sessionId => exact h.stop hcalm
  | video keyframe =>
    rw [MirrorSystem.step, MirrorSystem.video]
    split
    · exact h.begin h.session rfl (fun _ hid => hid) (.inr rfl) trivial
    · exact h
  | audio =>
    rw [MirrorSystem.step, MirrorSystem.audio]
    split
    · exact h.begin h.session rfl (fun _ hid => hid) (.inr rfl) trivial
    · exact h
  | resume id ok packets => exact h.resume hcalm
  | work player => exact h.work

/-- **A run.** -/
theorem Sound.of_reachable (h : s.Reachable Calm) : s.Sound := by
  induction h with
  | initial => exact .initial
  | step label _ hcalm ih => exact ih.step hcalm

lemma Sound.not_held (h : s.Sound) {id : ℕ} (hcall : s.calls id = some call) (hstop : call.stopped) :
    ¬s.runtime.Holds id := by
  intro hheld
  have hgo := (h.installed id call hcall hheld).1
  rw [hstop] at hgo
  cases hgo

lemma Sound.resume_unchanged (h : s.Sound) {id : ℕ} {ok : Bool}
    (hcalm : s.Calm (.resume id ok packets)) (hcall : s.calls id = some call)
    (hsess : call.stage.session ≠ none) (hstop : call.stopped) :
    (s.resume id ok packets).runtime = s.runtime := by
  have hfinds := h.not_finds hcalm hcall hstop
  have hheld := h.not_held hcall hstop
  have hof := (h.of id call hcall).1
  rw [MirrorSystem.resume, hcall]
  obtain ⟨stage, stopped⟩ := call
  cases stage with
  | opening attempt =>
    dsimp only
    cases ok with
    | false => exact Closes.openCleanup.unchanged hfinds
    | true =>
      cases hinstall : s.runtime.openInstall attempt with
      | none => rfl
      | some runtime =>
        obtain ⟨hinst, hgen⟩ := Installs.of_openInstall hinstall
        exact absurd ⟨hinst.opening, hgen⟩ hfinds
  | openFailed attempt => exact Closes.openCleanup.unchanged hfinds
  | opened attempt =>
    rw [← hof.1] at hheld
    exact recordMirror_of_not_holds hheld
  | audioOpening attempt =>
    dsimp only
    cases ok with
    | false => exact Closes.audioOpenCleanup.unchanged hfinds
    | true =>
      cases hinstall : s.runtime.audioOpenInstall attempt with
      | none => rfl
      | some runtime =>
        obtain ⟨hinst, hids⟩ := Installs.of_audioOpenInstall hinstall
        exact absurd ⟨hinst.opening, hids⟩ hfinds
  | audioOpenFailed attempt => exact Closes.audioOpenCleanup.unchanged hfinds
  | audioOpened attempt =>
    rw [← hof.1] at hheld
    exact recordReceiver_of_not_holds hheld
  | stoppingStreams sessionId => exact Closes.stopStreamsEnd.unchanged hfinds
  | video | audio => exact absurd rfl hsess

/-- **Attempts end with their session.**  In a run all of whose steps are calm, a call whose
session has been stopped since it began changes nothing any more, and the runtime holds nothing
that it has created. -/
theorem attempts_end (hrun : s.Reachable Calm) {label : MirrorLabel} (hcalm : s.Calm label) :
    s.AttemptsEnd label where
  not_held id call hcall hstopped := (Sound.of_reachable hrun).not_held hcall hstopped
  unchanged id ok packets call hlabel hcall hsession hstopped := by
    subst hlabel
    exact (Sound.of_reachable hrun).resume_unchanged hcalm hcall hsession hstopped

/-- A session that is stopped while its video is opened: the call comes to nothing. -/
theorem attempts_end_stopped :
    ∃ s : MirrorSystem, (∃ call, s.calls 1 = some call ∧ call.stopped) ∧
      s.AttemptsEnd (.resume 1 true false) := by
  let prepared := MirrorSystem.initial.step (.transportPrepare 1 0 0 false false)
  let opening := prepared.step (.open 1 5)
  let s := opening.step (.stop 1)
  have hrun : s.Reachable Calm :=
    .step _ (.step _ (.step _ .initial trivial) trivial) (.inl (by decide))
  refine ⟨s, ⟨_, rfl, rfl⟩, attempts_end hrun ?_⟩
  rintro call _ _ _ other ⟨witness, hwitness, hunstopped, _⟩
  have hcalls : (opening.calls other).map (RuntimeCall.mark 1) = some witness := hwitness
  by_cases hother : other = 1
  · subst hother
    cases hcalls
    cases hunstopped
  · have hnone : opening.calls other = none := begin_calls_of_ne (s := prepared) hother
    rw [hnone] at hcalls
    cases hcalls

/-- A session is stopped while its video is opened, and another session opens its own: the first
call takes the second one's attempt for its own, ends it and reports an error.  Where the session is
prepared again, the first call installs its receiver. -/
theorem attempt_outlives_session :
    (∃ s : MirrorSystem, s.Reachable (fun _ _ => True) ∧ s.UnderWay 3 ∧ s.runtime.opening ∧
      ¬s.AttemptsEnd (.resume 1 false false) ∧
      (s.step (.resume 1 false false)).runtime.opening = false ∧
      (s.step (.resume 1 false false)).runtime.status = .error) ∧
      ∃ s : MirrorSystem, s.Reachable (fun _ _ => True) ∧ s.UnderWay 3 ∧
        (∃ call, s.calls 1 = some call ∧ call.stopped) ∧
        (s.step (.resume 1 true false)).runtime.mirror = some ⟨1, false⟩ := by
  constructor
  · refine ⟨MirrorSystem.initial.run [.transportPrepare 1 0 0 false false, .open 1 5, .stop 1,
      .transportPrepare 2 0 0 false false, .open 2 6], .run .initial _, ⟨_, rfl, rfl, trivial⟩, rfl,
      ?_, rfl, rfl⟩
    intro hend
    have hsame := hend.unchanged 1 false false _ rfl rfl nofun rfl
    exact absurd (congrArg AirPlayMirrorRuntime.opening hsame) (by decide)
  · exact ⟨MirrorSystem.initial.run [.transportPrepare 1 0 0 false false, .open 1 5, .stop 1,
      .transportPrepare 1 0 0 false false, .open 1 6], .run .initial _, ⟨_, rfl, rfl, trivial⟩,
      ⟨_, rfl, rfl⟩, rfl⟩

end MirrorSystem

end NXCast
