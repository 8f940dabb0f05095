import NXCast.Mirror.RuntimeThreads

/-!
# The player is told that a mirror has ended

Every command that has ever been put in the queue has been taken by the worker or is still
queued.  A LOAD among them is of the generation that the runtime streams now, or a STOP of its
generation and the news of its end have been put in the queue behind it.

`airplay_mirror_runtime_stop` does not look at what `runtime_enqueue_locked` returns, so it needs
two free slots.  `airplay_mirror_runtime_stop_streams` refuses to run without them.
-/

namespace NXCast

open List Option

/-- The STOP of a generation. -/
def stopCommand (generation : UInt32) : AirPlayRuntimeCommand := { type := .stop, generation }

/-- The news that a generation has ended. -/
def disconnectedCommand (generation : UInt32) : AirPlayRuntimeCommand :=
  { type := .notify, generation, status := .disconnected }

/-- The player has been given the video of a generation, whose session is there. -/
structure AirPlayMirrorRuntime.Streams (runtime : AirPlayMirrorRuntime) (generation : UInt32) :
    Prop where
  loaded : runtime.playerLoadQueued = true
  current : runtime.generation = generation
  mirror : runtime.mirror ≠ none
  session : runtime.sessionId ≠ 0

namespace MirrorSystem

/-- Every command that has been put in the queue, oldest first. -/
def issued (s : MirrorSystem) : List AirPlayRuntimeCommand := s.taken ++ s.runtime.commands

/-- Every LOAD is of the generation that the runtime streams, or has been followed by a STOP of its
generation and the news of its end. -/
def StopsFollow (s : MirrorSystem) : Prop :=
  ∀ before command after, s.issued = before ++ command :: after → command.type = .load →
    s.runtime.Streams command.generation ∨
      stopCommand command.generation ∈ after ∧ disconnectedCommand command.generation ∈ after

/-- A stop of a generation that the player has been given finds two slots. -/
def Roomy (s : MirrorSystem) : MirrorLabel → Prop
  | .stop sessionId =>
    s.runtime.Stops sessionId → s.runtime.playerLoadQueued →
      s.runtime.commands.length ≤ commandCapacity - 2
  | _ => True

end MirrorSystem

/-! ## Sections that neither load nor stop -/

namespace AirPlayMirrorRuntime

variable {runtime runtime' runtime'' : AirPlayMirrorRuntime}

/-- The queue has grown by commands that load nothing. -/
def Grows (runtime runtime' : AirPlayMirrorRuntime) : Prop :=
  ∃ added, runtime'.commands = runtime.commands ++ added ∧ ∀ command ∈ added, command.type ≠ .load

lemma Grows.refl (h : runtime'.commands = runtime.commands) : Grows runtime runtime' :=
  ⟨[], by rw [h, append_nil], nofun⟩

lemma Grows.trans (h : Grows runtime runtime') (h' : Grows runtime' runtime'') :
    Grows runtime runtime'' := by
  obtain ⟨added, hadded, hload⟩ := h
  obtain ⟨added', hadded', hload'⟩ := h'
  refine ⟨added ++ added', by rw [hadded', hadded, append_assoc], fun command hcmd => ?_⟩
  rcases mem_append.mp hcmd with hcmd | hcmd
  · exact hload command hcmd
  · exact hload' command hcmd

variable {command : AirPlayRuntimeCommand}

lemma Grows.enqueue (h : command.type ≠ .load) :
    Grows runtime (runtime.enqueue command).2 := by
  rw [AirPlayMirrorRuntime.enqueue]
  split
  · exact .refl rfl
  · exact ⟨[command], rfl, by simpa using h⟩

variable {status : AirPlayMirrorRuntimeStatus}

lemma Grows.setStatus :
    Grows runtime (runtime.setStatus status) := by
  rw [AirPlayMirrorRuntime.setStatus]
  split
  · exact .refl rfl
  · exact .trans (.refl rfl) (.enqueue (by simp))

/-- A section that leaves alone what the player has been given. -/
structure Quiet (runtime runtime' : AirPlayMirrorRuntime) : Prop where
  grows : Grows runtime runtime'
  mirror : runtime'.mirror = none ↔ runtime.mirror = none
  bridge : runtime'.bridge = runtime.bridge
  session : runtime'.sessionId = runtime.sessionId
  generation : runtime'.generation = runtime.generation
  loaded : runtime'.playerLoadQueued = runtime.playerLoadQueued
  status : runtime'.status = .disconnected → runtime.status = .disconnected

namespace Quiet

lemma refl (runtime : AirPlayMirrorRuntime) : Quiet runtime runtime :=
  ⟨.refl rfl, .rfl, rfl, rfl, rfl, rfl, id⟩

lemma trans (h : Quiet runtime runtime') (h' : Quiet runtime' runtime'') :
    Quiet runtime runtime'' where
  grows := h.grows.trans h'.grows
  mirror := h'.mirror.trans h.mirror
  bridge := h'.bridge.trans h.bridge
  session := h'.session.trans h.session
  generation := h'.generation.trans h.generation
  loaded := h'.loaded.trans h.loaded
  status hstat := h.status (h'.status hstat)

lemma enqueue (hload : command.type ≠ .load) :
    Quiet runtime (runtime.enqueue command).2 := by
  have hgrows : Grows runtime (runtime.enqueue command).2 := .enqueue hload
  obtain ⟨commands, h⟩ := runtime.enqueue_eq command
  rw [h] at hgrows ⊢
  exact ⟨hgrows, .rfl, rfl, rfl, rfl, rfl, id⟩

lemma setStatus (hstat : status ≠ .disconnected) :
    Quiet runtime (runtime.setStatus status) := by
  have hgrows : Grows runtime (runtime.setStatus status) := .setStatus
  obtain ⟨commands, h⟩ := runtime.setStatus_eq status
  rw [h] at hgrows ⊢
  exact ⟨hgrows, .rfl, rfl, rfl, rfl, rfl, fun h => absurd h hstat⟩

variable {generation : UInt32}

lemma commandComplete {ok : Bool} {successStatus : AirPlayMirrorRuntimeStatus}
    (hstat : successStatus ≠ .disconnected) :
    Quiet runtime (runtime.commandComplete generation ok successStatus) := by
  rw [AirPlayMirrorRuntime.commandComplete]
  split
  · apply setStatus
    cases ok with
    | true => exact hstat
    | false => exact nofun
  · exact refl runtime

lemma openCleanup {attempt : OpenAttempt} : Quiet runtime (runtime.openCleanup attempt) := by
  rw [AirPlayMirrorRuntime.openCleanup]
  split
  · have hclear : Quiet runtime { runtime with opening := false } :=
      ⟨.refl rfl, .rfl, rfl, rfl, rfl, rfl, id⟩
    split
    · exact hclear
    · exact hclear.trans (setStatus nofun)
  · exact refl runtime

lemma audioOpenCleanup {attempt : AudioOpenAttempt} :
    Quiet runtime (runtime.audioOpenCleanup attempt) := by
  rw [AirPlayMirrorRuntime.audioOpenCleanup]
  split
  · exact ⟨.refl rfl, .rfl, rfl, rfl, rfl, rfl, id⟩
  · exact refl runtime

lemma stopStreamsEnd {sessionId : UInt64} : Quiet runtime (runtime.stopStreamsEnd sessionId) := by
  rw [AirPlayMirrorRuntime.stopStreamsEnd]
  split
  · exact ⟨.refl rfl, .rfl, rfl, rfl, rfl, rfl, id⟩
  · exact refl runtime

lemma recordMirror {creator : ℕ} : Quiet runtime (runtime.recordMirror creator) :=
  ⟨.refl rfl, map_eq_none_iff, rfl, rfl, rfl, rfl, id⟩

lemma recordReceiver {creator : ℕ} : Quiet runtime (runtime.recordReceiver creator) :=
  ⟨.refl rfl, .rfl, rfl, rfl, rfl, rfl, id⟩

lemma detachAudio {audio keepVideo : Bool} : Quiet runtime (runtime.detachAudio audio keepVideo) := by
  have hclear : ∀ r : AirPlayMirrorRuntime, ∀ audioAttachQueued,
      Quiet r { r with audioAttachQueued } :=
    fun r _ => ⟨.refl rfl, .rfl, rfl, rfl, rfl, rfl, id⟩
  rw [AirPlayMirrorRuntime.detachAudio]
  split
  · refine .trans (enqueue ?_) (hclear _ _)
    exact nofun
  · exact hclear _ _

lemma recordAudio {sessionId : UInt64} (h : runtime.recordAudio sessionId = some runtime')
    (hmirror : runtime.playerLoadQueued → runtime.mirror ≠ none) : Quiet runtime runtime' := by
  rw [AirPlayMirrorRuntime.recordAudio] at h
  split at h
  · cases h
  dsimp only at h
  split at h <;> cases h
  · rename_i hnone
    have hfresh : runtime.playerLoadQueued = false := by
      by_contra hload
      exact hmirror (by simpa using hload) hnone
    exact ⟨.refl rfl, .rfl, rfl, rfl, rfl, hfresh.symm, id⟩
  · exact ⟨.refl rfl, .rfl, rfl, rfl, rfl, rfl, id⟩

lemma videoEnd {pushed keyframe : Bool} :
    Quiet runtime (runtime.videoEnd generation pushed keyframe) := by
  rw [AirPlayMirrorRuntime.videoEnd]
  generalize hq : AirPlayMirrorRuntime.enqueue _ _ = queued
  have hquiet : Quiet runtime queued.2 := by
    rw [← hq]
    exact enqueue nofun
  obtain ⟨ok, queued⟩ := queued
  split
  · split
    · exact setStatus nofun
    split
    · cases ok with
      | true => exact hquiet.trans ⟨.refl rfl, .rfl, rfl, rfl, rfl, rfl, id⟩
      | false => exact hquiet.trans (setStatus nofun)
    · exact refl runtime
  · exact refl runtime

lemma audioEnd {bridge : RuntimeBridge} {pushed packets : Bool} :
    Quiet runtime (runtime.audioEnd generation bridge pushed packets) := by
  rw [AirPlayMirrorRuntime.audioEnd]
  generalize hq : AirPlayMirrorRuntime.enqueue _ _ = queued
  have hquiet : Quiet runtime queued.2 := by
    rw [← hq]
    exact enqueue nofun
  obtain ⟨ok, queued⟩ := queued
  split
  · split
    · cases ok with
      | true => exact hquiet.trans ⟨.refl rfl, .rfl, rfl, rfl, rfl, rfl, id⟩
      | false => exact hquiet
    · exact refl runtime
  · exact refl runtime

end Quiet

end AirPlayMirrorRuntime

/-! ## Sections that stop -/

namespace AirPlayMirrorRuntime

variable {runtime runtime' : AirPlayMirrorRuntime}

lemma stop_disconnected (runtime : AirPlayMirrorRuntime) (generation : UInt32)
    (hroom : runtime.commands.length ≤ commandCapacity - 2)
    (hstat : runtime.status ≠ .disconnected) :
    (runtime.enqueue (stopCommand generation)).2.setStatus .disconnected =
      { runtime with
        commands := runtime.commands ++
          [stopCommand generation, disconnectedCommand runtime.generation]
        status := .disconnected } := by
  have hfirst : runtime.commands.length ≠ commandCapacity := by
    unfold commandCapacity at *
    omega
  have hsnd : (runtime.commands ++ [stopCommand generation]).length ≠ commandCapacity := by
    rw [length_append, length_singleton]
    unfold commandCapacity at *
    omega
  rw [enqueue, if_neg hfirst, setStatus, if_neg hstat, enqueue, if_neg hsnd]
  rw [append_assoc]
  rfl

/-- A section that ends the video: the player is told so, if it has been given the video. -/
structure Ends (runtime runtime' : AirPlayMirrorRuntime) : Prop where
  loaded : runtime'.playerLoadQueued = false
  mirror : runtime'.mirror = none
  told : runtime.playerLoadQueued = true → runtime'.commands = runtime.commands ++
    [stopCommand runtime.generation, disconnectedCommand runtime.generation]
  untold : runtime.playerLoadQueued = false → Grows runtime runtime'

namespace Ends

/-- `airplay_mirror_runtime_stop`, given the room. -/
lemma stop {sessionId : UInt64} (hstops : runtime.Stops sessionId)
    (hroom : runtime.playerLoadQueued → runtime.commands.length ≤ commandCapacity - 2)
    (hload : runtime.playerLoadQueued → runtime.sessionId ≠ 0 ∧ runtime.status ≠ .disconnected) :
    Ends runtime (runtime.stop sessionId) := by
  rw [AirPlayMirrorRuntime.stop, if_pos hstops]
  cases hplayer : runtime.playerLoadQueued with
  | true =>
    obtain ⟨hsess, hstat⟩ := hload hplayer
    have htold := stop_disconnected runtime.cleared runtime.generation (hroom hplayer) hstat
    rw [if_pos rfl, if_pos hsess]
    change Ends runtime (setStatus (runtime.cleared.enqueue (stopCommand runtime.generation)).2 _)
    rw [htold]
    exact ⟨rfl, rfl, fun _ => rfl, fun hnot => absurd (hplayer.symm.trans hnot) nofun⟩
  | false =>
    rw [if_neg Bool.false_ne_true]
    have hclear : Ends runtime runtime.cleared :=
      ⟨rfl, rfl, fun hset => absurd (hplayer.symm.trans hset) nofun, fun _ => .refl rfl⟩
    split
    · obtain ⟨commands, hset⟩ := runtime.cleared.setStatus_eq .disconnected
      have hgrows : Grows runtime.cleared (runtime.cleared.setStatus .disconnected) := .setStatus
      rw [hset] at hgrows ⊢
      exact ⟨rfl, rfl, fun hset => absurd (hplayer.symm.trans hset) nofun, fun _ => hgrows⟩
    · exact hclear

/-- `airplay_mirror_runtime_stop_streams` where it leaves no video. -/
lemma removeVideo (sessionId : UInt64) (hadVideo keepAudio : Bool) (hmirror : runtime.mirror = none)
    (hroom : runtime.commands.length ≤ commandCapacity - 2)
    (hload : runtime.playerLoadQueued → runtime.status ≠ .disconnected) :
    Ends runtime (runtime.removeVideo sessionId hadVideo keepAudio) := by
  rw [AirPlayMirrorRuntime.removeVideo]
  cases hplayer : runtime.playerLoadQueued with
  | true =>
    have htold := stop_disconnected (runtime.videoRemoved sessionId hadVideo keepAudio)
      runtime.generation hroom (hload hplayer)
    change Ends runtime { setStatus ((runtime.videoRemoved sessionId hadVideo keepAudio).enqueue
          (stopCommand runtime.generation)).2 .disconnected with
        generation := _ }
    rw [htold]
    exact ⟨rfl, hmirror, fun _ => rfl, fun hnot => absurd (hplayer.symm.trans hnot) nofun⟩
  | false =>
    exact ⟨rfl, hmirror, fun hset => absurd (hplayer.symm.trans hset) nofun, fun _ => .refl rfl⟩

end Ends

/-- `airplay_mirror_runtime_stop_streams` ends the video or leaves it alone; it refuses where the
player could not be told. -/
lemma stopStreamsBegin_ends_or_quiet {sessionId : UInt64} {video audio : Bool}
    (h : runtime.stopStreamsBegin sessionId video audio = some runtime')
    (hload : runtime.playerLoadQueued → runtime.status ≠ .disconnected) :
    Ends runtime runtime' ∨ Quiet runtime runtime' := by
  rw [stopStreamsBegin] at h
  split at h
  · cases h
  rename_i htest
  have hroom : runtime.commands.length ≤ commandCapacity - 2 := by
    by_contra hfull
    exact htest (.inr (.inr (Nat.lt_of_not_le hfull)))
  have hmirror : (runtime.mirror.isSome && !video) = false →
      (runtime.removeReceivers video audio).mirror = none := by
    intro hkeep
    cases hvideo : video with
    | true => rfl
    | false => simpa [hvideo, removeReceivers] using hkeep
  have hvideo : (runtime.mirror.isSome && !video) → video = false := by
    intro hkeep
    simpa using (Bool.and_eq_true_iff.mp hkeep).2
  generalize (runtime.mirror.isSome && !video) = keepVideo at h hmirror hvideo
  cases keepVideo with
  | true =>
    cases h
    rw [hvideo rfl]
    have hremoved : Quiet runtime (runtime.removeReceivers false audio) :=
      ⟨.refl rfl, .rfl, rfl, rfl, rfl, rfl, id⟩
    exact .inr (hremoved.trans .detachAudio)
  | false =>
    cases h
    have hends : Ends ((runtime.removeReceivers video audio).detachAudio audio false) _ :=
      Ends.removeVideo sessionId runtime.mirror.isSome (runtime.audio.isSome && !audio)
        (hmirror rfl) hroom hload
    exact .inl ⟨hends.loaded, hends.mirror, hends.told, hends.untold⟩

/-- `airplay_mirror_runtime_record` gives the player the video that it has not been given. -/
structure Loads (runtime runtime' : AirPlayMirrorRuntime) : Prop where
  fresh : runtime.playerLoadQueued = false
  held : runtime.mirror ≠ none
  mirror : runtime'.mirror ≠ none
  bridge : runtime'.bridge = runtime.bridge
  session : runtime'.sessionId = runtime.sessionId
  status : runtime'.status ≠ .disconnected
  loads : ∃ added, runtime'.commands = runtime.commands ++ added ∧
    ∀ command ∈ added, command.type = .load →
      command.generation = runtime'.generation ∧ runtime'.playerLoadQueued = true

lemma Loads.setStatus {started : AirPlayMirrorRuntime} {status : AirPlayMirrorRuntimeStatus}
    (hstat : status ≠ .disconnected) (hfresh : runtime.playerLoadQueued = false)
    (hheld : runtime.mirror ≠ none) (hmirror : started.mirror ≠ none)
    (hbridge : started.bridge = runtime.bridge) (hsess : started.sessionId = runtime.sessionId)
    {added : List AirPlayRuntimeCommand} (hadded : started.commands = runtime.commands ++ added)
    (hload : ∀ command ∈ added, command.type = .load → command.generation = started.generation ∧ started.playerLoadQueued) :
    Loads runtime (started.setStatus status) := by
  obtain ⟨commands, hset⟩ := started.setStatus_eq status
  obtain ⟨more, hmore, hnone⟩ : Grows started (started.setStatus status) := .setStatus
  rw [hset] at hmore ⊢
  refine ⟨hfresh, hheld, hmirror, hbridge, hsess, hstat, added ++ more, ?_, ?_⟩
  · rw [hmore, hadded, append_assoc]
  intro command hcmd htype
  rcases mem_append.mp hcmd with hcmd | hcmd
  · exact hload command hcmd htype
  · exact absurd htype (hnone command hcmd)

lemma record_loads_or_eq (runtime : AirPlayMirrorRuntime) (sessionId : UInt64) :
    Loads runtime (runtime.record sessionId) ∨ runtime.record sessionId = runtime := by
  rw [record]
  split_ifs with htest
  · exact .inr rfl
  left
  simp only [not_or, Bool.not_eq_true] at htest
  obtain ⟨-, -, hmirror, hfresh⟩ := htest
  have hrec : runtime.mirror.map RuntimeReceiver.record ≠ none := by
    rwa [Ne, map_eq_none_iff]
  by_cases hfull : runtime.commands.length = commandCapacity
  · simp only [enqueue, hfull, if_true]
    refine .setStatus ?_ hfresh hmirror hrec rfl rfl (append_nil _).symm ?_
    · simp
    · simp
  simp only [enqueue, hfull, if_false]
  refine .setStatus ?_ hfresh hmirror hrec rfl rfl rfl ?_
  · simp
  intro command hcmd _
  rw [mem_singleton.mp hcmd]
  exact ⟨rfl, rfl⟩

end AirPlayMirrorRuntime

/-! ## Sections that install -/

namespace AirPlayMirrorRuntime

variable {runtime runtime' : AirPlayMirrorRuntime}

/-- Video is installed where there is none, so the player has been given nothing; in particular
no REPLACE is ever put in the queue. -/
lemma openInstall_fresh {attempt : OpenAttempt} (h : runtime.openInstall attempt = some runtime')
    (hmirror : runtime.playerLoadQueued → runtime.mirror ≠ none) :
    runtime.playerLoadQueued = false ∧ Grows runtime runtime' ∧ runtime'.playerLoadQueued = false ∧
      runtime'.sessionId = attempt.sessionId ∧ runtime'.bridge ≠ none := by
  rw [openInstall] at h
  split at h
  · rename_i htest
    have hfresh : runtime.playerLoadQueued = false := by
      by_contra hload
      exact hmirror (by simpa using hload) htest.2.2.1
    rw [hfresh, Bool.and_false, if_neg Bool.false_ne_true] at h
    have hgrows : Grows (runtime.openInstalled attempt)
        ((runtime.openInstalled attempt).setStatus .preparing) := .setStatus
    obtain ⟨commands, hset⟩ := (runtime.openInstalled attempt).setStatus_eq .preparing
    rw [hset] at h hgrows
    cases h
    exact ⟨hfresh, hgrows, rfl, rfl, nofun⟩
  · cases h

/-- Audio is installed beside the video, or where there is no bridge, and so no video. -/
lemma audioOpenInstall_fresh_or_quiet {attempt : AudioOpenAttempt}
    (h : runtime.audioOpenInstall attempt = some runtime')
    (hmirror : runtime.playerLoadQueued → runtime.mirror ≠ none)
    (hbridge : runtime.mirror ≠ none → runtime.bridge ≠ none) :
    (runtime.playerLoadQueued = false ∧ Grows runtime runtime' ∧
      runtime'.playerLoadQueued = false ∧ runtime'.mirror = none) ∨ Quiet runtime runtime' := by
  rw [audioOpenInstall] at h
  split at h
  · rename_i htest
    obtain ⟨-, -, -, -, -, hbridges⟩ := htest
    by_cases hnew : attempt.bridge = none
    · rw [if_pos hnew] at h
      have hnone : runtime.mirror = none := by
        by_contra hsome
        rcases hbridges with ⟨-, hnobridge, -⟩ | ⟨hbridges, -⟩
        · exact hbridge hsome hnobridge
        · exact hbridges hnew
      have hfresh : runtime.playerLoadQueued = false := by
        by_contra hload
        exact hmirror (by simpa using hload) hnone
      let installed := (runtime.audioInstalled attempt).audioBridgeInstalled attempt
      have hgrows : Grows installed (installed.setStatus .preparing) := .setStatus
      obtain ⟨commands, hset⟩ := installed.setStatus_eq .preparing
      rw [hset] at hgrows
      rw [some.injEq] at h
      rw [← h, hset]
      exact .inl ⟨hfresh, hgrows, rfl, hnone⟩
    · rw [if_neg hnew] at h
      cases h
      exact .inr ⟨.refl rfl, .rfl, rfl, rfl, rfl, rfl, id⟩
  · cases h

end AirPlayMirrorRuntime

/-! ## The invariant -/

namespace MirrorSystem

open AirPlayMirrorRuntime

variable {s s' : MirrorSystem}

/-- Every call of `airplay_mirror_runtime_open` has a session. -/
def Attempts (s : MirrorSystem) : Prop :=
  ∀ id call attempt, s.calls id = some call → call.stage = .opening attempt →
    attempt.sessionId ≠ 0

lemma Attempts.begin (h : s.Attempts) {runtime : AirPlayMirrorRuntime} {stage : RuntimeStage}
    (hstage : ∀ attempt, stage = .opening attempt → attempt.sessionId ≠ 0) :
    (s.begin runtime stage).Attempts := by
  intro id call attempt hcall hopen
  by_cases hid : id = s.next
  · subst hid
    rw [begin_calls_self, some.injEq] at hcall
    subst hcall
    exact hstage attempt hopen
  · rw [begin_calls_of_ne hid] at hcall
    exact h id call attempt hcall hopen

lemma Attempts.goOn (h : s.Attempts) {id : ℕ} {runtime : AirPlayMirrorRuntime}
    {next : Option RuntimeCall} (hnext : ∀ call ∈ next, ∀ attempt, call.stage ≠ .opening attempt) :
    (s.goOn id runtime next).Attempts := by
  intro other call attempt hcall hopen
  by_cases hid : other = id
  · subst hid
    rw [goOn_calls_self] at hcall
    exact absurd hopen (hnext call hcall attempt)
  · rw [goOn_calls_of_ne hid] at hcall
    exact h other call attempt hcall hopen

lemma Attempts.stop (h : s.Attempts) {sessionId : UInt64} : (s.stop sessionId).Attempts := by
  intro id call attempt hcall hopen
  obtain ⟨before, hpre, rfl⟩ := map_eq_some_iff.mp hcall
  rw [RuntimeCall.mark_stage] at hopen
  exact h id before attempt hpre hopen

/-- What the player has been given is the video of the session, and the news of its end have not
been put in the queue yet. -/
structure Streaming (s : MirrorSystem) : Prop where
  loaded : s.runtime.playerLoadQueued → s.runtime.mirror ≠ none ∧ s.runtime.status ≠ .disconnected
  mirror : s.runtime.mirror ≠ none → s.runtime.sessionId ≠ 0 ∧ s.runtime.bridge ≠ none
  attempts : s.Attempts
  worker : ∀ generation ok status, s.worker = .completing generation ok status →
    status ≠ .disconnected
  follows : s.StopsFollow

/-- The queue grows; what the runtime has streamed it goes on streaming, or the player is told. -/
lemma StopsFollow.append (h : s.StopsFollow) {added : List AirPlayRuntimeCommand}
    (hissued : s'.issued = s.issued ++ added)
    (hstrs : ∀ generation, s.runtime.Streams generation → s'.runtime.Streams generation ∨ stopCommand generation ∈ added ∧ disconnectedCommand generation ∈ added)
    (hloads : ∀ command ∈ added, command.type = .load → s'.runtime.Streams command.generation) :
    s'.StopsFollow := by
  intro before command after hsplit htype
  rw [hissued] at hsplit
  rcases append_eq_append_iff.mp hsplit with ⟨middle, -, hadded⟩ | ⟨middle, hold, hafter⟩
  · refine .inl (hloads command ?_ htype)
    rw [hadded]
    exact mem_append_right _ mem_cons_self
  cases middle with
  | nil =>
    refine .inl (hloads command ?_ htype)
    rw [nil_append] at hafter
    rw [← hafter]
    exact .head _
  | cons first rest =>
    obtain ⟨rfl, rfl⟩ := hafter
    rcases h before command rest hold htype with hstreaming | ⟨hstop, hnews⟩
    · rcases hstrs _ hstreaming with hstreaming | ⟨hstop, hnews⟩
      · exact .inl hstreaming
      · exact .inr ⟨mem_append_right _ hstop, mem_append_right _ hnews⟩
    · exact .inr ⟨mem_append_left _ hstop, mem_append_left _ hnews⟩

lemma StopsFollow.grows (h : s.StopsFollow) (hfresh : s.runtime.playerLoadQueued = false)
    (hgrows : Grows s.runtime s'.runtime) (htaken : s'.taken = s.taken) : s'.StopsFollow := by
  obtain ⟨added, hadded, hnone⟩ := hgrows
  apply h.append
  · rw [issued, htaken, hadded, ← append_assoc]
    rfl
  · intro generation hstrs
    have hload := hstrs.loaded
    rw [hfresh] at hload
    cases hload
  · exact fun command hcmd htype => absurd htype (hnone command hcmd)

section

variable (h : s.Streaming)

include h

lemma Streaming.quiet {t : MirrorSystem} (hquiet : Quiet s.runtime t.runtime)
    (htaken : t.taken = s.taken) (hattempts : t.Attempts)
    (hwork : ∀ generation ok status, t.worker = .completing generation ok status → status ≠ .disconnected) :
    t.Streaming where
  loaded hset := by
    rw [hquiet.loaded] at hset
    obtain ⟨hmirror, hstat⟩ := h.loaded hset
    exact ⟨fun hnone => hmirror (hquiet.mirror.mp hnone), fun hnews => hstat (hquiet.status hnews)⟩
  mirror hset := by
    rw [hquiet.session, hquiet.bridge]
    exact h.mirror fun hnone => hset (hquiet.mirror.mpr hnone)
  attempts := hattempts
  worker := hwork
  follows := by
    obtain ⟨added, hadded, hnone⟩ := hquiet.grows
    apply h.follows.append
    · rw [issued, htaken, hadded, ← append_assoc]
      rfl
    · intro generation hstrs
      refine .inl ⟨?_, ?_, ?_, ?_⟩
      · rw [hquiet.loaded, hstrs.loaded]
      · rw [hquiet.generation, hstrs.current]
      · exact fun hmirror => hstrs.mirror (hquiet.mirror.mp hmirror)
      · rw [hquiet.session]
        exact hstrs.session
    · exact fun command hcmd htype => absurd htype (hnone command hcmd)

lemma Streaming.ends {t : MirrorSystem} (hends : Ends s.runtime t.runtime)
    (htaken : t.taken = s.taken) (hwork : t.worker = s.worker) (hattempts : t.Attempts) :
    t.Streaming where
  loaded hset := by
    rw [hends.loaded] at hset
    cases hset
  mirror hset := absurd hends.mirror hset
  attempts := hattempts
  worker := by
    rw [hwork]
    exact h.worker
  follows := by
    cases hplayer : s.runtime.playerLoadQueued with
    | true =>
      apply h.follows.append
      · rw [issued, htaken, hends.told hplayer, ← append_assoc]
        rfl
      · intro generation hstrs
        rw [hstrs.current]
        exact .inr ⟨.head _, .tail _ mem_cons_self⟩
      · intro command hcmd htype
        simp only [mem_cons, not_mem_nil, or_false] at hcmd
        rcases hcmd with rfl | rfl <;> cases htype
    | false => exact h.follows.grows hplayer (hends.untold hplayer) htaken

lemma Streaming.loads (hloads : Loads s.runtime s'.runtime)
    (htaken : s'.taken = s.taken) (hwork : s'.worker = s.worker) (hcalls : s'.calls = s.calls) :
    s'.Streaming := by
  have hmirror := h.mirror hloads.held
  obtain ⟨added, hadded, hload⟩ := hloads.loads
  constructor
  · exact fun _ => ⟨hloads.mirror, hloads.status⟩
  · intro _
    rwa [hloads.session, hloads.bridge]
  · rw [Attempts, hcalls]
    exact h.attempts
  · rw [hwork]
    exact h.worker
  apply h.follows.append
  · rw [issued, htaken, hadded, ← append_assoc]
    rfl
  · intro generation hstrs
    have hloaded := hstrs.loaded
    rw [hloads.fresh] at hloaded
    cases hloaded
  · intro command hcmd htype
    obtain ⟨hgen, hloaded⟩ := hload command hcmd htype
    refine ⟨hloaded, hgen.symm, hloads.mirror, ?_⟩
    rw [hloads.session]
    exact hmirror.1

lemma Streaming.install (hfresh : s.runtime.playerLoadQueued = false)
    (hgrows : Grows s.runtime s'.runtime) (hload : s'.runtime.playerLoadQueued = false)
    (hmirror : s'.runtime.mirror ≠ none → s'.runtime.sessionId ≠ 0 ∧ s'.runtime.bridge ≠ none)
    (htaken : s'.taken = s.taken) (hwork : s'.worker = s.worker) (hattempts : s'.Attempts) :
    s'.Streaming where
  loaded hset := by
    rw [hload] at hset
    cases hset
  mirror := hmirror
  attempts := hattempts
  worker := by
    rw [hwork]
    exact h.worker
  follows := h.follows.grows hfresh hgrows htaken

lemma Streaming.resume (id : ℕ) (ok packets : Bool) : (s.resume id ok packets).Streaming := by
  rw [MirrorSystem.resume]
  cases hcall : s.calls id with
  | none => exact h
  | some call =>
    have hattempts : ∀ runtime next, (∀ call ∈ next, ∀ attempt, call.stage ≠ .opening attempt) →
        (s.goOn id runtime next).Attempts := fun _ _ hnext => h.attempts.goOn hnext
    have hdone : ∀ runtime, Quiet s.runtime runtime → (s.goOn id runtime none).Streaming :=
      fun runtime hquiet =>
        Streaming.quiet (t := s.goOn id runtime none) h hquiet rfl (hattempts _ _ nofun) h.worker
    obtain ⟨stage, stopped⟩ := call
    cases stage with
    | opening attempt =>
      dsimp only
      cases ok with
      | false => exact hdone _ .openCleanup
      | true =>
        cases hinstall : s.runtime.openInstall attempt with
        | none =>
          refine Streaming.quiet h (.refl _) rfl (hattempts _ _ ?_) h.worker
          rintro call ⟨⟩ other
          exact nofun
        | some runtime =>
          obtain ⟨hfresh, hgrows, hload, hsess, hbridge⟩ :=
            openInstall_fresh hinstall fun hset => (h.loaded hset).1
          refine Streaming.install h hfresh hgrows hload ?_ rfl rfl (hattempts _ _ ?_)
          · intro _
            refine ⟨?_, hbridge⟩
            have hne := h.attempts id _ attempt hcall rfl
            rwa [← hsess] at hne
          · intro call hmem other
            split at hmem <;> cases hmem
            exact nofun
    | openFailed attempt => exact hdone _ .openCleanup
    | opened attempt => exact hdone _ .recordMirror
    | audioOpening attempt =>
      dsimp only
      cases ok with
      | false => exact hdone _ .audioOpenCleanup
      | true =>
        cases hinstall : s.runtime.audioOpenInstall attempt with
        | none =>
          refine Streaming.quiet h (.refl _) rfl (hattempts _ _ ?_) h.worker
          rintro call ⟨⟩ other
          exact nofun
        | some runtime =>
          have hnext : ∀ call ∈ (if runtime.recording then
              some ⟨.audioOpened attempt, stopped⟩ else none : Option RuntimeCall),
              ∀ other, call.stage ≠ .opening other := by
            intro call hmem other
            split at hmem <;> cases hmem
            exact nofun
          rcases audioOpenInstall_fresh_or_quiet hinstall (fun hset => (h.loaded hset).1)
            (fun hset => (h.mirror hset).2) with ⟨hfresh, hgrows, hload, hmirror⟩ | hquiet
          · exact Streaming.install h hfresh hgrows hload (absurd hmirror) rfl rfl
              (hattempts _ _ hnext)
          · exact Streaming.quiet h hquiet rfl (hattempts _ _ hnext) h.worker
    | audioOpenFailed attempt => exact hdone _ .audioOpenCleanup
    | audioOpened attempt => exact hdone _ .recordReceiver
    | stoppingStreams sessionId => exact hdone _ .stopStreamsEnd
    | video generation keyframe => exact hdone _ .videoEnd
    | audio generation bridge => exact hdone _ .audioEnd

/-- The worker takes a command, which has been put in the queue all the same, or goes on with
it. -/
lemma Streaming.work {player : RuntimePlayerCall → Bool} : (s.work player).Streaming := by
  rw [MirrorSystem.work]
  split
  · split
    · exact h
    rename_i command commands hcmds
    refine ⟨h.loaded, h.mirror, h.attempts, nofun, ?_⟩
    refine h.follows.append ?_ (fun generation hstrs => .inl ?_)
      fun _ hcmd => absurd hcmd not_mem_nil
    · rw [issued, issued, hcmds, append_assoc, append_nil]
      rfl
    · exact ⟨hstrs.loaded, hstrs.current, hstrs.mirror, hstrs.session⟩
  · rw [process]
    have hwait : ∀ played, (s.workOn .waiting played).Streaming :=
      fun _ => Streaming.quiet (t := s.workOn .waiting _) h (.refl _) rfl h.attempts nofun
    split
    · split
      · exact Streaming.quiet h (.refl _) rfl h.attempts nofun
      · exact hwait _
    · split
      · exact Streaming.quiet h (.refl _) rfl h.attempts nofun
      · exact hwait _
    · split
      · refine Streaming.quiet h (.refl _) rfl h.attempts ?_
        rintro generation ok status ⟨⟩
        exact nofun
      · exact hwait _
    · exact hwait _
    · split
      all_goals exact hwait _
    · exact hwait _
  · refine Streaming.quiet h (.refl _) rfl h.attempts ?_
    rintro generation ok status ⟨⟩
    exact nofun
  · rename_i generation ok successStatus hwork
    have hstat := h.worker generation ok successStatus hwork
    exact Streaming.quiet h (.commandComplete hstat) rfl h.attempts nofun

/-- **One step.** -/
theorem Streaming.step {label : MirrorLabel} (hroomy : s.Roomy label) :
    (s.step label).Streaming := by
  cases label with
  | transportPrepare sessionId peerIpv4Address peerTimingPort usesNtpTiming timingCreated =>
    rw [MirrorSystem.step, MirrorSystem.transportPrepare]
    split
    · exact h
    dsimp only
    split
    · rename_i runtime hprep
      rw [AirPlayMirrorRuntime.transportPrepare] at hprep
      split at hprep <;> cases hprep
      exact Streaming.quiet h ⟨.refl rfl, .rfl, rfl, rfl, rfl, rfl, id⟩ rfl h.attempts h.worker
    · exact h
  | «open» sessionId streamConnectionId =>
    rw [MirrorSystem.step, MirrorSystem.open]
    split_ifs with hargs
    · exact h
    split
    · rename_i attempt runtime hbegin
      rw [openBegin] at hbegin
      split at hbegin <;> cases hbegin
      refine Streaming.quiet h ⟨.refl rfl, .rfl, rfl, rfl, rfl, rfl, id⟩ rfl
        (h.attempts.begin ?_) h.worker
      rintro attempt ⟨⟩
      exact fun hzero => hargs (.inl hzero)
    · exact h
  | audioOpen sessionId =>
    rw [MirrorSystem.step, MirrorSystem.audioOpen]
    split
    · exact h
    split
    · rename_i attempt runtime hbegin
      rw [audioOpenBegin] at hbegin
      split at hbegin <;> cases hbegin
      exact Streaming.quiet h ⟨.refl rfl, .rfl, rfl, rfl, rfl, rfl, id⟩ rfl
        (h.attempts.begin nofun) h.worker
    · exact h
  | recordAudio sessionId =>
    rw [MirrorSystem.step, MirrorSystem.recordAudio]
    split
    · rename_i runtime hrecord
      exact Streaming.quiet h (.recordAudio hrecord fun hset => (h.loaded hset).1) rfl h.attempts
        h.worker
    · exact h
  | record sessionId =>
    rcases record_loads_or_eq s.runtime sessionId with hloads | hsame
    · exact Streaming.loads h hloads rfl rfl rfl
    · rw [MirrorSystem.step, MirrorSystem.record, hsame]
      exact h
  | stopStreams sessionId video audio =>
    rw [MirrorSystem.step, MirrorSystem.stopStreams]
    split
    · exact h
    split
    · rename_i runtime hbegin
      rcases stopStreamsBegin_ends_or_quiet hbegin fun hset => (h.loaded hset).2 with hends | hquiet
      · exact Streaming.ends h hends rfl rfl (h.attempts.begin nofun)
      · exact Streaming.quiet h hquiet rfl (h.attempts.begin nofun) h.worker
    · exact h
  | stop sessionId =>
    by_cases hstops : s.runtime.Stops sessionId
    · have hends := Ends.stop hstops (hroomy hstops) fun hset =>
        ⟨(h.mirror (h.loaded hset).1).1, (h.loaded hset).2⟩
      exact Streaming.ends (t := s.stop sessionId) h hends rfl rfl h.attempts.stop
    · have hsame : s.runtime.stop sessionId = s.runtime := if_neg hstops
      refine Streaming.quiet (t := s.stop sessionId) h ?_ rfl h.attempts.stop h.worker
      rw [MirrorSystem.stop, hsame]
      exact .refl _
  | video keyframe =>
    rw [MirrorSystem.step, MirrorSystem.video]
    split
    · exact Streaming.quiet h (.refl _) rfl (h.attempts.begin nofun) h.worker
    · exact h
  | audio =>
    rw [MirrorSystem.step, MirrorSystem.audio]
    split
    · exact Streaming.quiet h (.refl _) rfl (h.attempts.begin nofun) h.worker
    · exact h
  | resume id ok packets => exact h.resume id ok packets
  | work player => exact h.work

end

/-- **No stop is lost.**  In a run in which every stop of a generation that the player has been
given finds two free slots, a LOAD that has been put in the queue is of the generation that the
runtime still streams, or its STOP and the news of its end have been put in the queue behind it. -/
theorem stops_follow (hrun : s.Reachable Roomy) : s.StopsFollow := by
  suffices hstreaming : s.Streaming from hstreaming.follows
  induction hrun with
  | initial =>
    refine ⟨nofun, absurd rfl, nofun, nofun, ?_⟩
    intro before command after hsplit
    cases before <;> cases hsplit
  | step label _ hroomy ih => exact ih.step hroomy

/-- A mirror that is recorded and then stopped: its STOP is queued behind its LOAD. -/
theorem stops_follow_recorded :
    ∃ s : MirrorSystem, s.issued.map AirPlayRuntimeCommand.type =
      [.notify, .load, .notify, .stop, .notify] ∧ s.StopsFollow := by
  have hrun : ((((MirrorSystem.initial.step (.transportPrepare 1 0 0 false false)).step
      (.open 1 5)).step (.resume 1 true false)).step (.record 1)).Reachable Roomy :=
    .step _ (.step _ (.step _ (.step _ .initial trivial) trivial) trivial) trivial
  exact ⟨_, by decide, stops_follow (hrun.step (.stop 1) fun _ _ => by decide)⟩

/-- The audio of session 1 is set up again, by call `id`, and attached to the player. -/
def audioAttached (id : ℕ) : List MirrorLabel :=
  [.audioOpen 1, .resume id true true, .resume id true true, .audio, .resume (id + 1) true true]

/-- The mirror of session 1 is loaded, and while the player is still busy with that, its audio is
set up and torn down until the queue is full. -/
def queueFilled : List MirrorLabel :=
  [.transportPrepare 1 0 0 false false, .open 1 5, .resume 1 true true, .record 1] ++
    List.replicate 5 (.work fun _ => true) ++
    (List.range 15).flatMap (fun n => audioAttached (3 * n + 2) ++
      [.stopStreams 1 false true, .resume (3 * n + 4) true true]) ++
    audioAttached 47

/-- **A lost stop.**  The mirror is stopped while the queue is full: when everything has been
processed, the player has been given the mirror and not been stopped. -/
theorem stop_lost :
    ∃ s : MirrorSystem, s.Reachable (fun _ _ => True) ∧ ¬s.StopsFollow ∧
      s.worker = .waiting ∧ s.runtime.commands = [] ∧ s.runtime.sessionId = 0 ∧
      .setUri "AirPlay Screen Mirroring" 1 ∈ s.played ∧ .stop 1 ∉ s.played := by
  let drained := queueFilled ++ [.stop 1] ++ List.replicate 70 (.work fun _ => true)
  refine ⟨MirrorSystem.initial.run drained, .run .initial _, ?_, by decide +kernel,
    by decide +kernel, by decide +kernel, by decide +kernel, by decide +kernel⟩
  intro hfollow
  have hload : ∃ command ∈ (MirrorSystem.initial.run drained).issued,
      command.type = .load ∧ command.generation = 1 := by decide +kernel
  have hstop : stopCommand 1 ∉ (MirrorSystem.initial.run drained).issued := by decide +kernel
  obtain ⟨command, hmem, htype, hgeneration⟩ := hload
  obtain ⟨before, after, hsplit⟩ := List.append_of_mem hmem
  rcases hfollow before command after hsplit htype with hstreams | ⟨hafter, -⟩
  · have hloaded := hstreams.loaded
    revert hloaded
    decide +kernel
  · apply hstop
    rw [hsplit, ← hgeneration]
    exact List.mem_append_right _ (List.mem_cons_of_mem _ hafter)

end MirrorSystem

end NXCast
