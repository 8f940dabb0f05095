import NXCast.Player.Libmpv

/-!
# What the libmpv backend publishes

`g_state` is to be what the flags of the backend say whenever the lock is free, and each of its
changes an event for the player.  Every path that writes a flag refreshes the state behind it but one:
a `Play` that mpv does not take has already cleared the last error (`libmpvState_published`).

`Tidy` is what holds within a section: there is room left for events, each change of the state is among
them, and the last one carries the state.
-/

namespace NXCast

open List LibmpvBackend

/-- `g_state` is what the flags say. -/
def LibmpvBackend.Settled (backend : LibmpvBackend) : Prop := backend.state = backend.deriveState

/-- The states that the events of the player's state carry. -/
def publishedStates (events : List LibmpvEvent) : List PlayerState :=
  (events.filter fun event => event.type = .stateChanged).map fun event => event.event.state

/-! ## Within a section -/

namespace LibmpvSection

/-- A section that began in a state `start` and has queued at most `count` events. -/
structure Tidy (start : PlayerState) (count : ℕ) (x : LibmpvSection) : Prop where
  within : x.pending.length ≤ count
  delivered : publishedStates x.pending = x.changes
  carried : (x.pending.map fun event => event.event.state).getLastD start = x.backend.state

variable {start : PlayerState} {count : ℕ} {x : LibmpvSection}

lemma Tidy.enter (backend : LibmpvBackend) : Tidy backend.state 0 backend.enter :=
  ⟨le_rfl, rfl, rfl⟩

section

variable (h : x.Tidy start count)

include h

lemma Tidy.mono {more : ℕ} (hle : count ≤ more) : x.Tidy start more :=
  ⟨h.within.trans hle, h.delivered, h.carried⟩

lemma Tidy.update {f : LibmpvBackend → LibmpvBackend}
    (hf : (f x.backend).state = x.backend.state) : (x.update f).Tidy start count :=
  ⟨h.within, h.delivered, h.carried.trans hf.symm⟩

lemma Tidy.call (answers : LibmpvAnswers) (request : MpvCall) :
    (x.call answers request).Tidy start count :=
  ⟨h.within, h.delivered, h.carried⟩

lemma Tidy.queueEvent (hroom : count < libmpvPendingEventsMax)
    {type : PlayerEventType} (htype : type ≠ .stateChanged) :
    (x.queueEvent type).Tidy start (count + 1) := by
  have hless : ¬ x.pending.length ≥ libmpvPendingEventsMax :=
    Nat.not_le.mpr (Nat.lt_of_le_of_lt h.within hroom)
  unfold LibmpvSection.queueEvent
  rw [if_neg hless]
  refine ⟨?_, ?_, ?_⟩
  · rw [length_append, length_singleton]
    exact Nat.add_le_add_right h.within 1
  · have hnone : publishedStates [x.backend.event type] = [] := by
      unfold publishedStates
      rw [filter_cons_of_neg]
      · rfl
      · exact fun hsame => htype (of_decide_eq_true hsame)
    rw [publishedStates, filter_append, map_append]
    have hdelivered := h.delivered
    unfold publishedStates at hdelivered hnone
    rw [hdelivered, hnone, append_nil]
  · rw [map_append, map_singleton, getLastD_concat]
    rfl

lemma Tidy.refreshState (hroom : count < libmpvPendingEventsMax) :
    x.refreshState.Tidy start (count + 1) := by
  unfold LibmpvSection.refreshState
  split
  · have hless : ¬ x.pending.length ≥ libmpvPendingEventsMax :=
      Nat.not_le.mpr (Nat.lt_of_le_of_lt h.within hroom)
    unfold LibmpvSection.queueEvent
    rw [if_neg hless]
    refine ⟨?_, ?_, ?_⟩
    · rw [length_append, length_singleton]
      exact Nat.add_le_add_right h.within 1
    · have hdelivered := h.delivered
      unfold publishedStates at hdelivered ⊢
      rw [filter_append, map_append, hdelivered]
      rfl
    · rw [map_append, map_singleton, getLastD_concat]
      rfl
  · exact h.mono (Nat.le_succ count)

end

lemma refreshState_settled : x.refreshState.backend.Settled := by
  rw [refreshState_backend]
  rfl

variable (h : x.Tidy start count)

include h

section

variable (hroom : count < libmpvPendingEventsMax)

include hroom

lemma Tidy.setPosition (value : ℤ) : (x.setPosition value).Tidy start (count + 1) := by
  unfold LibmpvSection.setPosition
  split
  · exact (h.update rfl).queueEvent hroom (by decide)
  · exact h.mono (Nat.le_succ count)

lemma Tidy.setDuration (value : ℤ) : (x.setDuration value).Tidy start (count + 1) := by
  unfold LibmpvSection.setDuration
  split
  · exact (h.update rfl).queueEvent hroom (by decide)
  · exact h.mono (Nat.le_succ count)

lemma Tidy.setVolume (value : ℤ) : (x.setVolume value).Tidy start (count + 1) := by
  unfold LibmpvSection.setVolume
  split
  · exact (h.update rfl).queueEvent hroom (by decide)
  · exact h.mono (Nat.le_succ count)

lemma Tidy.setMute (value : Bool) : (x.setMute value).Tidy start (count + 1) := by
  unfold LibmpvSection.setMute
  split
  · exact (h.update rfl).queueEvent hroom (by decide)
  · exact h.mono (Nat.le_succ count)

end

lemma Tidy.releaseStartupGate : x.releaseStartupGate.Tidy start count := by
  unfold LibmpvSection.releaseStartupGate
  split
  · exact h
  · exact h.update rfl

lemma Tidy.sendSeekTarget (hroom : count < libmpvPendingEventsMax)
    (answers : LibmpvAnswers) (request : LibmpvSeek) :
    (x.sendSeekTarget answers request).2.Tidy start (count + 1) := by
  unfold LibmpvSection.sendSeekTarget
  split
  · exact h.mono (Nat.le_succ count)
  split
  · exact ((h.call answers _).update rfl).refreshState hroom
  · exact (h.call answers _).mono (Nat.le_succ count)

lemma Tidy.maybeIssuePendingSeek (hroom : count < libmpvPendingEventsMax)
    (answers : LibmpvAnswers) : (x.maybeIssuePendingSeek answers).Tidy start (count + 1) := by
  unfold LibmpvSection.maybeIssuePendingSeek
  split
  · exact h.mono (Nat.le_succ count)
  split
  · exact h.mono (Nat.le_succ count)
  split
  · exact h.mono (Nat.le_succ count)
  next request _ _ _ =>
  have hsent := h.sendSeekTarget hroom answers request
  dsimp only
  split
  · exact hsent.update rfl
  · exact hsent

end LibmpvSection

/-! ## Sections -/

open LibmpvSection

/-- What a section leaves where it publishes what it has changed. -/
structure LibmpvSection.Clean (start : PlayerState) (x : LibmpvSection) : Prop where
  settled : x.backend.Settled
  tidy : x.Tidy start libmpvPendingEventsMax

section Sections

variable {now : ℕ} {answers : LibmpvAnswers} {backend : LibmpvBackend}

lemma LibmpvSection.Clean.of_refresh {start : PlayerState} {x : LibmpvSection} {count : ℕ}
    (h : x.Tidy start count) (hroom : count < libmpvPendingEventsMax) :
    x.refreshState.Clean start :=
  ⟨refreshState_settled, (h.refreshState hroom).mono hroom⟩

/-- A section that has queued nothing and leaves the flags that the state is derived from. -/
lemma LibmpvSection.Clean.of_kept (h : backend.Settled) {f : LibmpvBackend → LibmpvBackend}
    (hf : (f backend).state = backend.state) (hderive : (f backend).deriveState = backend.deriveState) :
    (backend.enter.update f).Clean backend.state :=
  ⟨hf.trans (h.trans hderive.symm), ((Tidy.enter backend).update hf).mono (Nat.zero_le _)⟩

lemma LibmpvSection.Clean.enter (h : backend.Settled) : backend.enter.Clean backend.state :=
  ⟨h, (Tidy.enter backend).mono (Nat.zero_le _)⟩

lemma LibmpvSection.Clean.call {start : PlayerState} {x : LibmpvSection} (h : x.Clean start)
    (answers : LibmpvAnswers) (request : MpvCall) : (x.call answers request).Clean start :=
  ⟨h.settled, h.tidy.call answers request⟩

lemma asyncLoadCurrent_clean {paused : Bool} (h : (libmpvAsyncLoadCurrent now answers backend paused).1) :
    (libmpvAsyncLoadCurrent now answers backend paused).2.Clean backend.state := by
  unfold libmpvAsyncLoadCurrent at h ⊢
  split at h
  · cases h
  next hready =>
  rw [if_neg hready]
  split at h
  · cases h
  next htaken =>
  rw [if_neg htaken]
  let x := (backend.enter.call answers (.loadfile backend.uri paused)).update fun b =>
    { b with
      lastError := 0, pause := paused, stopped := false, fileLoaded := false, loadPending := true,
      startupRenderHold := true, startupRestartSeen := false, initialSeekInflight := false,
      initialSeekEventSeen := false, playRequested := !paused, playUnpausePending := false,
      startupHoldDeadlineMs := now + libmpvStartupGateTimeoutMs, seeking := false,
      pausedForCache := false }
  have hstart : x.clearPendingSeek.Tidy backend.state 0 :=
    (((Tidy.enter backend).call answers _).update rfl).update rfl
  have hpos : (x.clearPendingSeek.setPosition 0).Tidy backend.state 1 :=
    hstart.setPosition (by decide) 0
  have hduration : ((x.clearPendingSeek.setPosition 0).setDuration 0).Tidy backend.state 2 :=
    hpos.setDuration (by decide) 0
  have hstate : ((x.clearPendingSeek.setPosition 0).setDuration 0).refreshState.Tidy
      backend.state 3 := hduration.refreshState (by decide)
  refine ⟨?_, hstate.queueEvent (by decide) (by decide)⟩
  rw [LibmpvBackend.Settled, queueEvent_backend]
  exact refreshState_settled

lemma asyncLoadCurrent_refused {paused : Bool}
    (h : (libmpvAsyncLoadCurrent now answers backend paused).1 = false) :
    ∃ calls, (libmpvAsyncLoadCurrent now answers backend paused).2 = ⟨backend, [], [], calls⟩ := by
  unfold libmpvAsyncLoadCurrent at h ⊢
  split at h
  · next href =>
    rw [if_pos href]
    exact ⟨_, rfl⟩
  next hready =>
  rw [if_neg hready]
  split at h
  · next href =>
    rw [if_pos href]
    exact ⟨_, rfl⟩
  · cases h

section

variable (h : backend.Settled)

include h

lemma reload_clean {paused : Bool} :
    (libmpvAsyncLoadCurrent now answers backend paused).2.Clean backend.state := by
  cases hok : (libmpvAsyncLoadCurrent now answers backend paused).1 with
  | true => exact asyncLoadCurrent_clean hok
  | false =>
    obtain ⟨calls, hsame⟩ := asyncLoadCurrent_refused hok
    rw [hsame]
    exact ⟨h, ⟨Nat.zero_le _, rfl, rfl⟩⟩

lemma setMedia_clean (uri : CString) :
    (libmpvSetMedia now answers backend uri).2.Clean backend.state := by
  unfold libmpvSetMedia
  split
  · exact Clean.enter h
  let named : LibmpvBackend := { backend with uri := some uri, hasMedia := true, lastError := 0 }
  cases hok : (libmpvAsyncLoadCurrent now answers named true).1 with
  | true =>
    have hclean := asyncLoadCurrent_clean hok
    dsimp only
    rw [hok, if_pos rfl]
    exact hclean
  | false =>
    obtain ⟨calls, hsame⟩ := asyncLoadCurrent_refused hok
    dsimp only
    rw [hok, if_neg Bool.false_ne_true, hsame]
    exact ⟨h, ⟨Nat.zero_le _, rfl, rfl⟩⟩

lemma pause_clean : (libmpvPause answers backend).2.Clean backend.state := by
  unfold libmpvPause
  split
  · exact Clean.enter h
  dsimp only
  split
  · exact (Clean.enter h).call answers _
  · refine @Clean.of_refresh _ _ 0 ?_ (by decide)
    exact ((((Tidy.enter backend).call answers _).update rfl).releaseStartupGate).update rfl

lemma stop_clean : (libmpvStop answers backend).2.Clean backend.state := by
  unfold libmpvStop
  split
  · exact Clean.enter h
  dsimp only
  split
  · exact (Clean.enter h).call answers _
  refine @Clean.of_refresh _ _ 1 ?_ (by decide)
  exact ((((((Tidy.enter backend).call answers _).update rfl).update rfl).update rfl).update
    rfl).setPosition (by decide) 0

lemma seekTarget_clean (request : LibmpvSeek) :
    (libmpvSeekTarget now answers backend request).2.Clean backend.state := by
  unfold libmpvSeekTarget
  split
  · exact Clean.enter h
  -- what the gate writes is nothing that the state is derived from
  generalize hmerged : (if backend.startupRenderHold = true then backend.enter.update fun b =>
      { b with initialSeekInflight := true, initialSeekEventSeen := false,
               startupHoldDeadlineMs := now + libmpvInitialSeekTimeoutMs }
    else backend.enter) = x
  have hx : x.Tidy backend.state 0 ∧ x.backend.Settled := by
    rw [← hmerged]
    split
    · exact ⟨(Tidy.enter backend).update rfl, h⟩
    · exact ⟨Tidy.enter backend, h⟩
  obtain ⟨htidy, hrest⟩ := hx
  have hclean : x.Clean backend.state := ⟨hrest, htidy.mono (Nat.zero_le _)⟩
  dsimp only
  split
  · split
    · exact hclean
    · dsimp only
      exact ⟨hrest, hclean.tidy.update rfl⟩
  have hsent := (htidy.sendSeekTarget (by decide) answers request).mono
    (show 0 + 1 ≤ libmpvPendingEventsMax by decide)
  rcases sendSeekTarget_cases answers request x with
    ⟨heq, -⟩ | ⟨-, heq⟩ | ⟨-, hok, hbackend, -⟩
  · rw [heq, if_neg Bool.false_ne_true]
    split
    · dsimp only
      exact ⟨hrest, hclean.tidy.update rfl⟩
    · exact hclean
  · rw [heq, if_neg Bool.false_ne_true]
    split
    · dsimp only
      exact ⟨hrest, (hclean.tidy.call answers _).update rfl⟩
    · exact hclean.call answers _
  · rw [hok, if_pos rfl]
    refine ⟨?_, hsent⟩
    rw [LibmpvBackend.Settled, hbackend]
    rfl

lemma setVolume_clean (volume : ℤ) :
    (libmpvSetVolume answers backend volume).2.Clean backend.state := by
  have hset : ∀ {x : LibmpvSection}, x.Tidy backend.state 0 → x.backend.Settled →
      (x.setVolume volume).Clean backend.state := by
    intro x htidy hrest
    refine ⟨?_, (htidy.setVolume (by decide) volume).mono (by decide)⟩
    rw [LibmpvBackend.Settled, setVolume_backend]
    exact hrest
  unfold libmpvSetVolume
  split
  · exact Clean.enter h
  split
  · exact hset (Tidy.enter backend) h
  dsimp only
  split
  · exact (Clean.enter h).call answers _
  · exact hset ((Tidy.enter backend).call answers _) h

lemma setMute_clean (mute : Bool) : (libmpvSetMute answers backend mute).2.Clean backend.state := by
  have hset : ∀ {x : LibmpvSection}, x.Tidy backend.state 0 → x.backend.Settled →
      (x.setMute mute).Clean backend.state := by
    intro x htidy hrest
    refine ⟨?_, (htidy.setMute (by decide) mute).mono (by decide)⟩
    rw [LibmpvBackend.Settled, setMute_backend]
    exact hrest
  unfold libmpvSetMute
  split
  · exact Clean.enter h
  split
  · exact hset (Tidy.enter backend) h
  dsimp only
  split
  · exact (Clean.enter h).call answers _
  · exact hset ((Tidy.enter backend).call answers _) h

lemma pump_clean : (libmpvReleaseExpiredStartupGate now backend).Clean backend.state := by
  unfold libmpvReleaseExpiredStartupGate
  split
  · split
    · exact Clean.of_kept h rfl rfl
    · exact Clean.of_refresh (Tidy.enter backend).releaseStartupGate (by decide)
  · exact Clean.enter h

end

lemma fileLoaded_clean : (libmpvFileLoaded answers backend).Clean backend.state := by
  have hissued := (((Tidy.enter backend).update (f := fun b =>
    { b with lastError := 0, stopped := false, fileLoaded := true }) rfl).maybeIssuePendingSeek
      (by decide) answers)
  unfold libmpvFileLoaded
  dsimp only
  split
  · split
    · exact Clean.of_refresh (((hissued.update rfl).call answers _).update rfl) (by decide)
    · exact Clean.of_refresh ((hissued.update rfl).call answers _) (by decide)
  · exact Clean.of_refresh hissued (by decide)

lemma restartGate_tidy {start : PlayerState} {count : ℕ} {x : LibmpvSection}
    (h : x.Tidy start count) : (libmpvRestartGate now x).Tidy start count := by
  unfold libmpvRestartGate
  split_ifs
  · exact h.releaseStartupGate
  · exact h.update rfl
  · exact h.releaseStartupGate
  all_goals exact h

lemma playbackRestart_clean : (libmpvPlaybackRestart now answers backend).Clean backend.state := by
  refine @Clean.of_refresh _ _ 1 (restartGate_tidy ?_) (by decide)
  exact ((Tidy.enter backend).update rfl).maybeIssuePendingSeek (by decide) answers

lemma endFile_clean (h : backend.Settled) (reason : MpvEndFileReason) (error : ℤ) :
    (libmpvEndFile backend reason error).Clean backend.state := by
  unfold libmpvEndFile
  split
  · exact Clean.enter h
  dsimp only
  let x := ((((backend.enter.update fun b =>
    { b with stopped := true, fileLoaded := false }).resetStartupGate).update fun b =>
      { b with seeking := false }).clearPendingSeek).update fun b =>
        { b with pausedForCache := false, pause := true }
  have hx : x.Tidy backend.state 0 :=
    (((((Tidy.enter backend).update rfl).update rfl).update rfl).update rfl).update rfl
  split
  · have hstate : (x.update fun b => { b with lastError := error }).refreshState.Tidy
        backend.state 1 := (hx.update rfl).refreshState (by decide)
    refine ⟨?_, (hstate.queueEvent (by decide) (by decide)).mono (by decide)⟩
    rw [LibmpvBackend.Settled, queueEvent_backend]
    exact refreshState_settled
  · split
    all_goals exact Clean.of_refresh ((hx.update rfl).setPosition (by decide) _) (by decide)

lemma propertyChange_clean (h : backend.Settled) (change : MpvProperty) :
    (libmpvPropertyChange answers backend change).Clean backend.state := by
  have henter := Tidy.enter backend
  have hplain : ∀ {x : LibmpvSection}, x.Tidy backend.state 1 → x.backend.Settled →
      x.Clean backend.state := fun htidy hrest => ⟨hrest, htidy.mono (by decide)⟩
  have hissue : ∀ {x : LibmpvSection}, x.Tidy backend.state 0 → x.backend.Settled →
      (x.maybeIssuePendingSeek answers).Clean backend.state := by
    intro x htidy hrest
    refine hplain (htidy.maybeIssuePendingSeek (by decide) answers) ?_
    rcases maybeIssuePendingSeek_cases answers x with heq | ⟨_, -, -, heq⟩ | ⟨_, -, -, -, heq, -⟩
    · rw [heq]
      exact hrest
    · rw [heq]
      exact hrest
    · rw [heq]
      rfl
  unfold libmpvPropertyChange
  split
  · exact Clean.enter h
  · exact Clean.enter h
  · exact Clean.enter h
  · refine hplain (henter.setVolume (by decide) _) ?_
    rw [setVolume_backend]
    exact h
  · refine hplain (henter.setPosition (by decide) _) ?_
    rw [setPosition_backend]
    exact h
  · exact Clean.of_refresh (henter.update rfl) (by decide)
  · refine hplain (henter.setMute (by decide) _) ?_
    rw [setMute_backend]
    exact h
  · refine hplain (henter.setDuration (by decide) _) ?_
    rw [setDuration_backend]
    exact h
  · exact hissue henter h
  · exact hissue (henter.update rfl) h
  all_goals exact Clean.of_refresh (henter.update rfl) (by decide)

/-- A `Play` that mpv does not take, of a loaded file with an error. -/
def LibmpvLabel.Forgets (label : LibmpvLabel) (backend : LibmpvBackend) : Prop :=
  match label with
  | .play _ answers =>
    backend.lastError ≠ 0 ∧ backend.fileLoaded = true ∧ backend.ready = true ∧
      answers.takes (.setPause false) = false
  | _ => False

lemma deriveState_of_error (h : backend.lastError ≠ 0) : backend.deriveState = .error := by
  unfold deriveState
  rw [if_pos h]

lemma deriveState_ne_error (h : backend.lastError = 0) : backend.deriveState ≠ .error := by
  unfold deriveState
  rw [if_neg (not_not.mpr h)]
  split_ifs <;> decide

/-- A `Play` that mpv does not take leaves the state as it was, without the error. -/
lemma play_refused (hready : backend.ready) (hstate : backend.state ≠ .stopped)
    (hload : backend.fileLoaded) (htakes : answers.takes (.setPause false) = false) :
    (libmpvPlay now answers backend).2 = ((backend.enter.update fun b => { b with
      lastError := 0
      playRequested := true
      startupHoldDeadlineMs :=
        if b.startupRenderHold then now + libmpvStartupGateTimeoutMs else b.startupHoldDeadlineMs
      playUnpausePending := false }).call answers (.setPause false)) := by
  unfold libmpvPlay
  rw [hready, Bool.not_true, if_neg Bool.false_ne_true, if_neg hstate, hload, Bool.not_true,
    if_neg Bool.false_ne_true, htakes, Bool.not_false, if_pos rfl]
  rfl

/-- **Play** publishes what it changes unless it forgets an error. -/
lemma play_clean_iff (h : backend.Settled) :
    (libmpvPlay now answers backend).2.Clean backend.state ↔
      ¬ (LibmpvLabel.play now answers).Forgets backend := by
  by_cases hready : backend.ready = true
  · by_cases hstate : backend.state = .stopped
    · -- a stopped file is loaded again
      refine iff_of_true ?_ fun hforgets => ?_
      · unfold libmpvPlay
        rw [hready, Bool.not_true, if_neg Bool.false_ne_true, if_pos hstate]
        exact reload_clean h
      · rw [h, deriveState_of_error hforgets.1] at hstate
        cases hstate
    by_cases hload : backend.fileLoaded = true
    · by_cases htakes : answers.takes (.setPause false) = true
      · refine iff_of_true ?_ fun hforgets => ?_
        · unfold libmpvPlay
          rw [hready, Bool.not_true, if_neg Bool.false_ne_true, if_neg hstate, hload, Bool.not_true,
            if_neg Bool.false_ne_true, htakes, Bool.not_true, if_neg Bool.false_ne_true]
          refine @Clean.of_refresh _ _ 0 ?_ (by decide)
          exact ((((Tidy.enter backend).update rfl).update rfl).call answers _).update rfl
        · exact absurd htakes (Bool.eq_false_iff.mp hforgets.2.2.2)
      rw [Bool.not_eq_true] at htakes
      have hkept := @play_refused now answers backend hready hstate hload htakes
      by_cases herror : backend.lastError = 0
      · refine iff_of_true ?_ fun hforgets => hforgets.1 herror
        rw [hkept]
        refine (Clean.of_kept h rfl ?_).call answers _
        unfold deriveState
        rw [herror]
      · refine iff_of_false (fun hclean => ?_) (not_not.mpr ⟨herror, hload, hready, htakes⟩)
        have hrest := hclean.settled
        rw [hkept, LibmpvBackend.Settled] at hrest
        have hwas : backend.state = .error := h.trans (deriveState_of_error herror)
        exact deriveState_ne_error rfl (hrest.symm.trans hwas)
    · refine iff_of_true ?_ fun hforgets => hload hforgets.2.1
      rw [Bool.not_eq_true] at hload
      unfold libmpvPlay
      rw [hready, Bool.not_true, if_neg Bool.false_ne_true, if_neg hstate, hload, Bool.not_false,
        if_pos rfl]
      refine @Clean.of_refresh _ _ 0 ?_ (by decide)
      exact ((Tidy.enter backend).update rfl).update rfl
  · refine iff_of_true ?_ fun hforgets => hready hforgets.2.2.1
    rw [Bool.not_eq_true] at hready
    unfold libmpvPlay
    rw [hready, Bool.not_false, if_pos rfl]
    exact Clean.enter h

/-- **Every section** publishes what it changes unless it forgets an error. -/
lemma libmpvSection_clean_iff (h : backend.Settled) (label : LibmpvLabel) :
    (libmpvSection backend label).2.Clean backend.state ↔ ¬ label.Forgets backend := by
  cases label with
  | setMedia uri now answers => exact iff_of_true (setMedia_clean h uri) id
  | play now answers => exact play_clean_iff h
  | pause answers => exact iff_of_true (pause_clean h) id
  | stop answers => exact iff_of_true (stop_clean h) id
  | seekTarget request now answers => exact iff_of_true (seekTarget_clean h request) id
  | setVolume volume answers => exact iff_of_true (setVolume_clean h volume) id
  | setMute mute answers => exact iff_of_true (setMute_clean h mute) id
  | pump now => exact iff_of_true (pump_clean h) id
  | startFile | seek =>
    exact iff_of_true (Clean.of_refresh ((Tidy.enter backend).update rfl) (by decide)) id
  | fileLoaded answers => exact iff_of_true fileLoaded_clean id
  | playbackRestart now answers => exact iff_of_true playbackRestart_clean id
  | endFile reason error => exact iff_of_true (endFile_clean h reason error) id
  | property change answers => exact iff_of_true (propertyChange_clean h change) id
  | reply id' failed =>
    refine iff_of_true ?_ id
    show (libmpvReply backend id' failed).Clean backend.state
    unfold libmpvReply
    split
    · exact Clean.enter h
    · exact Clean.of_refresh ((Tidy.enter backend).update rfl) (by decide)
  | shutdown =>
    exact iff_of_true (Clean.of_refresh (((((Tidy.enter backend).update rfl).update rfl).update
      rfl).update rfl) (by decide)) id

end Sections

/-! ## Publication -/

/-- What is to hold behind a command or an event: the state is what the flags say, its changes are the
changes that the player is told of, in their order, and the player's snapshot shows the last one. -/
structure LibmpvPublished (backend : LibmpvBackend) (x : LibmpvSection) : Prop where
  derived : x.backend.state = x.backend.deriveState
  delivered : publishedStates x.pending = x.changes
  cached : ∀ (session : PlayerSession) (media : PlayerMedia) (sent : List (Bool × PlayerEvent)),
    session.currentMedia = some media → sent.map (·.2) = x.pending.map (·.event) →
    (sent ≠ [] ∨ session.snapshot.state = backend.state) →
    (session.run (sent.map fun one => .event one.1 one.2)).snapshot.state = x.backend.state

lemma LibmpvSection.Tidy.cached {backend : LibmpvBackend} {count : ℕ} {x : LibmpvSection}
    (h : x.Tidy backend.state count) (session : PlayerSession) {media : PlayerMedia}
    {sent : List (Bool × PlayerEvent)} (hmedia : session.currentMedia = some media)
    (hevs : sent.map (·.2) = x.pending.map (·.event))
    (hpre : sent ≠ [] ∨ session.snapshot.state = backend.state) :
    (session.run (sent.map fun one => .event one.1 one.2)).snapshot.state = x.backend.state := by
  obtain ⟨-, hlast⟩ := PlayerSession.run_sent sent hmedia
  have hstate := congrArg Prod.fst hlast
  have hstates : x.pending.map (fun event => event.event.state) =
      (x.pending.map (·.event)).map PlayerEvent.state := by
    rw [map_map]
    rfl
  have hcarried := h.carried
  rw [hstates, ← hevs] at hcarried
  rw [← hcarried]
  rcases eq_nil_or_concat sent with rfl | ⟨front, last, rfl⟩
  · exact hpre.resolve_left fun hne => hne rfl
  rw [concat_eq_append] at hstate ⊢
  rw [foldl_append] at hstate
  refine hstate.trans ?_
  rw [map_append, map_append, map_singleton, map_singleton, getLastD_concat]
  rfl

section Publication

variable {backend : LibmpvBackend}

lemma libmpvSection_tidy (h : backend.Settled) (label : LibmpvLabel) :
    (libmpvSection backend label).2.Tidy backend.state libmpvPendingEventsMax := by
  by_cases hforgets : label.Forgets backend
  · cases label with
    | play now answers =>
      obtain ⟨herror, hload, hready, htakes⟩ := hforgets
      have hstate : backend.state ≠ .stopped := by
        rw [h, deriveState_of_error herror]
        decide
      show (libmpvPlay now answers backend).2.Tidy backend.state libmpvPendingEventsMax
      rw [play_refused hready hstate hload htakes]
      exact (((Tidy.enter backend).update rfl).call answers _).mono (Nat.zero_le _)
    | _ => exact hforgets.elim
  · exact ((libmpvSection_clean_iff h label).mpr hforgets).tidy

lemma published_iff (h : backend.Settled) (label : LibmpvLabel) :
    LibmpvPublished backend (libmpvSection backend label).2 ↔ ¬ label.Forgets backend := by
  have htidy := libmpvSection_tidy h label
  rw [← libmpvSection_clean_iff h label]
  constructor
  · exact fun hpub => ⟨hpub.derived, htidy⟩
  intro hclean
  exact ⟨hclean.settled, htidy.delivered, fun session media sent hmedia hevs hpre =>
    htidy.cached session hmedia hevs hpre⟩

/-- A restart is told of a file that has ended with an error, and mpv does not take the `Play` behind
it: the state remains that of the error. -/
theorem libmpvState_forgotten :
    let uri := CString.ofBuffer (asciiBytes "http://host/a.mp4")
    let answers : LibmpvAnswers := ⟨true, true, false, fun _ => true⟩
    let refused : LibmpvAnswers := ⟨true, true, false, fun _ => false⟩
    let backend := Runs.run libmpvStep .initialized
      [.setMedia uri 0 answers, .startFile, .endFile .error 5, .playbackRestart 1 answers,
        .play 2 refused]
    backend.state = .error ∧ backend.deriveState = .paused := by
  decide +kernel

/-- **Publication.**  In every run in which no `Play` of a loaded file with an error is refused by mpv,
the state is what the flags say; and a command or an event publishes what it changes exactly if it is
none of these. -/
theorem libmpvState_published
    (h : Runs.Reachable libmpvStep .initialized (fun b label => ¬ label.Forgets b) backend) :
    backend.state = backend.deriveState ∧
      ∀ label, LibmpvPublished backend (libmpvSection backend label).2 ↔
        ¬ label.Forgets backend := by
  have hstart : LibmpvBackend.initialized.Settled := rfl
  have hsettled : backend.Settled :=
    h.invariant (P := LibmpvBackend.Settled) hstart fun b label hb hno =>
      ((libmpvSection_clean_iff hb label).mpr hno).settled
  exact ⟨hsettled, published_iff hsettled⟩

/-- A file that is loaded and played. -/
theorem libmpvState_published_playing :
    let uri := CString.ofBuffer (asciiBytes "http://host/a.mp4")
    let answers : LibmpvAnswers := ⟨true, true, false, fun _ => true⟩
    let backend := Runs.run libmpvStep .initialized
      [.setMedia uri 0 answers, .play 1 answers, .startFile, .fileLoaded answers,
        .playbackRestart 2 answers, .pump 500]
    backend.state = .playing ∧ backend.deriveState = .playing ∧
      LibmpvPublished backend (libmpvSection backend (.pause answers)).2 := by
  intro uri answers backend
  have hstate : backend.state = .playing := by decide +kernel
  have halong : Runs.Along libmpvStep (fun b label => ¬ label.Forgets b) .initialized
      [.setMedia uri 0 answers, .play 1 answers, .startFile, .fileLoaded answers,
        .playbackRestart 2 answers, .pump 500] := by
    refine ⟨id, fun h => absurd h.2.1 ?_, id, id, id, id, trivial⟩
    decide +kernel
  obtain ⟨hderived, hpublished⟩ := libmpvState_published (Runs.Reachable.start.along halong)
  exact ⟨hstate, hderived.symm.trans hstate, (hpublished _).mpr id⟩

end Publication

end NXCast
