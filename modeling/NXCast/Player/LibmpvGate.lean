import NXCast.Player.Libmpv

/-!
# The startup gate of the libmpv backend

A load closes the startup gate, behind which the player reads `LOADING`, and gives it a deadline.  A
`Play` in front of `FILE_LOADED` is put off until then.  The gate opens by a pause, a stop or an end of
file, or once the file is loaded: by a restart of playback, or by the first pump at its deadline.

The commands and events of one load come in any order here.  mpv itself sends the restart of a playback
only behind `FILE_LOADED`, which is `RestartsBehind`.
-/

namespace NXCast

open LibmpvSection List LibmpvLabel Runs

/-! ## Parts -/

/-- How often `Play` has been dispatched. -/
def playsSent (calls : List (MpvCall × Bool)) : ℕ :=
  calls.countP fun call => decide (call.1 = .setPause false)

/-- The gate and the play request are as they were. -/
structure GateKept (before after : LibmpvBackend) : Prop where
  hold : after.startupRenderHold = before.startupRenderHold
  deadline : after.startupHoldDeadlineMs = before.startupHoldDeadlineMs
  requested : after.playRequested = before.playRequested
  unpause : after.playUnpausePending = before.playUnpausePending

/-- A section that leaves the gate and the play request, and whether the file is loaded. -/
structure GateQuiet (backend : LibmpvBackend) (x : LibmpvSection) : Prop where
  kept : GateKept backend x.backend
  loaded : x.backend.fileLoaded = backend.fileLoaded
  plays : playsSent x.calls = 0

section Quiet

variable {now : ℕ} {answers : LibmpvAnswers} {backend : LibmpvBackend}

lemma GateKept.refl (backend : LibmpvBackend) : GateKept backend backend := ⟨rfl, rfl, rfl, rfl⟩

lemma GateQuiet.enter (backend : LibmpvBackend) : GateQuiet backend backend.enter :=
  ⟨.refl backend, rfl, rfl⟩

lemma maybeIssuePendingSeek_gate (x : LibmpvSection) :
    GateKept x.backend (x.maybeIssuePendingSeek answers).backend ∧
      (x.maybeIssuePendingSeek answers).backend.fileLoaded = x.backend.fileLoaded ∧
      playsSent (x.maybeIssuePendingSeek answers).calls = playsSent x.calls := by
  rcases maybeIssuePendingSeek_cases answers x with
    heq | ⟨request, -, -, heq⟩ | ⟨request, -, -, -, hbackend, hcalls⟩
  · rw [heq]
    exact ⟨.refl _, rfl, rfl⟩
  · rw [heq]
    exact ⟨.refl _, rfl, by simp [playsSent]⟩
  · rw [hbackend, hcalls]
    exact ⟨⟨rfl, rfl, rfl, rfl⟩, rfl, by simp [playsSent]⟩

lemma setVolume_gate (volume : ℤ) : GateQuiet backend (libmpvSetVolume answers backend volume).2 := by
  unfold libmpvSetVolume
  split_ifs
  · exact .enter backend
  all_goals exact ⟨⟨by simp, by simp, by simp, by simp⟩, by simp, by simp [playsSent]⟩

lemma setMute_gate (mute : Bool) : GateQuiet backend (libmpvSetMute answers backend mute).2 := by
  unfold libmpvSetMute
  split_ifs
  · exact .enter backend
  all_goals exact ⟨⟨by simp, by simp, by simp, by simp⟩, by simp, by simp [playsSent]⟩

lemma seekEvent_gate : GateQuiet backend (libmpvSeekEvent backend) := by
  unfold libmpvSeekEvent
  exact ⟨⟨by simp, by simp, by simp, by simp⟩, by simp, by simp [playsSent]⟩

lemma reply_gate (id : LibmpvReplyId) (failed : Bool) :
    GateQuiet backend (libmpvReply backend id failed) := by
  unfold libmpvReply
  split
  · exact .enter backend
  · exact ⟨⟨by simp, by simp, by simp, by simp⟩, by simp, by simp [playsSent]⟩

lemma propertyChange_gate (change : MpvProperty) :
    GateQuiet backend (libmpvPropertyChange answers backend change) := by
  have hissue : ∀ x : LibmpvSection, GateQuiet backend x →
      GateQuiet backend (x.maybeIssuePendingSeek answers) := by
    intro x hx
    obtain ⟨hkept, hload, hplays⟩ := @maybeIssuePendingSeek_gate answers x
    exact ⟨⟨hkept.hold.trans hx.kept.hold, hkept.deadline.trans hx.kept.deadline,
      hkept.requested.trans hx.kept.requested, hkept.unpause.trans hx.kept.unpause⟩,
      hload.trans hx.loaded, hplays.trans hx.plays⟩
  unfold libmpvPropertyChange
  split
  · exact .enter backend
  · exact .enter backend
  · exact .enter backend
  rotate_left 5
  · exact hissue _ (.enter backend)
  · exact hissue _ ⟨⟨rfl, rfl, rfl, rfl⟩, rfl, rfl⟩
  all_goals exact ⟨⟨by simp, by simp, by simp, by simp⟩, by simp, by simp [playsSent]⟩

end Quiet

/-! ## What a label does to the gate and to the play request -/

/-- The gate is closed with a deadline, or open. -/
def LibmpvBackend.Timed (backend : LibmpvBackend) : Prop :=
  backend.startupRenderHold = true → 0 < backend.startupHoldDeadlineMs

/-- The gate as it was, with a new deadline where it is closed. -/
structure GateTimed (before after : LibmpvBackend) : Prop where
  hold : after.startupRenderHold = before.startupRenderHold
  timed : before.Timed → after.Timed

lemma GateTimed.of_kept {before after : LibmpvBackend} (h : GateKept before after) :
    GateTimed before after := by
  refine ⟨h.hold, fun htimed hhold => ?_⟩
  rw [h.deadline]
  exact htimed (h.hold.symm.trans hhold)

/-- A section that is an end for the file: a pause, a stop or an end of file that is not ignored. -/
def LibmpvLabel.Ends (label : LibmpvLabel) (backend : LibmpvBackend) : Prop :=
  match label with
  | .pause _ | .stop _ => (libmpvSection backend label).1 = true
  | .endFile _ _ => backend.loadPending = false
  | _ => False

/-- A label of the load that is under way: not the next load, nor the end of mpv. -/
def LibmpvLabel.OfLoad (label : LibmpvLabel) (backend : LibmpvBackend) : Prop :=
  match label with
  | .setMedia _ _ _ => (libmpvSection backend label).1 = false
  | .play _ _ => backend.state = .stopped → (libmpvSection backend label).1 = false
  | .shutdown => False
  | _ => True

/-- `FILE_LOADED` -/
def LibmpvLabel.IsFileLoaded (label : LibmpvLabel) : Prop := ∃ answers, label = .fileLoaded answers

/-- `PLAYBACK_RESTART` -/
def LibmpvLabel.IsRestart (label : LibmpvLabel) : Prop :=
  ∃ now answers, label = .playbackRestart now answers

/-- A request to play. -/
def LibmpvLabel.IsPlay (label : LibmpvLabel) : Prop := ∃ now answers, label = .play now answers

/-- What a label of the load does to the gate, to the play request, and to what is known of the
file. -/
inductive GateEffect (backend : LibmpvBackend) (label : LibmpvLabel) (x : LibmpvSection) : Prop where
  | other (hlabel : ¬ label.IsFileLoaded) (hgate : GateTimed backend x.backend)
      (hrequested : x.backend.playRequested = backend.playRequested)
      (hunpause : x.backend.playUnpausePending = backend.playUnpausePending)
      (hloaded : x.backend.fileLoaded = true → backend.fileLoaded = true)
      (hplays : playsSent x.calls = 0)
  | ended (hends : label.Ends backend) (hhold : x.backend.startupRenderHold = false)
      (hunpause : x.backend.playUnpausePending = false)
      (hloaded : x.backend.fileLoaded = true → backend.fileLoaded = true)
      (hplays : playsSent x.calls = 0)
  | expired (hlabel : ¬ label.IsFileLoaded) (hfile : backend.fileLoaded = true)
      (hhold : x.backend.startupRenderHold = false)
      (hrequested : x.backend.playRequested = backend.playRequested)
      (hunpause : x.backend.playUnpausePending = backend.playUnpausePending)
      (hloaded : x.backend.fileLoaded = true) (hplays : playsSent x.calls = 0)
  | restarted (hlabel : label.IsRestart) (hgate : backend.Timed → x.backend.Timed)
      (hrequested : x.backend.playRequested = backend.playRequested)
      (hunpause : x.backend.playUnpausePending = backend.playUnpausePending)
      (hloaded : x.backend.fileLoaded = true) (hplays : playsSent x.calls = 0)
  | deferred (hlabel : label.IsPlay) (hgate : GateTimed backend x.backend)
      (hrequested : x.backend.playRequested = true) (hunpause : x.backend.playUnpausePending = true)
      (hloaded : x.backend.fileLoaded = false) (hplays : playsSent x.calls = 0)
  | played (hlabel : label.IsPlay) (hfile : backend.fileLoaded = true)
      (hgate : GateTimed backend x.backend) (hunpause : x.backend.playUnpausePending = false)
  | loaded (hlabel : label.IsFileLoaded) (hgate : GateTimed backend x.backend)
      (hunpause : x.backend.playUnpausePending =
        (backend.playUnpausePending && !backend.playRequested))
      (hplays : playsSent x.calls =
        if backend.playRequested && backend.playUnpausePending then 1 else 0)

section Effects

variable {now : ℕ} {answers : LibmpvAnswers} {backend : LibmpvBackend} {label : LibmpvLabel}

lemma GateEffect.of_quiet {x : LibmpvSection} (hlabel : ¬ label.IsFileLoaded)
    (h : GateQuiet backend x) : GateEffect backend label x :=
  .other hlabel (.of_kept h.kept) h.kept.requested h.kept.unpause (h.loaded.symm.trans) h.plays

lemma play_gate (hstate : backend.state ≠ .stopped) :
    GateEffect backend (.play now answers) (libmpvPlay now answers backend).2 := by
  have htimed : ∀ {after : LibmpvBackend}, after.startupRenderHold = backend.startupRenderHold →
      after.startupHoldDeadlineMs = (if backend.startupRenderHold = true then
        now + libmpvStartupGateTimeoutMs else backend.startupHoldDeadlineMs) →
      GateTimed backend after := by
    intro after hhold hdeadline
    refine ⟨hhold, fun _ hshut => ?_⟩
    rw [hdeadline, if_pos (hhold.symm.trans hshut)]
    exact Nat.lt_of_lt_of_le (by decide) (Nat.le_add_left _ now)
  by_cases hready : backend.ready = true
  · by_cases hload : backend.fileLoaded = true
    · by_cases htakes : answers.takes (.setPause false) = true
      · unfold libmpvPlay
        rw [hready, Bool.not_true, if_neg Bool.false_ne_true, if_neg hstate, hload, Bool.not_true,
          if_neg Bool.false_ne_true, htakes, Bool.not_true, if_neg Bool.false_ne_true]
        refine .played ⟨now, answers, rfl⟩ hload (htimed ?_ ?_) ?_
        all_goals rw [refreshState_backend]
        all_goals rfl
      · rw [Bool.not_eq_true] at htakes
        unfold libmpvPlay
        rw [hready, Bool.not_true, if_neg Bool.false_ne_true, if_neg hstate, hload, Bool.not_true,
          if_neg Bool.false_ne_true, htakes, Bool.not_false, if_pos rfl]
        exact .played ⟨now, answers, rfl⟩ hload (htimed rfl rfl) rfl
    · rw [Bool.not_eq_true] at hload
      unfold libmpvPlay
      rw [hready, Bool.not_true, if_neg Bool.false_ne_true, if_neg hstate, hload, Bool.not_false,
        if_pos rfl]
      refine .deferred ⟨now, answers, rfl⟩ (htimed ?_ ?_) ?_ ?_ ?_ (by simp [playsSent])
      all_goals rw [refreshState_backend]
      · rfl
      · rfl
      · rfl
      · rfl
      · exact hload
  · rw [Bool.not_eq_true] at hready
    unfold libmpvPlay
    rw [hready, Bool.not_false, if_pos rfl]
    exact .of_quiet nofun (.enter backend)

lemma pause_gate : GateEffect backend (.pause answers) (libmpvPause answers backend).2 := by
  by_cases hok : (libmpvPause answers backend).1 = true
  · have hends : (pause answers).Ends backend := hok
    revert hok
    unfold libmpvPause
    split_ifs
    · exact nofun
    · exact nofun
    intro _
    refine .ended hends ?_ (by simp) ?_ (by simp [playsSent])
    · rw [refreshState_backend]
      unfold releaseStartupGate
      split
      · next hopen => simpa using hopen
      · rfl
    · rw [refreshState_backend]
      unfold releaseStartupGate
      split
      all_goals exact id
  · refine .of_quiet nofun ?_
    revert hok
    unfold libmpvPause
    split_ifs
    · exact fun _ => .enter backend
    · exact fun _ => ⟨.refl _, rfl, by simp [playsSent]⟩
    · exact absurd rfl

lemma stop_gate : GateEffect backend (.stop answers) (libmpvStop answers backend).2 := by
  by_cases hok : (libmpvStop answers backend).1 = true
  · have hends : (stop answers).Ends backend := hok
    revert hok
    unfold libmpvStop
    split_ifs
    · exact nofun
    · exact nofun
    · exact fun _ => .ended hends (by simp [resetStartupGate]) (by simp [resetStartupGate])
        (by simp [resetStartupGate]) (by simp [playsSent])
  · refine .of_quiet nofun ?_
    revert hok
    unfold libmpvStop
    split_ifs
    · exact fun _ => .enter backend
    · exact fun _ => ⟨.refl _, rfl, by simp [playsSent]⟩
    · exact absurd rfl

lemma seekTarget_gate (request : LibmpvSeek) :
    GateEffect backend (.seekTarget request now answers)
      (libmpvSeekTarget now answers backend request).2 := by
  have hother : ∀ {x : LibmpvSection}, GateTimed backend x.backend →
      x.backend.playRequested = backend.playRequested →
      x.backend.playUnpausePending = backend.playUnpausePending →
      x.backend.fileLoaded = backend.fileLoaded → playsSent x.calls = 0 →
      GateEffect backend (.seekTarget request now answers) x :=
    fun hgate hasked hunpause hload hplays => .other nofun hgate
      hasked hunpause (hload.symm.trans) hplays
  unfold libmpvSeekTarget
  split
  · exact .of_quiet nofun (.enter backend)
  generalize hmerged : (if backend.startupRenderHold = true then backend.enter.update fun b =>
      { b with initialSeekInflight := true, initialSeekEventSeen := false,
               startupHoldDeadlineMs := now + libmpvInitialSeekTimeoutMs }
    else backend.enter) = x
  have hx : GateTimed backend x.backend ∧ x.backend.playRequested = backend.playRequested ∧
      x.backend.playUnpausePending = backend.playUnpausePending ∧
      x.backend.fileLoaded = backend.fileLoaded ∧ x.calls = [] := by
    rw [← hmerged]
    split
    · refine ⟨⟨rfl, fun _ _ => ?_⟩, rfl, rfl, rfl, rfl⟩
      exact Nat.lt_of_lt_of_le (by decide) (Nat.le_add_left libmpvInitialSeekTimeoutMs now)
    · exact ⟨.of_kept (.refl _), rfl, rfl, rfl, rfl⟩
  obtain ⟨hgate, hasked, hunpause, hload, hcalls⟩ := hx
  have hplays : playsSent x.calls = 0 := by
    rw [hcalls]
    rfl
  dsimp only
  split
  · split
    · exact hother hgate hasked hunpause hload hplays
    · exact hother ⟨hgate.hold, hgate.timed⟩ hasked hunpause hload hplays
  -- a seek that mpv does not take gives a closed gate the time of the window
  have hwindow : ∀ {y : LibmpvSection}, y.backend = x.backend → playsSent y.calls = 0 →
      GateEffect backend (.seekTarget request now answers) (if backend.startupRenderHold = true
        then (false, y.update fun b => { b with
          initialSeekInflight := false
          startupHoldDeadlineMs := now + libmpvInitialSeekWindowMs })
        else (false, y)).2 := by
    intro y hy hplays
    split
    · refine hother ⟨?_, fun _ _ => ?_⟩ ?_ ?_ ?_ hplays
      · rw [update_backend, hy]
        exact hgate.hold
      · exact Nat.lt_of_lt_of_le (by decide) (Nat.le_add_left libmpvInitialSeekWindowMs now)
      · rw [update_backend, hy]
        exact hasked
      · rw [update_backend, hy]
        exact hunpause
      · rw [update_backend, hy]
        exact hload
    · refine hother ?_ ?_ ?_ ?_ hplays <;> dsimp only <;> rw [hy] <;> assumption
  rcases sendSeekTarget_cases answers request x with
    ⟨heq, -⟩ | ⟨-, heq⟩ | ⟨-, hok, hbackend, hcall⟩
  · rw [heq, if_neg Bool.false_ne_true]
    exact hwindow rfl hplays
  · rw [heq, if_neg Bool.false_ne_true]
    exact hwindow rfl (by simp [playsSent, hcalls])
  rw [hok, if_pos rfl]
  refine hother ⟨?_, ?_⟩ ?_ ?_ ?_ ?_
  · rw [hbackend]
    exact hgate.hold
  · rw [hbackend]
    exact hgate.timed
  · rw [hbackend]
    exact hasked
  · rw [hbackend]
    exact hunpause
  · rw [hbackend]
    exact hload
  · rw [hcall, hcalls]
    rfl

lemma pump_gate : GateEffect backend (.pump now) (libmpvReleaseExpiredStartupGate now backend) := by
  unfold libmpvReleaseExpiredStartupGate
  split
  · split
    · refine .other nofun ⟨rfl, fun _ _ => ?_⟩ rfl rfl id rfl
      exact Nat.lt_of_lt_of_le (by decide) (Nat.le_add_left libmpvStartupGateTimeoutMs now)
    next hdue hload =>
    rw [Bool.not_eq_true', Bool.not_eq_false] at hload
    rw [Bool.and_assoc, Bool.and_eq_true] at hdue
    have hrel : backend.enter.releaseStartupGate.backend = { backend with
        startupRenderHold := false
        initialSeekInflight := false
        initialSeekEventSeen := false
        startupHoldDeadlineMs := 0 } := by
      unfold releaseStartupGate
      rw [enter_backend, hdue.1, Bool.not_true, if_neg Bool.false_ne_true]
      rfl
    refine .expired nofun hload ?_ ?_ ?_ ?_ (by simp [playsSent])
    all_goals rw [refreshState_backend, hrel]
    exact hload
  · exact .of_quiet nofun (.enter backend)

lemma startFile_gate : GateEffect backend .startFile (libmpvStartFile backend) := by
  unfold libmpvStartFile
  exact .other nofun ⟨by simp, by simp [LibmpvBackend.Timed]⟩ (by simp)
    (by simp) (by simp) (by simp [playsSent])

/-- `FILE_LOADED` sends the play request that was put off. -/
lemma fileLoaded_gate :
    GateEffect backend (.fileLoaded answers) (libmpvFileLoaded answers backend) := by
  unfold libmpvFileLoaded
  dsimp only
  obtain ⟨hkept, -, hplays⟩ := @maybeIssuePendingSeek_gate answers
    (backend.enter.update fun b => { b with lastError := 0, stopped := false, fileLoaded := true })
  generalize (backend.enter.update fun b =>
    { b with lastError := 0, stopped := false, fileLoaded := true }).maybeIssuePendingSeek answers
    = x at hkept hplays ⊢
  have hgate : GateTimed backend x.backend := ⟨hkept.hold, (GateTimed.of_kept hkept).timed⟩
  have hasked : x.backend.playRequested = backend.playRequested := hkept.requested
  have hunpause : x.backend.playUnpausePending = backend.playUnpausePending := hkept.unpause
  rw [hasked, hunpause]
  split
  · next hdue =>
    rw [Bool.and_eq_true] at hdue
    have hsent : ∀ y : LibmpvSection, y.backend.startupRenderHold = backend.startupRenderHold →
        (backend.Timed → y.backend.Timed) → y.backend.playUnpausePending = false →
        playsSent y.calls = 1 → GateEffect backend (.fileLoaded answers) y := by
      intro y hhold htimed hunpause hcalls
      refine .loaded ⟨answers, rfl⟩ ⟨hhold, htimed⟩ ?_ ?_
      · rw [hunpause, hdue.1, hdue.2]
        rfl
      · rw [hcalls, hdue.1, hdue.2]
        rfl
    split
    · refine hsent _ ?_ ?_ ?_ ?_
      · rw [refreshState_backend]
        exact hgate.hold
      · rw [refreshState_backend]
        exact hgate.timed
      · rw [refreshState_backend]
        rfl
      rw [refreshState_calls, update_calls, call_calls, update_calls, playsSent, countP_append]
      rw [playsSent] at hplays
      rw [hplays]
      rfl
    · refine hsent _ ?_ ?_ ?_ ?_
      · rw [refreshState_backend]
        exact hgate.hold
      · rw [refreshState_backend]
        exact hgate.timed
      · rw [refreshState_backend]
        rfl
      rw [refreshState_calls, call_calls, update_calls, playsSent, countP_append]
      rw [playsSent] at hplays
      rw [hplays]
      rfl
  · next hidle =>
    refine .loaded ⟨answers, rfl⟩ ?_ ?_ ?_
    · rw [refreshState_backend]
      exact ⟨hgate.hold, hgate.timed⟩
    · rw [refreshState_backend]
      refine hunpause.trans ?_
      revert hidle
      cases backend.playRequested <;> cases backend.playUnpausePending <;> simp
    · rw [refreshState_calls, if_neg hidle]
      exact hplays

/-- A restart of playback opens the gate or gives it the time of the window. -/
lemma libmpvRestartGate_gate (x : LibmpvSection) :
    ((libmpvRestartGate now x).backend.startupRenderHold = false ∨
        (x.backend.Timed → (libmpvRestartGate now x).backend.Timed)) ∧
      (libmpvRestartGate now x).backend.playRequested = x.backend.playRequested ∧
      (libmpvRestartGate now x).backend.playUnpausePending = x.backend.playUnpausePending ∧
      (libmpvRestartGate now x).backend.fileLoaded = x.backend.fileLoaded ∧
      (libmpvRestartGate now x).calls = x.calls := by
  unfold libmpvRestartGate
  split
  · next hshut =>
    rw [Bool.and_eq_true] at hshut
    have hrel : x.releaseStartupGate.backend = { x.backend with
        startupRenderHold := false
        initialSeekInflight := false
        initialSeekEventSeen := false
        startupHoldDeadlineMs := 0 } := by
      unfold releaseStartupGate
      rw [hshut.1, Bool.not_true, if_neg Bool.false_ne_true]
      rfl
    split
    · rw [hrel, releaseStartupGate_calls]
      exact ⟨.inl rfl, rfl, rfl, rfl, rfl⟩
    split
    · refine ⟨.inr fun htimed hhold => ?_, rfl, rfl, rfl, rfl⟩
      rw [update_backend]
      split
      · exact Nat.lt_of_lt_of_le (by decide) (Nat.le_add_left libmpvInitialSeekWindowMs now)
      · exact htimed hhold
    · split
      · rw [hrel, releaseStartupGate_calls]
        exact ⟨.inl rfl, rfl, rfl, rfl, rfl⟩
      · exact ⟨.inr id, rfl, rfl, rfl, rfl⟩
  · exact ⟨.inr id, rfl, rfl, rfl, rfl⟩

lemma playbackRestart_gate :
    GateEffect backend (.playbackRestart now answers) (libmpvPlaybackRestart now answers backend) := by
  unfold libmpvPlaybackRestart
  dsimp only
  obtain ⟨hkept, hload, hplays⟩ := @maybeIssuePendingSeek_gate answers
    (backend.enter.update fun b => { b with fileLoaded := true, stopped := false, seeking := false })
  generalize (backend.enter.update fun b =>
    { b with fileLoaded := true, stopped := false, seeking := false }).maybeIssuePendingSeek answers
    = x at hkept hload hplays ⊢
  obtain ⟨hopen, hasked, hunpause, hfile, hcalls⟩ := @libmpvRestartGate_gate now x
  refine .restarted ⟨now, answers, rfl⟩ ?_ ?_ ?_ ?_ ?_
  · rw [refreshState_backend]
    intro htimed hhold
    rcases hopen with hopen | hopen
    · exact nomatch hopen.symm.trans hhold
    · exact hopen ((GateTimed.of_kept hkept).timed htimed) hhold
  · rw [refreshState_backend]
    exact hasked.trans hkept.requested
  · rw [refreshState_backend]
    exact hunpause.trans hkept.unpause
  · rw [refreshState_backend]
    exact hfile.trans hload
  · rw [refreshState_calls, hcalls]
    exact hplays

lemma endFile_gate (reason : MpvEndFileReason) (error : ℤ) :
    GateEffect backend (.endFile reason error) (libmpvEndFile backend reason error) := by
  by_cases hpend : backend.loadPending = true
  · unfold libmpvEndFile
    rw [if_pos hpend]
    exact .of_quiet nofun (.enter backend)
  have hends : (endFile reason error).Ends backend := Bool.eq_false_iff.mpr hpend
  unfold libmpvEndFile
  rw [if_neg hpend]
  dsimp only
  split
  · exact .ended hends (by simp [resetStartupGate]) (by simp [resetStartupGate])
      (by simp [resetStartupGate]) (by simp [playsSent])
  split
  all_goals
    exact .ended hends (by simp [resetStartupGate]) (by simp [resetStartupGate])
      (by simp [resetStartupGate]) (by simp [playsSent])

lemma load_refused {paused : Bool} (h : (libmpvAsyncLoadCurrent now answers backend paused).1 = false) :
    (libmpvAsyncLoadCurrent now answers backend paused).2.backend = backend ∧
      playsSent (libmpvAsyncLoadCurrent now answers backend paused).2.calls = 0 := by
  revert h
  unfold libmpvAsyncLoadCurrent
  split
  · exact fun _ => ⟨rfl, rfl⟩
  split
  · exact fun _ => ⟨rfl, rfl⟩
  · exact nofun

lemma setMedia_gate {uri : CString} (h : (libmpvSetMedia now answers backend uri).1 = false) :
    GateQuiet backend (libmpvSetMedia now answers backend uri).2 := by
  revert h
  unfold libmpvSetMedia
  split
  · exact fun _ => .enter backend
  dsimp only
  split
  · exact nofun
  next hload =>
  obtain ⟨hbackend, hplays⟩ := load_refused (Bool.not_eq_true _ ▸ hload)
  intro _
  refine ⟨⟨?_, ?_, ?_, ?_⟩, ?_, hplays⟩ <;> rw [update_backend, hbackend]

lemma libmpvSection_gate (h : label.OfLoad backend) :
    GateEffect backend label (libmpvSection backend label).2 := by
  cases label with
  | setMedia uri now answers => exact .of_quiet nofun (setMedia_gate h)
  | play now answers =>
    by_cases hstate : backend.state = .stopped
    · have href := h hstate
      revert href
      show (libmpvPlay now answers backend).1 = false →
        GateEffect backend _ (libmpvPlay now answers backend).2
      unfold libmpvPlay
      split
      · exact fun _ => .of_quiet nofun (.enter backend)
      intro href
      obtain ⟨hbackend, hplays⟩ := load_refused href
      refine .of_quiet nofun ⟨?_, ?_, hplays⟩
      · rw [hbackend]
        exact .refl backend
      · rw [hbackend]
    · exact play_gate hstate
  | pause answers => exact pause_gate
  | stop answers => exact stop_gate
  | seekTarget request now answers => exact seekTarget_gate request
  | setVolume volume answers => exact .of_quiet nofun (setVolume_gate volume)
  | setMute mute answers => exact .of_quiet nofun (setMute_gate mute)
  | pump now => exact pump_gate
  | startFile => exact startFile_gate
  | fileLoaded answers => exact fileLoaded_gate
  | seek => exact .of_quiet nofun seekEvent_gate
  | playbackRestart now answers => exact playbackRestart_gate
  | endFile reason error => exact endFile_gate reason error
  | property change answers => exact .of_quiet nofun (propertyChange_gate change)
  | reply id failed => exact .of_quiet nofun (reply_gate id failed)
  | shutdown => exact False.elim h

end Effects

/-! ## One load -/

/-- The labels of a load, whatever their order. -/
abbrev LoadAlong : LibmpvBackend → List LibmpvLabel → Prop :=
  Runs.Along libmpvStep fun backend label => label.OfLoad backend

/-- How often `Play` is dispatched along the labels. -/
def playsAlong : LibmpvBackend → List LibmpvLabel → ℕ
  | _, [] => 0
  | backend, label :: labels =>
    playsSent (libmpvSection backend label).2.calls + playsAlong (libmpvStep backend label) labels

/-- Every restart of playback comes behind `FILE_LOADED`. -/
def RestartsBehind (labels : List LibmpvLabel) : Prop :=
  ∀ before label after, labels = before ++ label :: after → label.IsRestart →
    ∃ loaded ∈ before, loaded.IsFileLoaded

/-- A label in front of which a play request may have been put off: no end for the file, not
`FILE_LOADED`, and no play request once the file is loaded. -/
def LibmpvLabel.Waits (label : LibmpvLabel) (backend : LibmpvBackend) : Prop :=
  label.OfLoad backend ∧ ¬ label.Ends backend ∧ ¬ label.IsFileLoaded ∧
    (label.IsPlay → backend.fileLoaded = false)

/-- The law of the gate for a backend that the labels of a load have led to. -/
structure GateLaw (labels : List LibmpvLabel) (backend : LibmpvBackend) : Prop where
  opens : ∀ label, label.OfLoad backend → backend.startupRenderHold = true →
    (libmpvStep backend label).startupRenderHold = false →
    label.Ends backend ∨ (libmpvStep backend label).fileLoaded = true ∧
      (∃ loaded ∈ labels ++ [label], loaded.IsFileLoaded ∨ loaded.IsRestart) ∧
      (RestartsBehind (labels ++ [label]) → ∃ loaded ∈ labels ++ [label], loaded.IsFileLoaded)
  expires : backend.startupRenderHold = true → backend.fileLoaded = true →
    ∀ early : List ℕ, (∀ now ∈ early, now < backend.startupHoldDeadlineMs) →
      ∀ due ≥ backend.startupHoldDeadlineMs,
        Runs.run libmpvStep backend (early.map .pump) = backend ∧
          (libmpvStep backend (.pump due)).startupRenderHold = false
  plays : ∀ now answers, backend.state ≠ .stopped → backend.fileLoaded = false →
    (libmpvPlay now answers backend).1 = true →
    ∀ middle, Runs.Along libmpvStep (fun backend label => label.Waits backend)
        (libmpvStep backend (.play now answers)) middle →
      ∀ answers' rest, LoadAlong (Runs.run libmpvStep backend
          (.play now answers :: middle ++ [.fileLoaded answers'])) rest →
        (∀ label ∈ rest, ¬ label.IsPlay) →
        playsAlong backend (.play now answers :: middle) = 0 ∧
          playsAlong (Runs.run libmpvStep backend (.play now answers :: middle))
            (.fileLoaded answers' :: rest) = 1

section Load

variable {now : ℕ} {answers : LibmpvAnswers} {backend : LibmpvBackend} {label : LibmpvLabel}
  {labels : List LibmpvLabel} {paused : Bool}

lemma load_timed (h : (libmpvAsyncLoadCurrent now answers backend paused).1) :
    (libmpvAsyncLoadCurrent now answers backend paused).2.backend.Timed ∧
      (libmpvAsyncLoadCurrent now answers backend paused).2.backend.fileLoaded = false := by
  revert h
  unfold libmpvAsyncLoadCurrent
  split
  · exact nofun
  split
  · exact nofun
  intro _
  rw [queueEvent_backend, refreshState_backend, setDuration_backend, setPosition_backend]
  refine ⟨fun _ => ?_, rfl⟩
  exact Nat.lt_of_lt_of_le (by decide) (Nat.le_add_left libmpvStartupGateTimeoutMs now)

lemma step_timed (htimed : backend.Timed) (h : label.OfLoad backend) :
    (libmpvStep backend label).Timed := by
  cases libmpvSection_gate h with
  | other _ hgate | deferred _ hgate | loaded _ hgate => exact hgate.timed htimed
  | ended _ hhold => exact fun h => nomatch hhold.symm.trans h
  | expired _ _ hhold => exact fun h => nomatch hhold.symm.trans h
  | restarted _ hgate => exact hgate htimed
  | played _ _ hgate => exact hgate.timed htimed

lemma along_timed (hlabs : LoadAlong backend labels) (htimed : backend.Timed) :
    (run libmpvStep backend labels).Timed := by
  induction labels generalizing backend with
  | nil => exact htimed
  | cons label labels ih => exact ih hlabs.2 (step_timed htimed hlabs.1)

lemma step_fileLoaded (h : label.OfLoad backend) (hload : (libmpvStep backend label).fileLoaded) :
    backend.fileLoaded ∨ label.IsFileLoaded ∨ label.IsRestart := by
  cases libmpvSection_gate h with
  | other _ _ _ _ hkept => exact .inl (hkept hload)
  | ended _ _ _ hkept => exact .inl (hkept hload)
  | expired _ hfile | played _ hfile => exact .inl hfile
  | restarted hlabel => exact .inr (.inr hlabel)
  | deferred _ _ _ _ hfile => exact nomatch hfile.symm.trans hload
  | loaded hlabel => exact .inr (.inl hlabel)

lemma along_fileLoaded (hlabs : LoadAlong backend labels) (hstart : backend.fileLoaded = false)
    (hload : (run libmpvStep backend labels).fileLoaded) :
    ∃ loaded ∈ labels, loaded.IsFileLoaded ∨ loaded.IsRestart := by
  induction labels generalizing backend with
  | nil => exact nomatch hstart.symm.trans hload
  | cons label labels ih =>
    cases hfile : (libmpvStep backend label).fileLoaded with
    | false =>
      obtain ⟨loaded, hmem, h⟩ := ih hlabs.2 hfile hload
      exact ⟨loaded, .tail _ hmem, h⟩
    | true =>
      refine ⟨label, .head _, ?_⟩
      exact (step_fileLoaded hlabs.1 hfile).resolve_left (Bool.eq_false_iff.mp hstart)

lemma RestartsBehind.fileLoaded (h : RestartsBehind labels)
    (hload : ∃ loaded ∈ labels, loaded.IsFileLoaded ∨ loaded.IsRestart) :
    ∃ loaded ∈ labels, loaded.IsFileLoaded := by
  obtain ⟨loaded, hmem, hfile | hrestart⟩ := hload
  · exact ⟨loaded, hmem, hfile⟩
  obtain ⟨before, after, rfl⟩ := append_of_mem hmem
  obtain ⟨first, hfirst, hfile⟩ := h before loaded after rfl hrestart
  exact ⟨first, mem_append_left _ hfirst, hfile⟩

lemma step_opens (h : label.OfLoad backend) (hshut : backend.startupRenderHold)
    (hopen : (libmpvStep backend label).startupRenderHold = false) :
    label.Ends backend ∨ (libmpvStep backend label).fileLoaded := by
  have hkept : ∀ {after : LibmpvBackend}, GateTimed backend after → after.startupRenderHold ≠ false := by
    intro after hgate
    rw [hgate.hold, hshut]
    exact Bool.noConfusion
  cases libmpvSection_gate h with
  | other _ hgate | deferred _ hgate | loaded _ hgate => exact absurd hopen (hkept hgate)
  | ended hends => exact .inl hends
  | expired _ _ _ _ _ hload => exact .inr hload
  | restarted _ _ _ _ hload => exact .inr hload
  | played _ _ hgate => exact absurd hopen (hkept hgate)

lemma pump_early (h : now < backend.startupHoldDeadlineMs) : libmpvStep backend (.pump now) = backend := by
  show (libmpvReleaseExpiredStartupGate now backend).backend = backend
  unfold libmpvReleaseExpiredStartupGate
  rw [if_neg]
  · rfl
  · simp [h]

lemma pumps_early {early : List ℕ} (h : ∀ now ∈ early, now < backend.startupHoldDeadlineMs) :
    run libmpvStep backend (early.map .pump) = backend := by
  induction early with
  | nil => rfl
  | cons now early ih =>
    show run libmpvStep (libmpvStep backend (.pump now)) (early.map .pump) = backend
    rw [pump_early (h now mem_cons_self)]
    exact ih fun now hnow => h now (.tail _ hnow)

lemma pump_due (htimed : backend.Timed) (hshut : backend.startupRenderHold)
    (hload : backend.fileLoaded) (hdue : now ≥ backend.startupHoldDeadlineMs) :
    (libmpvStep backend (.pump now)).startupRenderHold = false := by
  show (libmpvReleaseExpiredStartupGate now backend).backend.startupRenderHold = false
  unfold libmpvReleaseExpiredStartupGate
  rw [if_pos (by simp [hshut, hdue, htimed hshut]), hload, Bool.not_true,
    if_neg Bool.false_ne_true, refreshState_backend]
  unfold releaseStartupGate
  rw [enter_backend, hshut, Bool.not_true, if_neg Bool.false_ne_true]
  rfl

lemma step_waits (hasked : backend.playRequested)
    (hunpause : backend.playUnpausePending) (h : label.Waits backend) :
    (libmpvStep backend label).playRequested ∧
      (libmpvStep backend label).playUnpausePending ∧
      playsSent (libmpvSection backend label).2.calls = 0 := by
  obtain ⟨hload, hends, hfile, hplay⟩ := h
  cases libmpvSection_gate hload with
  | other _ _ hkept hpend _ hplays | restarted _ _ hkept hpend _ hplays =>
    exact ⟨hkept.trans hasked, hpend.trans hunpause, hplays⟩
  | ended h => exact absurd h hends
  | expired _ _ _ hkept hpend _ hplays =>
    exact ⟨hkept.trans hasked, hpend.trans hunpause, hplays⟩
  | deferred _ _ hkept hpend _ hplays => exact ⟨hkept, hpend, hplays⟩
  | played hlabel hloaded => exact absurd ((hplay hlabel).symm.trans hloaded) Bool.false_ne_true
  | loaded hlabel => exact absurd hlabel hfile

lemma along_waits
    (hlabs : Runs.Along libmpvStep (fun backend label => label.Waits backend) backend labels)
    (hasked : backend.playRequested) (hunpause : backend.playUnpausePending) :
    (run libmpvStep backend labels).playRequested ∧
      (run libmpvStep backend labels).playUnpausePending ∧ playsAlong backend labels = 0 := by
  induction labels generalizing backend with
  | nil => exact ⟨hasked, hunpause, rfl⟩
  | cons label labels ih =>
    obtain ⟨hasked', hunpause', hplays⟩ := step_waits hasked hunpause hlabs.1
    obtain ⟨hrun, hpend, hrest⟩ := ih hlabs.2 hasked' hunpause'
    refine ⟨hrun, hpend, ?_⟩
    rw [playsAlong, hplays, hrest]

lemma step_sent (hunpause : backend.playUnpausePending = false) (h : label.OfLoad backend)
    (hplay : ¬ label.IsPlay) :
    (libmpvStep backend label).playUnpausePending = false ∧
      playsSent (libmpvSection backend label).2.calls = 0 := by
  cases libmpvSection_gate h with
  | other _ _ _ hpend _ hplays | restarted _ _ _ hpend _ hplays =>
    exact ⟨hpend.trans hunpause, hplays⟩
  | ended _ _ hpend _ hplays => exact ⟨hpend, hplays⟩
  | expired _ _ _ _ hpend _ hplays => exact ⟨hpend.trans hunpause, hplays⟩
  | deferred hlabel | played hlabel => exact absurd hlabel hplay
  | loaded _ _ hpend hplays =>
    rw [hunpause] at hpend hplays
    rw [Bool.and_false, if_neg Bool.false_ne_true] at hplays
    exact ⟨hpend, hplays⟩

lemma along_sent (hlabs : LoadAlong backend labels) (hplay : ∀ label ∈ labels, ¬ label.IsPlay)
    (hunpause : backend.playUnpausePending = false) : playsAlong backend labels = 0 := by
  induction labels generalizing backend with
  | nil => rfl
  | cons label labels ih =>
    obtain ⟨hunpause', hplays⟩ := step_sent hunpause hlabs.1 (hplay label mem_cons_self)
    rw [playsAlong, hplays, ih hlabs.2 (fun l hl => hplay l (.tail _ hl)) hunpause']

/-- A play request in front of `FILE_LOADED` is put off. -/
lemma play_deferred (hstate : backend.state ≠ .stopped) (hload : backend.fileLoaded = false)
    (hacc : (libmpvPlay now answers backend).1) :
    (libmpvStep backend (.play now answers)).playRequested ∧
      (libmpvStep backend (.play now answers)).playUnpausePending ∧
      playsSent (libmpvSection backend (.play now answers)).2.calls = 0 := by
  have hready : backend.ready := by
    by_contra hready
    rw [Bool.not_eq_true] at hready
    revert hacc
    unfold libmpvPlay
    rw [hready, Bool.not_false, if_pos rfl]
    exact Bool.false_ne_true
  have heq : libmpvSection backend (.play now answers) =
      (true, ((backend.enter.update fun b => { b with
        lastError := 0
        playRequested := true
        startupHoldDeadlineMs := if b.startupRenderHold then now + libmpvStartupGateTimeoutMs
          else b.startupHoldDeadlineMs }).update fun b =>
            { b with playUnpausePending := true }).refreshState) := by
    show libmpvPlay now answers backend = _
    unfold libmpvPlay
    rw [hready, Bool.not_true, if_neg Bool.false_ne_true, if_neg hstate, hload, Bool.not_false,
      if_pos rfl]
  unfold libmpvStep
  rw [heq, refreshState_backend, refreshState_calls]
  exact ⟨rfl, rfl, rfl⟩

/-- `FILE_LOADED` sends the request that was put off, once. -/
lemma fileLoaded_sends (hasked : backend.playRequested) (hunpause : backend.playUnpausePending) :
    (libmpvStep backend (.fileLoaded answers)).playUnpausePending = false ∧
      playsSent (libmpvSection backend (.fileLoaded answers)).2.calls = 1 := by
  have hfile : (fileLoaded answers).IsFileLoaded := ⟨answers, rfl⟩
  cases @libmpvSection_gate backend (.fileLoaded answers) trivial with
  | other hlabel | expired hlabel => exact absurd hfile hlabel
  | ended hends => exact False.elim hends
  | restarted hlabel | deferred hlabel | played hlabel => exact nomatch hlabel
  | loaded _ _ hsent hone =>
    rw [hasked, hunpause] at hsent hone
    exact ⟨hsent, hone⟩

/-- In every order of the commands and events of a load: the gate opens by a pause, a stop, an end of
file, or once mpv has said that the file is loaded; the first pump at its deadline opens the gate of a
loaded file; and a play request in front of `FILE_LOADED` is sent exactly once, by `FILE_LOADED`, where
no end for the file comes in between. -/
theorem libmpvGate_law (hload : (libmpvAsyncLoadCurrent now answers backend paused).1 = true)
    (hlabels : LoadAlong (libmpvAsyncLoadCurrent now answers backend paused).2.backend labels) :
    GateLaw labels (Runs.run libmpvStep (libmpvAsyncLoadCurrent now answers backend paused).2.backend
      labels) := by
  obtain ⟨hstart, hfile⟩ := load_timed hload
  generalize (libmpvAsyncLoadCurrent now answers backend paused).2.backend = start at *
  refine ⟨fun label hlabel hclosed hopen => ?_, fun hclosed hloaded early hearly due hdue => ?_,
    fun now answers hstate hloaded haccepted middle hmiddle answers' rest hrest hplay => ?_⟩
  · refine (step_opens hlabel hclosed hopen).imp_right fun hloaded => ⟨hloaded, ?_⟩
    have hmpv := @along_fileLoaded start (labels ++ [label])
      (Runs.Along.append hlabels ⟨hlabel, trivial⟩) hfile (by rwa [Runs.run, List.foldl_append])
    exact ⟨hmpv, fun h => h.fileLoaded hmpv⟩
  · exact ⟨pumps_early hearly, pump_due (along_timed hlabels hstart) hclosed hloaded hdue⟩
  obtain ⟨hrequested, hunpause, hplays⟩ := play_deferred hstate hloaded haccepted
  obtain ⟨hrequested', hunpause', hmiddle⟩ := along_waits hmiddle hrequested hunpause
  refine ⟨by rw [playsAlong, hplays, hmiddle], ?_⟩
  obtain ⟨hsent, hone⟩ := @fileLoaded_sends answers' _ hrequested' hunpause'
  rw [Runs.run, List.foldl_append] at hrest
  have hnone := along_sent hrest hplay hsent
  exact congrArg₂ (· + ·) hone hnone

/-- A file that is loaded, and whose gate waits for its deadline. -/
theorem libmpvGate_law_loaded :
    let uri := CString.ofBuffer (asciiBytes "http://host/a.mp4")
    let answers : LibmpvAnswers := ⟨true, true, false, fun _ => true⟩
    let media := { LibmpvBackend.initialized with hasMedia := true, uri := some uri }
    let start := (libmpvAsyncLoadCurrent 0 answers media true).2.backend
    let labels := [.startFile, .play 1 answers, .fileLoaded answers, .playbackRestart 2 answers]
    let backend := Runs.run libmpvStep start labels
    GateLaw labels backend ∧ backend.startupRenderHold = true ∧ backend.fileLoaded = true ∧
      backend.startupHoldDeadlineMs = 352 := by
  intro uri answers media start labels backend
  have hload : (libmpvAsyncLoadCurrent 0 answers media true).1 = true := by decide +kernel
  have hplay : (LibmpvLabel.play 1 answers).OfLoad (libmpvStep start .startFile) :=
    fun h => absurd h (by decide +kernel)
  exact ⟨libmpvGate_law hload ⟨trivial, hplay, trivial, trivial, trivial⟩, by decide +kernel⟩

end Load

end NXCast
