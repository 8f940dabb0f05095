import NXCast.Player.Libmpv

/-!
# Seeks of the libmpv backend

A seek is deferred while the file is not loaded, and a deferred one waits until mpv can seek; a later
request takes its place there.  But a request that comes when the file is loaded goes to mpv at once
and leaves the deferred one where it is, to be sent after it.  So the seeks sent for a load are among
the accepted ones in their order as long as no request comes while the file is loaded and an earlier
one is deferred (`libmpvSeeks_ordered`).
-/

namespace NXCast

open LibmpvSection List Option List.Sublist

/-! ## Seeks in the calls -/

/-- The seeks that mpv has taken. -/
def seeksSent (calls : List (MpvCall × Bool)) : List LibmpvSeek :=
  calls.filterMap fun call => match call with
    | (.seek request, true) => some request
    | _ => none

/-- mpv has taken a file. -/
def loadsFile (calls : List (MpvCall × Bool)) : Bool :=
  calls.any fun call => match call with
    | (.loadfile _ _, true) => true
    | _ => false

lemma seeksSent_append (calls more : List (MpvCall × Bool)) :
    seeksSent (calls ++ more) = seeksSent calls ++ seeksSent more :=
  filterMap_append

lemma loadsFile_append (calls more : List (MpvCall × Bool)) :
    loadsFile (calls ++ more) = (loadsFile calls || loadsFile more) :=
  any_append

/-- The seek that a label asks for, where it is accepted. -/
def LibmpvLabel.accepts : LibmpvLabel → Bool → List LibmpvSeek
  | .seekTarget request _ _, true => [request]
  | _, _ => []

/-- What a section does to the seeks: `before` and `after` are what is pending, `loaded` whether the
file is. -/
inductive SeekEffect (before : Option LibmpvSeek) (loaded : Bool) (after : Option LibmpvSeek)
    (calls : List (MpvCall × Bool)) (accepted : List LibmpvSeek) : Prop where
  | load (hload : loadsFile calls = true) (hafter : after = none) (haccepted : accepted = [])
  | quiet (hload : loadsFile calls = false) (hafter : after = before ∨ after = none)
      (hsent : seeksSent calls = []) (haccepted : accepted = [])
  | issued {request : LibmpvSeek} (hload : loadsFile calls = false) (hbefore : before = some request)
      (hafter : after = none) (hsent : seeksSent calls = [request]) (haccepted : accepted = [])
  | deferred {request : LibmpvSeek} (hload : loadsFile calls = false) (hloaded : loaded = false)
      (hafter : after = some request) (hsent : seeksSent calls = [])
      (haccepted : accepted = [request])
  | atOnce {request : LibmpvSeek} (hload : loadsFile calls = false) (hloaded : loaded = true)
      (hafter : after = before) (hsent : seeksSent calls = [request]) (haccepted : accepted = [request])

section Effects

variable {now : ℕ} {answers : LibmpvAnswers} {backend : LibmpvBackend} {loaded : Bool}
  {accepted : List LibmpvSeek}

lemma asyncLoadCurrent_seeks {paused : Bool} :
    let result := libmpvAsyncLoadCurrent now answers backend paused
    SeekEffect backend.pendingSeek loaded result.2.backend.pendingSeek result.2.calls [] := by
  unfold libmpvAsyncLoadCurrent
  split
  · exact .quiet rfl (.inl rfl) rfl rfl
  dsimp only
  split
  · next href =>
    rw [Bool.not_eq_true'] at href
    refine .quiet ?_ (.inl rfl) ?_ rfl
    · simp [loadsFile, href]
    · simp [seeksSent]
  · next htaken =>
    rw [Bool.not_eq_true', Bool.not_eq_false] at htaken
    refine .load ?_ ?_ rfl
    · simp [loadsFile, htaken]
    · simp

lemma setMedia_seeks (uri : CString) :
    let result := libmpvSetMedia now answers backend uri
    SeekEffect backend.pendingSeek loaded result.2.backend.pendingSeek result.2.calls [] := by
  unfold libmpvSetMedia
  split
  · exact .quiet rfl (.inl rfl) rfl rfl
  have hload := @asyncLoadCurrent_seeks now answers
    { backend with uri := some uri, hasMedia := true, lastError := 0 } loaded true
  dsimp only at hload ⊢
  split
  · exact hload
  · rw [update_calls, update_backend]
    exact hload

lemma play_seeks :
    let result := libmpvPlay now answers backend
    SeekEffect backend.pendingSeek loaded result.2.backend.pendingSeek result.2.calls [] := by
  unfold libmpvPlay
  split
  · exact .quiet rfl (.inl rfl) rfl rfl
  split
  · exact asyncLoadCurrent_seeks
  dsimp only
  split
  · exact .quiet (by simp [loadsFile]) (.inl (by simp)) (by simp [seeksSent]) rfl
  · split
    all_goals exact .quiet (by simp [loadsFile]) (.inl (by simp)) (by simp [seeksSent]) rfl

lemma releaseStartupGate_pendingSeek (x : LibmpvSection) :
    x.releaseStartupGate.backend.pendingSeek = x.backend.pendingSeek := by
  unfold releaseStartupGate
  split <;> rfl

lemma pause_seeks :
    let result := libmpvPause answers backend
    SeekEffect backend.pendingSeek loaded result.2.backend.pendingSeek result.2.calls [] := by
  unfold libmpvPause
  split
  · exact .quiet rfl (.inl rfl) rfl rfl
  dsimp only
  split
  · exact .quiet (by simp [loadsFile]) (.inl (by simp)) (by simp [seeksSent]) rfl
  refine .quiet (by simp [loadsFile]) (.inl ?_) (by simp [seeksSent]) rfl
  rw [refreshState_backend, update_backend]
  exact releaseStartupGate_pendingSeek _

lemma stop_seeks :
    let result := libmpvStop answers backend
    SeekEffect backend.pendingSeek loaded result.2.backend.pendingSeek result.2.calls [] := by
  unfold libmpvStop
  split
  · exact .quiet rfl (.inl rfl) rfl rfl
  dsimp only
  split
  · exact .quiet (by simp [loadsFile]) (.inl (by simp)) (by simp [seeksSent]) rfl
  · exact .quiet (by simp [loadsFile]) (.inr (by simp)) (by simp [seeksSent]) rfl

lemma seekTarget_seeks (request : LibmpvSeek) :
    let result := libmpvSeekTarget now answers backend request
    SeekEffect backend.pendingSeek backend.fileLoaded result.2.backend.pendingSeek result.2.calls
      ((LibmpvLabel.seekTarget request now answers).accepts result.1) := by
  unfold libmpvSeekTarget
  split
  · exact .quiet rfl (.inl rfl) rfl rfl
  -- what a gate that is held adds says nothing about seeks
  generalize hmerged : (if backend.startupRenderHold = true then backend.enter.update fun b =>
      { b with initialSeekInflight := true, initialSeekEventSeen := false,
               startupHoldDeadlineMs := now + libmpvInitialSeekTimeoutMs }
    else backend.enter) = x
  have hx : x.backend.pendingSeek = backend.pendingSeek ∧ x.calls = [] := by
    rw [← hmerged]
    split
    all_goals exact ⟨rfl, rfl⟩
  obtain ⟨hpend, hcalls⟩ := hx
  dsimp only
  split
  · next hload =>
    rw [Bool.not_eq_true'] at hload
    split
    · exact .quiet (by rw [hcalls]; rfl) (.inl hpend) (by rw [hcalls]; rfl) rfl
    · exact .deferred (by rw [update_calls, hcalls]; rfl) hload rfl
        (by rw [update_calls, hcalls]; rfl) rfl
  next hload =>
  rw [Bool.not_eq_true', Bool.not_eq_false] at hload
  rcases sendSeekTarget_cases answers request x with
    ⟨heq, -⟩ | ⟨htakes, heq⟩ | ⟨htakes, hsent, hbackend, hcall⟩
  · rw [heq, if_neg Bool.false_ne_true]
    split
    · exact .quiet (by rw [update_calls, hcalls]; rfl) (.inl hpend)
        (by rw [update_calls, hcalls]; rfl) rfl
    · exact .quiet (by rw [hcalls]; rfl) (.inl hpend) (by rw [hcalls]; rfl) rfl
  · rw [heq, if_neg Bool.false_ne_true]
    split
    all_goals
      exact .quiet (by simp [loadsFile, hcalls]) (.inl hpend)
        (by simp [seeksSent, hcalls, htakes]) rfl
  rw [hsent, if_pos rfl]
  refine .atOnce ?_ hload ?_ ?_ rfl
  · rw [hcall, hcalls]
    rfl
  · rw [hbackend]
    exact hpend
  · rw [hcall, hcalls]
    rfl

/-- What a section does that looks for a pending seek, where the rest of it does nothing to seeks. -/
lemma issue_seeks (answers : LibmpvAnswers) (backend : LibmpvBackend) (x : LibmpvSection)
    (hpend : x.backend.pendingSeek = backend.pendingSeek) (hcalls : x.calls = [])
    {y : LibmpvSection} (more : List (MpvCall × Bool))
    (hkept : y.backend.pendingSeek = (x.maybeIssuePendingSeek answers).backend.pendingSeek)
    (hmore : y.calls = (x.maybeIssuePendingSeek answers).calls ++ more)
    (hsent : seeksSent more = []) (hload : loadsFile more = false) :
    SeekEffect backend.pendingSeek loaded y.backend.pendingSeek y.calls [] := by
  have hseeks : seeksSent y.calls = seeksSent (x.maybeIssuePendingSeek answers).calls := by
    rw [hmore, seeksSent_append, hsent, append_nil]
  have hloads : loadsFile y.calls = loadsFile (x.maybeIssuePendingSeek answers).calls := by
    rw [hmore, loadsFile_append, hload, Bool.or_false]
  rcases maybeIssuePendingSeek_cases answers x with
    heq | ⟨request, -, htakes, heq⟩ | ⟨request, hpre, -, -, hissued, hcall⟩
  · rw [heq, hcalls] at hseeks hloads
    rw [heq] at hkept
    exact .quiet hloads (.inl (hkept.trans hpend)) hseeks rfl
  · rw [heq, call_calls, hcalls, htakes] at hseeks hloads
    rw [heq, call_backend] at hkept
    exact .quiet hloads (.inl (hkept.trans hpend)) hseeks rfl
  · rw [hcall, hcalls] at hseeks hloads
    rw [hissued] at hkept
    exact .issued hloads (hpend.symm.trans hpre) hkept hseeks rfl

lemma fileLoaded_seeks :
    let result := libmpvFileLoaded answers backend
    SeekEffect backend.pendingSeek loaded result.backend.pendingSeek result.calls [] := by
  unfold libmpvFileLoaded
  dsimp only
  let x := backend.enter.update fun b =>
    { b with lastError := 0, stopped := false, fileLoaded := true }
  have hplay : seeksSent [(.setPause false, answers.takes (.setPause false))] = [] := rfl
  split
  · split
    · refine issue_seeks answers backend x rfl rfl _ ?_ ?_ hplay rfl
      · rw [refreshState_backend, update_backend, call_backend, update_backend]
      · rw [refreshState_calls, update_calls, call_calls, update_calls]
    · refine issue_seeks answers backend x rfl rfl _ ?_ ?_ hplay rfl
      · rw [refreshState_backend, call_backend, update_backend]
      · rw [refreshState_calls, call_calls, update_calls]
  · refine issue_seeks answers backend x rfl rfl [] ?_ ?_ rfl rfl
    · rw [refreshState_backend]
    · rw [refreshState_calls, append_nil]

lemma restartGate_seeks (x : LibmpvSection) :
    (libmpvRestartGate now x).backend.pendingSeek = x.backend.pendingSeek ∧
      (libmpvRestartGate now x).calls = x.calls := by
  unfold libmpvRestartGate
  split_ifs
  · exact ⟨releaseStartupGate_pendingSeek x, releaseStartupGate_calls⟩
  · exact ⟨rfl, rfl⟩
  · exact ⟨releaseStartupGate_pendingSeek x, releaseStartupGate_calls⟩
  all_goals exact ⟨rfl, rfl⟩

lemma playbackRestart_seeks :
    let result := libmpvPlaybackRestart now answers backend
    SeekEffect backend.pendingSeek loaded result.backend.pendingSeek result.calls [] := by
  unfold libmpvPlaybackRestart
  refine issue_seeks answers backend (backend.enter.update fun b =>
    { b with fileLoaded := true, stopped := false, seeking := false }) rfl rfl [] ?_ ?_ rfl rfl
  · rw [refreshState_backend]
    exact (restartGate_seeks _).1
  · rw [refreshState_calls, append_nil]
    exact (restartGate_seeks _).2

lemma endFile_seeks (reason : MpvEndFileReason) (error : ℤ) :
    let result := libmpvEndFile backend reason error
    SeekEffect backend.pendingSeek loaded result.backend.pendingSeek result.calls [] := by
  unfold libmpvEndFile
  dsimp only
  split_ifs
  · exact .quiet rfl (.inl rfl) rfl rfl
  all_goals exact .quiet (by simp [loadsFile]) (.inr (by simp)) (by simp [seeksSent]) rfl

lemma propertyChange_seeks (change : MpvProperty) :
    let result := libmpvPropertyChange answers backend change
    SeekEffect backend.pendingSeek loaded result.backend.pendingSeek result.calls [] := by
  have hquiet : ∀ {y : LibmpvSection}, y.backend.pendingSeek = backend.pendingSeek → y.calls = [] →
      SeekEffect backend.pendingSeek loaded y.backend.pendingSeek y.calls [] := by
    intro y hpend hcalls
    rw [hpend, hcalls]
    exact .quiet rfl (.inl rfl) rfl rfl
  cases change with
  | volume value | mute value =>
    cases value with
    | none => exact hquiet rfl rfl
    | some value => exact hquiet (by simp [libmpvPropertyChange]) (by simp [libmpvPropertyChange])
  | timePos | pause | duration | pausedForCache | seeking =>
    exact hquiet (by simp [libmpvPropertyChange]) (by simp [libmpvPropertyChange])
  | seekable value =>
    cases value with
    | none => exact issue_seeks answers backend backend.enter rfl rfl [] rfl (append_nil _).symm rfl rfl
    | some value =>
      exact issue_seeks answers backend (backend.enter.setSeekable value) rfl rfl [] rfl
        (append_nil _).symm rfl rfl
  | audioRate => exact hquiet rfl rfl

lemma pump_seeks :
    let result := libmpvReleaseExpiredStartupGate now backend
    SeekEffect backend.pendingSeek loaded result.backend.pendingSeek result.calls [] := by
  unfold libmpvReleaseExpiredStartupGate
  split_ifs
  · exact .quiet rfl (.inl rfl) rfl rfl
  · refine .quiet (by simp [loadsFile]) (.inl ?_) (by simp [seeksSent]) rfl
    rw [refreshState_backend]
    exact releaseStartupGate_pendingSeek _
  · exact .quiet rfl (.inl rfl) rfl rfl

/-- **Every section** does one of these things to the seeks. -/
lemma libmpvSection_seeks (backend : LibmpvBackend) (label : LibmpvLabel) :
    SeekEffect backend.pendingSeek backend.fileLoaded
      (libmpvSection backend label).2.backend.pendingSeek (libmpvSection backend label).2.calls
      (label.accepts (libmpvSection backend label).1) := by
  cases label with
  | setMedia uri now answers => exact setMedia_seeks uri
  | play now answers => exact play_seeks
  | pause answers => exact pause_seeks
  | stop answers => exact stop_seeks
  | seekTarget request now answers => exact seekTarget_seeks request
  | setVolume volume answers =>
    unfold libmpvSection libmpvSetVolume
    dsimp only
    split_ifs <;> exact .quiet (by simp [loadsFile]) (.inl (by simp)) (by simp [seeksSent]) rfl
  | setMute mute answers =>
    unfold libmpvSection libmpvSetMute
    dsimp only
    split_ifs <;> exact .quiet (by simp [loadsFile]) (.inl (by simp)) (by simp [seeksSent]) rfl
  | pump now => exact pump_seeks
  | startFile =>
    exact .quiet (by simp [libmpvSection, libmpvStartFile, loadsFile])
      (.inl (by simp [libmpvSection, libmpvStartFile]))
      (by simp [libmpvSection, libmpvStartFile, seeksSent]) rfl
  | fileLoaded answers => exact fileLoaded_seeks
  | seek =>
    exact .quiet (by simp [libmpvSection, libmpvSeekEvent, loadsFile])
      (.inl (by simp [libmpvSection, libmpvSeekEvent]))
      (by simp [libmpvSection, libmpvSeekEvent, seeksSent]) rfl
  | playbackRestart now answers => exact playbackRestart_seeks
  | endFile reason error => exact endFile_seeks reason error
  | property change answers => exact propertyChange_seeks change
  | reply id failed =>
    unfold libmpvSection libmpvReply
    dsimp only
    split_ifs <;> exact .quiet (by simp [loadsFile]) (.inl (by simp)) (by simp [seeksSent]) rfl
  | shutdown =>
    exact .quiet (by simp [libmpvSection, libmpvShutdown, loadsFile])
      (.inr (by simp [libmpvSection, libmpvShutdown]))
      (by simp [libmpvSection, libmpvShutdown, seeksSent]) rfl

end Effects

/-! ## Runs -/

/-- The backend with the seeks accepted and sent since the last load. -/
structure SeekHistory where
  backend : LibmpvBackend
  accepted : List LibmpvSeek
  sent : List LibmpvSeek

namespace SeekHistory

/-- The initialized backend. -/
def initialized : SeekHistory := ⟨.initialized, [], []⟩

/-- A step; the histories begin again with a load. -/
def step (history : SeekHistory) (label : LibmpvLabel) : SeekHistory :=
  let (ok, x) := libmpvSection history.backend label
  if loadsFile x.calls then ⟨x.backend, [], []⟩
  else ⟨x.backend, history.accepted ++ label.accepts ok, history.sent ++ seeksSent x.calls⟩

/-- What has been sent, and what may still be, is among the accepted requests in their order. -/
def Ordered (history : SeekHistory) : Prop :=
  List.Sublist (history.sent ++ history.backend.pendingSeek.toList) history.accepted

end SeekHistory

/-- A request that mpv takes comes while the file is loaded and an earlier one is deferred. -/
def LibmpvLabel.Overtakes (label : LibmpvLabel) (backend : LibmpvBackend) : Prop :=
  match label with
  | .seekTarget request _ answers =>
    (backend.fileLoaded = true ∧ backend.pendingSeek ≠ none) ∧ backend.ready = true ∧
      playerUriIsScreenMirror backend.uri = false ∧ backend.state ≠ .stopped ∧
        request.target.bytes ≠ [] ∧ answers.takes (.seek request) = true
  | _ => False

lemma seekTarget_taken {now : ℕ} {answers : LibmpvAnswers} {backend : LibmpvBackend}
    {request : LibmpvSeek} (hload : backend.fileLoaded) :
    (libmpvSeekTarget now answers backend request).1 ↔
      backend.ready ∧ playerUriIsScreenMirror backend.uri = false ∧
        backend.state ≠ .stopped ∧ request.target.bytes ≠ [] ∧ answers.takes (.seek request) := by
  unfold libmpvSeekTarget
  split
  · next href =>
    simp only [Bool.or_eq_true, Bool.not_eq_true', decide_eq_true_iff] at href
    refine iff_of_false Bool.false_ne_true ?_
    rintro ⟨hready, hmirror, hstate, htgt, -⟩
    rcases href with ((href | href) | href) | href
    · exact absurd hready (Bool.eq_false_iff.mp href)
    · exact absurd href (Bool.eq_false_iff.mp hmirror)
    · exact hstate href
    · exact htgt href
  next hok =>
  simp only [Bool.or_eq_true, Bool.not_eq_true', decide_eq_true_iff, not_or,
    Bool.not_eq_false, Bool.not_eq_true] at hok
  obtain ⟨⟨⟨hready, hmirror⟩, hstate⟩, htgt⟩ := hok
  generalize hmerged : (if backend.startupRenderHold = true then backend.enter.update fun b =>
      { b with initialSeekInflight := true, initialSeekEventSeen := false,
               startupHoldDeadlineMs := now + libmpvInitialSeekTimeoutMs }
    else backend.enter) = x
  have hx : x.backend.ready = backend.ready ∧ x.backend.state = backend.state := by
    rw [← hmerged]
    split
    all_goals exact ⟨rfl, rfl⟩
  dsimp only
  rw [hload, Bool.not_true, if_neg Bool.false_ne_true]
  rcases sendSeekTarget_cases answers request x with
    ⟨-, hno⟩ | ⟨htakes, heq⟩ | ⟨htakes, hsent, -⟩
  · rw [hx.1, hx.2, hready] at hno
    rcases hno with hno | hno | hno
    · cases hno
    · exact absurd hno hstate
    · exact absurd hno htgt
  · rw [heq, if_neg Bool.false_ne_true, htakes]
    refine iff_of_false ?_ fun h => nomatch h.2.2.2.2
    split <;> exact Bool.false_ne_true
  · rw [hsent, if_pos rfl]
    exact iff_of_true rfl ⟨hready, hmirror, hstate, htgt, htakes⟩

namespace SeekHistory

variable {history : SeekHistory}

/-- **One step** keeps the order unless a request overtakes a deferred one. -/
lemma Ordered.step (h : history.Ordered) {label : LibmpvLabel}
    (hno : ¬ label.Overtakes history.backend) : (history.step label).Ordered := by
  unfold SeekHistory.step
  dsimp only
  rcases libmpvSection_seeks history.backend label with
    ⟨hload, hafter, -⟩ | ⟨hload, hafter, hsent, hacc⟩ |
    ⟨hload, hpre, hafter, hsent, hacc⟩ | ⟨hload, -, hafter, hsent, hacc⟩ |
    ⟨hload, hloaded, hafter, hsent, hacc⟩
  · rw [hload, if_pos rfl, Ordered]
    rw [hafter]
    exact refl _
  · rw [hload, if_neg Bool.false_ne_true, Ordered]
    rw [hsent, hacc, append_nil, append_nil]
    rcases hafter with hafter | hafter
    · rw [hafter]
      exact h
    · rw [hafter, toList_none, append_nil]
      exact (sublist_append_left _ _).trans h
  · rw [hload, if_neg Bool.false_ne_true, Ordered]
    rw [hsent, hacc, hafter, toList_none, append_nil, append_nil]
    rw [Ordered, hpre] at h
    exact h
  · rw [hload, if_neg Bool.false_ne_true, Ordered]
    rw [hsent, hacc, hafter, append_nil, toList_some]
    exact ((sublist_append_left _ _).trans h).append (refl _)
  rw [hload, if_neg Bool.false_ne_true, Ordered]
  rw [hsent, hacc, hafter]
  have hpend : history.backend.pendingSeek = none := by
    by_contra hsome
    cases label with
    | seekTarget request now answers =>
      apply hno
      have hok : (libmpvSeekTarget now answers history.backend request).1 := by
        by_contra href
        rw [libmpvSection, Bool.eq_false_iff.mpr href] at hacc
        cases hacc
      exact ⟨⟨hloaded, hsome⟩, (seekTarget_taken hloaded).mp hok⟩
    | _ => cases hacc
  rw [Ordered, hpend, toList_none, append_nil] at h
  rw [hpend, toList_none, append_nil]
  exact h.append (refl _)

/-- A request of which there has been none like it, and which overtakes, breaks the order. -/
lemma not_ordered_of_overtakes (h : history.Ordered) {request : LibmpvSeek} {now : ℕ}
    {answers : LibmpvAnswers} (hfresh : request ∉ history.accepted)
    (hovertakes : (LibmpvLabel.seekTarget request now answers).Overtakes history.backend) :
    ¬ (history.step (.seekTarget request now answers)).Ordered := by
  obtain ⟨⟨hloaded, hpend⟩, hallowed⟩ := hovertakes
  obtain ⟨deferred, hdeferred⟩ := ne_none_iff_exists'.mp hpend
  have hok : (libmpvSection history.backend (.seekTarget request now answers)).1 :=
    (seekTarget_taken hloaded).mpr hallowed
  have heffect := libmpvSection_seeks history.backend (.seekTarget request now answers)
  rw [hok, hloaded] at heffect
  unfold SeekHistory.step
  dsimp only
  rcases heffect with
    ⟨-, -, hacc⟩ | ⟨-, -, -, hacc⟩ | ⟨-, -, -, -, hacc⟩ | ⟨-, hnot, -⟩ |
    ⟨hload, -, hafter, hsent, hacc⟩
  · cases hacc
  · cases hacc
  · cases hacc
  · cases hnot
  obtain rfl := singleton_inj.mp hacc
  rw [hload, if_neg Bool.false_ne_true, Ordered, hok]
  rw [hsent, hafter, hdeferred, hacc, toList_some]
  -- the deferred request stands last, so what is in front of it has to be among the old ones
  have hmem : deferred ∈ history.accepted := by
    rw [Ordered, hdeferred] at h
    exact h.subset (mem_append_right _ (mem_singleton_self _))
  intro hkept
  rw [append_assoc, singleton_append] at hkept
  have hne : deferred ≠ request := fun heq => hfresh (heq ▸ hmem)
  have hwithin : List.Sublist (history.sent ++ [request, deferred]) history.accepted := by
    obtain ⟨front, back, heq, hfront, hback⟩ := sublist_append_iff.mp hkept
    rcases sublist_singleton.mp hback with rfl | rfl
    · rw [heq, append_nil]
      exact hfront
    · have hlast := congrArg getLast? heq
      rw [getLast?_append, getLast?_concat] at hlast
      exact absurd (some.inj hlast) hne
  exact hfresh (hwithin.subset (mem_append_right _ mem_cons_self))

end SeekHistory

/-! ## The order -/

/-- A position is asked for before the file is loaded, and another one when it is but mpv cannot seek
yet: the first is sent behind the second. -/
theorem libmpvSeek_overtaken :
    let uri := CString.ofBuffer (asciiBytes "http://host/a.mp4")
    let answers : LibmpvAnswers := ⟨true, true, false, fun _ => true⟩
    let first : LibmpvSeek := ⟨CString.ofBuffer (asciiBytes "10"), 0⟩
    let second : LibmpvSeek := ⟨CString.ofBuffer (asciiBytes "20"), 1⟩
    let history := Runs.run SeekHistory.step .initialized
      [.setMedia uri 0 answers, .startFile, .seekTarget first 1 answers, .fileLoaded answers,
        .seekTarget second 2 answers, .property (.seekable (some true)) answers]
    history.accepted = [first, second] ∧ history.sent = [second, first] ∧
      ¬ List.Sublist history.sent history.accepted := by
  decide +kernel

/-- **Seeks.**  In every run in which no request that mpv takes comes while the file is loaded and an
earlier one is deferred, the seeks sent for a load are among the requests accepted for it, in their
order; and a new request keeps what has been sent and is deferred so exactly if it is none of these. -/
theorem libmpvSeeks_ordered {history : SeekHistory}
    (h : Runs.Reachable SeekHistory.step .initialized
      (fun history label => ¬ label.Overtakes history.backend) history) :
    List.Sublist history.sent history.accepted ∧
      ∀ request now answers, request ∉ history.accepted →
        ((history.step (.seekTarget request now answers)).Ordered ↔
          ¬ (LibmpvLabel.seekTarget request now answers).Overtakes history.backend) := by
  have hstart : SeekHistory.initialized.Ordered := List.Sublist.refl _
  have hordered : history.Ordered :=
    h.invariant (P := SeekHistory.Ordered) hstart fun _ _ hs hno => hs.step hno
  refine ⟨(List.sublist_append_left _ _).trans hordered, fun request now answers hfresh => ?_⟩
  exact ⟨fun hkept hovertakes => SeekHistory.not_ordered_of_overtakes hordered hfresh hovertakes hkept,
    hordered.step⟩

/-- A position that is asked for before the file is loaded, and another one behind it. -/
theorem libmpvSeeks_ordered_deferred :
    let uri := CString.ofBuffer (asciiBytes "http://host/a.mp4")
    let answers : LibmpvAnswers := ⟨true, true, false, fun _ => true⟩
    let first : LibmpvSeek := ⟨CString.ofBuffer (asciiBytes "10"), 0⟩
    let second : LibmpvSeek := ⟨CString.ofBuffer (asciiBytes "20"), 1⟩
    let history := Runs.run SeekHistory.step .initialized
      [.setMedia uri 0 answers, .startFile, .seekTarget first 1 answers, .fileLoaded answers,
        .property (.seekable (some true)) answers, .seekTarget second 2 answers]
    history.sent = [first, second] ∧ List.Sublist history.sent history.accepted := by
  intro uri answers first second history
  have hsent : history.sent = [first, second] := by decide +kernel
  have halong : Runs.Along SeekHistory.step
      (fun history label => ¬ label.Overtakes history.backend) .initialized
      [.setMedia uri 0 answers, .startFile, .seekTarget first 1 answers, .fileLoaded answers,
        .property (.seekable (some true)) answers, .seekTarget second 2 answers] := by
    refine ⟨id, id, fun h => absurd h.1.1 ?_, id, id, fun h => absurd h.1.2 ?_, trivial⟩
    all_goals decide +kernel
  exact ⟨hsent, (libmpvSeeks_ordered (Runs.Reachable.start.along halong)).1⟩

end NXCast
