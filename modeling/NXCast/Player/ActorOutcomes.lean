import NXCast.Player.ActorQueue

/-!
# What becomes of the actor's requests

The outcomes of the requests over whole runs, what a stop rules out until the next start, and how the
worker comes to each request that is queued.
-/

namespace NXCast

open List Function RequestView MediaActor

/-! ## Outcomes -/

/-- The statuses that a request that entered the queue may end with: executed, failed, stale, replaced or
shut down. -/
def MediaActorSubmitStatus.isOutcome (status : MediaActorSubmitStatus) : Bool :=
  decide (status = .executed ∨ status = .executionFailed ∨ status = .stale ∨ status = .accepted ∨
    status = .shuttingDown)

/-- The worker is about to complete a request that was not replaced. -/
def ActorWorker.completesWell : ActorWorker → Bool
  | completing _ _ status => status.isOutcome && decide (status ≠ .accepted)
  | _ => true

namespace MediaActor

variable {config : MediaActorConfig} {actor next : MediaActor} {key : ℕ}
  {status : MediaActorSubmitStatus}

/-- The outcomes are those there are, and those that were replaced are known. -/
structure Ended (actor : MediaActor) : Prop where
  completing : actor.worker.completesWell = true
  outcome : ∀ key, ∀ status ∈ actor.outcomes key, status.isOutcome = true
  replaced : ∀ key, .accepted ∈ actor.outcomes key ↔ (actor.replacedBy key).isSome = true

lemma Ended.of_same (h : actor.Ended) (houtcomes : next.outcomes = actor.outcomes)
    (hrepl : next.replacedBy = actor.replacedBy) (hwork : next.worker.completesWell) : next.Ended :=
  ⟨hwork, houtcomes ▸ h.outcome, houtcomes ▸ hrepl ▸ h.replaced⟩

lemma outcomes_requestCompleteLocked (actor : MediaActor) (key : ℕ) (status : MediaActorSubmitStatus) :
    (actor.requestCompleteLocked key status).outcomes =
      (if (actor.requests key).isSome then
        update actor.outcomes key (status :: actor.outcomes key) else actor.outcomes) := by
  unfold requestCompleteLocked dropped
  split
  · rename_i hnone
    rw [hnone]
    rfl
  · rename_i request hsome
    rw [hsome]
    split <;> rfl

lemma replacedBy_requestCompleteLocked (actor : MediaActor) (key : ℕ)
    (status : MediaActorSubmitStatus) :
    (actor.requestCompleteLocked key status).replacedBy = actor.replacedBy :=
  congrArg QueueLog.replacedBy (log_requestCompleteLocked actor key status)

section

variable (h : actor.Ended)

include h

lemma Ended.complete (hstat : status.isOutcome) (hne : status ≠ .accepted) :
    (actor.requestCompleteLocked key status).Ended := by
  have hwork := (requestCompleteLocked_same actor key status).2.1
  refine ⟨hwork ▸ h.completing, fun other found hfound => ?_, fun other => ?_⟩
  · rw [outcomes_requestCompleteLocked] at hfound
    split at hfound
    · by_cases heq : other = key
      · subst heq
        rw [update_self] at hfound
        rcases mem_cons.mp hfound with rfl | hmem
        · exact hstat
        · exact h.outcome other found hmem
      · rw [update_of_ne heq] at hfound
        exact h.outcome other found hfound
    · exact h.outcome other found hfound
  · rw [replacedBy_requestCompleteLocked, outcomes_requestCompleteLocked, ← h.replaced other]
    split
    · by_cases heq : other = key
      · subst heq
        rw [update_self, mem_cons]
        exact or_iff_right hne.symm
      · rw [update_of_ne heq]
    · rfl

lemma Ended.rejectLoop (queue : List ℕ) : (rejectLoop queue actor).Ended := by
  induction queue generalizing actor with
  | nil => exact h
  | cons key queue ih =>
    have hpop : { actor with queue }.Ended := h.of_same rfl rfl h.completing
    exact ih (hpop.complete rfl (by decide))

lemma Ended.replaceTail {tail : ℕ} {request queued : MediaActorRequest}
    (hne : tail ≠ key) (hq : actor.requests tail = some queued) :
    (actor.replaceTail tail key request).Ended := by
  have hwork := (replaceTail_same actor tail key request).2.1
  have hrepl : (actor.replaceTail tail key request).replacedBy =
      update actor.replacedBy tail (some key) := replacedBy_requestCompleteLocked ..
  have houtcomes : (actor.replaceTail tail key request).outcomes =
      update actor.outcomes tail (.accepted :: actor.outcomes tail) := by
    unfold MediaActor.replaceTail
    rw [outcomes_requestCompleteLocked, if_pos]
    · rfl
    · simp [setRequest, setCall, update_of_ne hne, hq]
  refine ⟨hwork ▸ h.completing, fun other found hfound => ?_, fun other => ?_⟩
  · rw [houtcomes] at hfound
    by_cases heq : other = tail
    · subst heq
      rw [update_self] at hfound
      rcases mem_cons.mp hfound with rfl | hmem
      · rfl
      · exact h.outcome other found hmem
    · rw [update_of_ne heq] at hfound
      exact h.outcome other found hfound
  · rw [houtcomes, hrepl]
    by_cases heq : other = tail
    · subst heq
      simp
    · rw [update_of_ne heq, update_of_ne heq]
      exact h.replaced other

lemma Ended.push (request : MediaActorRequest) (wait forever : Bool) :
    (actor.push config key request wait forever).Ended := by
  unfold MediaActor.push
  split <;> exact h.of_same rfl rfl h.completing

lemma Ended.submit (hsound : actor.Sound) (key : ℕ) : (actor.submit config key).Ended := by
  unfold MediaActor.submit
  split
  · rename_i wait forever hcall
    split
    · exact h.of_same rfl rfl h.completing
    rename_i request hreq
    split
    · exact h.of_same rfl rfl h.completing
    split
    · exact h.of_same rfl rfl h.completing
    split
    · split
      · exact h.push request wait forever
      rename_i tail htail
      split
      · exact h.of_same rfl rfl h.completing
      rename_i queued hq
      split
      · refine h.replaceTail ?_ hq
        rintro rfl
        have hnew : (actor.view tail).call.isCreated := by
          change (actor.calls tail).isCreated = true
          rw [hcall]
          rfl
        have hheld := ((hsound.view tail).unsubmitted request hreq hnew).1
        have hone := (hsound.queued (mem_of_getLast? htail)).1
        unfold held at hheld
        omega
      · exact h.push request wait forever
    · exact h.push request wait forever
  · exact h

lemma Ended.wake (key : ℕ) (expired : Bool) : (actor.wake key expired).Ended := by
  have hdropped : ∀ (actor : MediaActor) references,
      (actor.dropped key references).outcomes = actor.outcomes := by
    intro actor references
    unfold dropped
    split <;> rfl
  have hwork := (wake_same actor key expired).2.1
  have hrepl := congrArg QueueLog.replacedBy (log_wake actor key expired)
  refine h.of_same ?_ hrepl (hwork ▸ h.completing)
  unfold MediaActor.wake MediaActor.leave
  split
  · split
    · rfl
    split
    · exact hdropped _ _
    split
    · exact hdropped _ _
    · rfl
  · rfl

lemma Ended.freeDying (key : ℕ) : (actor.freeDying key).Ended := by
  unfold MediaActor.freeDying requestFree
  split
  · split <;> exact h.of_same rfl rfl h.completing
  · exact h

/-- **A step keeps what is known of the outcomes.** -/
lemma Ended.step (hsound : actor.Sound) (step : ActorStep) :
    (actorStep config actor step).Ended := by
  cases step with
  | submit key => exact h.submit hsound key
  | wake key expired => exact h.wake key expired
  | free key => exact h.freeDying key
  | quiesce => exact h.of_same rfl rfl h.completing
  | destroy =>
    unfold actorStep destroy
    dsimp only
    split
    · exact h
    · exact (h.rejectLoop actor.queue).of_same rfl rfl (h.rejectLoop actor.queue).completing
  | finish =>
    unfold actorStep finish
    dsimp only
    split
    · exact h
    · exact (h.rejectLoop actor.queue).of_same rfl rfl rfl
  | initialized ok =>
    unfold actorStep initialized
    dsimp only
    split
    · exact h
    split
    · exact h.of_same rfl rfl rfl
    have hfailed : { actor with
        initializing := false
        ready := ok
        initializationFailed := !ok
        dispatchEnabled := ok && actor.dispatchRequested
        running := false
        accepting := false }.Ended := h.of_same rfl rfl h.completing
    exact (hfailed.rejectLoop actor.queue).of_same rfl rfl rfl
  | completed =>
    unfold actorStep completed
    dsimp only
    split
    · rename_i key processed status hwork
      have hstat := h.completing
      rw [hwork] at hstat
      obtain ⟨houtcome, hne⟩ := Bool.and_eq_true_iff.mp hstat
      have hnext : { actor with currentCommandId := 0, worker := .top (processed + 1) }.Ended :=
        h.of_same rfl rfl rfl
      exact hnext.complete houtcome (of_decide_eq_true hne)
    · exact h
  | validated valid =>
    unfold actorStep validated
    dsimp only
    split
    · split
      · exact h
      split
      · exact h.of_same rfl rfl h.completing
      · split <;> exact h.of_same rfl rfl rfl
    · exact h
  | executed ok =>
    unfold actorStep executed
    dsimp only
    split
    · split
      · exact h
      split
      · exact h.of_same rfl rfl h.completing
      · exact h.of_same rfl rfl (by cases ok <;> rfl)
    · exact h
  | workerTop =>
    unfold actorStep workerTop
    dsimp only
    split
    · split
      · exact h.of_same rfl rfl rfl
      split
      · exact h.of_same rfl rfl rfl
      split
      · exact h.of_same rfl rfl rfl
      split
      · exact h.of_same rfl rfl rfl
      split
      · exact h.of_same rfl rfl h.completing
      · exact h.of_same rfl rfl rfl
    · exact h
  | start =>
    unfold actorStep start
    dsimp only
    split
    · exact h
    split
    · exact h
    split
    · exact h
    · exact h.of_same rfl rfl rfl
  | startThread created =>
    unfold actorStep startThread
    dsimp only
    split
    · exact h
    split
    · exact h.of_same rfl rfl rfl
    · exact h.of_same rfl rfl h.completing
  | directBegin command =>
    unfold actorStep directBegin
    dsimp only
    split
    · exact h
    split
    · exact h
    · exact h.of_same rfl rfl h.completing
  | create | directValidated | directDone | startDone | activate | stop | stopSelf | join =>
    simp only [actorStep, create, directValidated, directDone,
      startDone, activate, stop, stopSelf, join]
    split <;> exact h.of_same rfl rfl h.completing
  | pumped =>
    unfold actorStep pumped
    dsimp only
    split
    · exact h
    · exact h.of_same rfl rfl rfl
  | finalized =>
    unfold actorStep finalized
    dsimp only
    split
    · exact h
    · exact h.of_same rfl rfl rfl

end

/-! ## Stopping -/

/-- What an actor that is being stopped leaves closed: nothing has entered the queue since, nothing was
taken from it but to be rejected, and the worker goes on with no request but the one that it had. -/
structure Closed (actor next : MediaActor) : Prop where
  stopping : next.stopping = true
  entries : next.entries = actor.entries
  queue : next.queue = actor.queue ∨ next.queue = []
  key : next.worker.key = actor.worker.key ∨ next.worker.key = none
  executions : next.executions.Sublist (actor.worker.key.toList ++ actor.executions)

lemma Closed.refl (h : actor.stopping) : Closed actor actor :=
  ⟨h, rfl, .inl rfl, .inl rfl, sublist_append_right _ _⟩

lemma stopping_step (step : ActorStep) (h : actor.stopping) (hstart : step ≠ .start) :
    (actorStep config actor step).stopping := by
  cases step with
  | start => exact absurd rfl hstart
  | submit key => exact (submit_same config actor key).1.2.2.2.trans h
  | wake key expired => exact (wake_same actor key expired).2.2.2.1.trans h
  | free key => exact (freeDying_same actor key).2.2.2.1.trans h
  | quiesce => exact h
  | destroy =>
    unfold actorStep destroy
    dsimp only
    split
    · exact h
    · exact (rejectLoop_same actor.queue actor rfl).2.2.2.1.trans h
  | finish =>
    unfold actorStep finish
    dsimp only
    split
    · exact h
    · exact (rejectLoop_same actor.queue actor rfl).2.2.2.1.trans h
  | initialized ok =>
    unfold actorStep initialized
    dsimp only
    split
    · exact h
    split
    · exact h
    · refine Eq.trans (rejectLoop_same _ _ rfl).2.2.2.1 ?_
      exact h
  | completed =>
    unfold actorStep completed
    dsimp only
    split
    · exact (requestCompleteLocked_same _ _ _).2.2.2.1.trans h
    · exact h
  | workerTop =>
    unfold actorStep workerTop
    dsimp only
    split
    · split <;> exact h
    · exact h
  | validated valid =>
    unfold actorStep validated
    dsimp only
    split
    · split
      · exact h
      split
      · exact h
      · split <;> exact h
    · exact h
  | executed ok =>
    unfold actorStep executed
    dsimp only
    split
    · split
      · exact h
      · split <;> exact h
    · exact h
  | startThread created =>
    unfold actorStep startThread
    dsimp only
    split
    · exact h
    · split <;> exact h
  | directBegin command =>
    unfold actorStep directBegin
    dsimp only
    split
    · exact h
    · split <;> exact h
  | create | directValidated | directDone | startDone | activate | join | pumped | finalized =>
    simp only [actorStep, create, directValidated, directDone, startDone, activate, join, pumped,
      finalized]
    split <;> exact h
  | stop | stopSelf =>
    simp only [actorStep, stop, stopSelf]
    split <;> simp [h]

lemma ActorWorker.key_of_idle {worker : ActorWorker} (h : worker = .absent ∨ worker = .exited) :
    worker.key = none := by
  rcases h with rfl | rfl <;> rfl

lemma key_step (step : ActorStep) (h : actor.stopping) :
    (actorStep config actor step).worker.key = actor.worker.key ∨
      (actorStep config actor step).worker.key = none := by
  cases step with
  | submit key => exact .inl (congrArg ActorWorker.key (submit_same config actor key).1.2.1)
  | wake key expired => exact .inl (congrArg ActorWorker.key (wake_same actor key expired).2.1)
  | free key => exact .inl (congrArg ActorWorker.key (freeDying_same actor key).2.1)
  | quiesce => exact .inl rfl
  | destroy =>
    unfold actorStep destroy
    dsimp only
    split
    · exact .inl rfl
    · exact .inl (congrArg ActorWorker.key (rejectLoop_same actor.queue actor rfl).2.1)
  | finish =>
    unfold actorStep finish
    dsimp only
    split
    · exact .inl rfl
    · exact .inr rfl
  | initialized ok =>
    unfold actorStep initialized
    dsimp only
    split
    · exact .inl rfl
    · split <;> exact .inr rfl
  | completed =>
    unfold actorStep completed
    dsimp only
    split
    · exact .inr (congrArg ActorWorker.key (requestCompleteLocked_same _ _ _).2.1)
    · exact .inl rfl
  | workerTop =>
    unfold actorStep workerTop
    dsimp only
    split
    · split <;> exact .inr rfl
    · exact .inl rfl
  | validated valid =>
    unfold actorStep validated
    dsimp only
    split
    · rename_i key processed hwork
      split
      · exact .inl rfl
      split
      · exact .inl rfl
      · rw [hwork]
        split <;> exact .inl rfl
    · exact .inl rfl
  | executed ok =>
    unfold actorStep executed
    dsimp only
    split
    · rename_i key processed hwork
      split
      · exact .inl rfl
      split
      · exact .inl rfl
      · rw [hwork]
        exact .inl rfl
    · exact .inl rfl
  | start =>
    unfold actorStep start
    dsimp only
    split
    · exact .inl rfl
    split
    · exact .inl rfl
    split
    · exact .inl rfl
    · exact .inr rfl
  | startThread created =>
    unfold actorStep startThread
    dsimp only
    split
    · exact .inl rfl
    split
    · exact .inr rfl
    · exact .inl rfl
  | directBegin command =>
    unfold actorStep directBegin
    dsimp only
    split
    · exact .inl rfl
    · split <;> exact .inl rfl
  | create | directValidated | directDone | startDone | activate | stop | stopSelf | join =>
    simp only [actorStep, create, directValidated, directDone,
      startDone, activate, stop, stopSelf, join]
    split <;> exact .inl rfl
  | pumped | finalized =>
    simp only [actorStep, pumped, finalized]
    split
    · exact .inl rfl
    · exact .inr rfl

lemma ActorWorker.key_of_taken {worker : ActorWorker} (h : worker.taken = some key) :
    worker.key = some key := by
  cases worker <;> simp_all [ActorWorker.taken, ActorWorker.key]

lemma not_executed_of_taken (h : actor.log.Orderly) (htaken : actor.worker.taken = some key) :
    key ∉ actor.executions := by
  have hpairwise := h.numbered.sublist h.line
  have htail : (actor.worker.taken.toList ++ actor.executions).Pairwise fun newer older =>
      actor.commandIds older < actor.commandIds newer := (pairwise_append.mp hpairwise).2.1
  rw [htaken] at htail
  intro hmem
  exact Nat.lt_irrefl _ ((pairwise_cons.mp htail).1 key hmem)

lemma Closed.of_same {last : MediaActor} (h : Closed actor last) (hstop : next.stopping)
    (hkey : next.worker.key = actor.worker.key ∨ next.worker.key = none)
    (hqueue : next.queue = last.queue ∨ next.queue = []) (hents : next.entries = last.entries)
    (hexecs : next.executions = last.executions) : Closed actor next := by
  refine ⟨hstop, hents.trans h.entries, ?_, hkey, ?_⟩
  · rcases hqueue with hsame | hempty
    · rw [hsame]
      exact h.queue
    · exact .inr hempty
  · rw [hexecs]
    exact h.executions

/-- **What a stop rules out.** -/
lemma Closed.step {last : MediaActor} (h : Closed actor last) (hkept : last.Kept config)
    (step : ActorStep) (hstart : step ≠ .start) : Closed actor (actorStep config last step) := by
  have hstop : (actorStep config last step).stopping :=
    stopping_step step h.stopping hstart
  have hkey : (actorStep config last step).worker.key = actor.worker.key ∨
      (actorStep config last step).worker.key = none := by
    rcases key_step step h.stopping with hsame | hnone
    · exact hsame ▸ h.key
    · exact .inr hnone
  have hchg : QueueChange config last (actorStep config last step) :=
    queueChange_step hkept.sound hkept.recorded hkept.lifecycle step
  cases hchg with
  | keep hlog | create _ _ hlog | number hlog | leave hlog =>
    rw [QueueLog.ext_iff] at hlog
    obtain ⟨hqueue, -, hents, hexecs, -⟩ := hlog
    exact h.of_same hstop hkey (.inl hqueue) hents hexecs
  | push _ _ hopen | replace _ _ _ _ hopen | take _ _ hopen =>
    rw [h.stopping] at hopen
    cases hopen
  | execute key htaken hlog =>
    rw [QueueLog.ext_iff] at hlog
    obtain ⟨hqueue, -, hents, hexecs, -⟩ := hlog
    have hlast := ActorWorker.key_of_taken htaken
    have hhad : actor.worker.key = some key := by
      rcases h.key with hsame | hnone
      · exact hsame.symm.trans hlast
      · rw [hlast] at hnone
        cases hnone
    have hold := h.executions
    refine ⟨hstop, hents.trans h.entries, ?_, hkey, ?_⟩
    · change (actorStep config last step).queue = last.queue at hqueue
      rw [hqueue]
      exact h.queue
    change (actorStep config last step).executions = key :: last.executions at hexecs
    rw [hhad] at hold
    rw [hexecs, hhad]
    refine List.Sublist.cons_cons key ?_
    rcases sublist_cons_iff.mp hold with hsub | ⟨rest, hrest, -⟩
    · exact hsub
    refine absurd ?_ (not_executed_of_taken hkept.orderly htaken)
    rw [hrest]
    exact .head _
  | reject hlog =>
    rw [QueueLog.ext_iff] at hlog
    obtain ⟨hqueue, -, hents, hexecs, -⟩ := hlog
    exact h.of_same hstop hkey (.inr hqueue) hents hexecs

/-! ## Progress -/

/-- The worker's next step, with what its callback answers. -/
def workerTurn (actor : MediaActor) (answer : Bool) : ActorStep :=
  match actor.worker with
  | .initializing => .initialized answer
  | .validating _ _ => .validated answer
  | .executing _ _ => .executed answer
  | .completing _ _ _ => .completed
  | .pumping => .pumped
  | .finishing => .finish
  | .finalizing => .finalized
  | .top _ | .absent | .exited => .workerTop

/-- The worker alone takes some steps. -/
def workerRun (config : MediaActorConfig) (answers : ℕ → Bool) : ℕ → MediaActor → MediaActor
  | 0, actor => actor
  | turns + 1, actor => workerRun config (fun turn => answers (turn + 1)) turns
      (actorStep config actor (actor.workerTurn (answers 0)))

/-- The worker is there, makes no call of its own, and either serves the queue or is being stopped. -/
structure Serving (actor : MediaActor) : Prop where
  directs : actor.directs = []
  present : actor.worker ≠ .absent ∧ actor.worker ≠ .exited
  served : actor.stopping = true ∨
    (if actor.worker = .initializing then actor.dispatchRequested else actor.dispatchEnabled) = true

/-- The turns until the worker takes the next request. -/
def turnsToTake (config : MediaActorConfig) : ActorWorker → ℕ
  | .top processed => if processed ≥ config.maxCommandBurst then 2 else 0
  | .validating _ _ => 5
  | .executing _ _ => 4
  | .completing _ _ _ => 3
  | .pumping | .initializing => 1
  | _ => 0

/-- A bound on the turns until a request has its outcome: six for each request before it. -/
def turnsLeft (config : MediaActorConfig) (actor : MediaActor) (key : ℕ) : ℕ :=
  match actor.worker with
  | .finishing => 1
  | .validating taken processed =>
    if taken = key then 3 else
      6 * actor.queue.idxOf key + 6 + turnsToTake config (.validating taken processed)
  | .executing taken processed =>
    if taken = key then 2 else
      6 * actor.queue.idxOf key + 6 + turnsToTake config (.executing taken processed)
  | .completing taken processed status =>
    if taken = key then 1 else
      6 * actor.queue.idxOf key + 6 + turnsToTake config (.completing taken processed status)
  | worker => 6 * actor.queue.idxOf key + 6 + turnsToTake config worker

/-- The queue or the worker has the request. -/
def Holds (actor : MediaActor) (key : ℕ) : Prop := key ∈ actor.queue ∨ actor.worker.key = some key

lemma holds_iff : actor.Holds key ↔ (actor.view key).held ≠ 0 := by
  unfold Holds held
  rw [← count_pos_iff]
  change (0 < (actor.view key).queued ∨ _) ↔ _
  have hstage : (actor.view key).stage = .none ↔ actor.worker.key ≠ some key := stage_eq_none
  by_cases hkey : actor.worker.key = some key
  · rw [if_neg (fun hnone => hstage.mp hnone hkey)]
    exact ⟨fun _ => by omega, fun _ => .inr hkey⟩
  · rw [if_pos (hstage.mpr hkey)]
    exact ⟨fun hor => by have := hor.resolve_right hkey; omega, fun hne => .inl (by omega)⟩

lemma Kept.not_holds (h : actor.Kept config) (key : ℕ)
    (hwork : actor.worker = .finalizing ∨ actor.worker = .exited) : ¬actor.Holds key := by
  unfold Holds
  rw [h.lifecycle.drained hwork]
  rintro (hmem | hkey)
  · exact absurd hmem not_mem_nil
  rcases hwork with hwork | hwork
  all_goals
    rw [hwork] at hkey
    cases hkey

/-- The fields of `Serving` that a completion leaves. -/
lemma serving_requestCompleteLocked (actor : MediaActor) (key : ℕ) (status : MediaActorSubmitStatus) :
    (actor.requestCompleteLocked key status).stopping = actor.stopping ∧
      (actor.requestCompleteLocked key status).worker = actor.worker ∧
      (actor.requestCompleteLocked key status).queue = actor.queue ∧
      (actor.requestCompleteLocked key status).directs = actor.directs ∧
      (actor.requestCompleteLocked key status).dispatchEnabled = actor.dispatchEnabled := by
  unfold requestCompleteLocked dropped
  split
  · exact ⟨rfl, rfl, rfl, rfl, rfl⟩
  · split <;> exact ⟨rfl, rfl, rfl, rfl, rfl⟩

/-- **The worker's next turn** brings each request that it holds nearer to its outcome. -/
lemma serving_turn (hkept : actor.Kept config) (h : actor.Serving) (hheld : actor.Holds key)
    (answer : Bool) (hnext : (actorStep config actor (actor.workerTurn answer)).Holds key) :
    (actorStep config actor (actor.workerTurn answer)).Serving ∧
      turnsLeft config (actorStep config actor (actor.workerTurn answer)) key <
        turnsLeft config actor key := by
  obtain ⟨hdirs, ⟨habsent, hexit⟩, hserve⟩ := h
  have hfresh : ¬0 ≥ config.maxCommandBurst := Nat.not_le.mpr config.burst_pos
  have hdrain := (hkept.step (actor.workerTurn answer)).not_holds key
  have hsome : ∀ taken, actor.worker.key = some taken → ∃ request,
      actor.requests taken = some request := by
    intro taken htaken
    have hparties : (actor.view taken).parties ≠ 0 := by
      have hholds := holds_iff.mp (.inr htaken)
      unfold parties
      omega
    exact (hkept.sound.view taken).some_of_parties hparties
  cases hworker : actor.worker with
  | absent => exact absurd hworker habsent
  | exited => exact absurd hworker hexit
  | finalizing => exact absurd hheld (hkept.not_holds key (.inl hworker))
  | finishing =>
    refine absurd hnext (hdrain (.inl ?_))
    simp [workerTurn, hworker, actorStep, finish]
  | initializing =>
    rw [hworker, if_pos rfl] at hserve
    cases answer with
    | true =>
      have hturn : actorStep config actor (actor.workerTurn true) =
          { actor with
            initializing := false
            ready := true
            initializationFailed := false
            dispatchEnabled := actor.dispatchRequested
            worker := .top 0 } := by
        simp [workerTurn, hworker, actorStep, initialized, hdirs]
      rw [hturn]
      refine ⟨⟨hdirs, ⟨by simp, by simp⟩, hserve⟩, ?_⟩
      simp only [turnsLeft, hworker, turnsToTake, if_neg hfresh]
      omega
    | false =>
      refine absurd hnext (hdrain (.inr ?_))
      simp [workerTurn, hworker, actorStep, initialized, hdirs]
  | top processed =>
    rw [hworker, if_neg (by simp)] at hserve
    have hmem : key ∈ actor.queue := by
      unfold Holds at hheld
      rw [hworker] at hheld
      exact hheld.resolve_right (by rintro ⟨⟩)
    by_cases hburst : processed ≥ config.maxCommandBurst
    · have hturn : actorStep config actor (actor.workerTurn answer) =
          { actor with worker := .pumping } := by
        simp [workerTurn, hworker, actorStep, workerTop, hburst]
      rw [hturn]
      refine ⟨⟨hdirs, ⟨by simp, by simp⟩, hserve⟩, ?_⟩
      simp [turnsLeft, hworker, turnsToTake, hburst]
    by_cases hstopping : actor.stopping = true
    · have hturn : actorStep config actor (actor.workerTurn answer) =
          { actor with worker := .finishing } := by
        simp [workerTurn, hworker, actorStep, workerTop, hburst, hstopping]
      rw [hturn]
      refine ⟨⟨hdirs, ⟨by simp, by simp⟩, .inl hstopping⟩, ?_⟩
      simp only [turnsLeft, hworker]
      omega
    have henabled := hserve.resolve_left hstopping
    obtain ⟨first, rest, hqueue⟩ := exists_cons_of_ne_nil (ne_nil_of_mem hmem)
    have hq := (hkept.sound.queued (hqueue ▸ mem_cons_self : first ∈ actor.queue)).1
    obtain ⟨request, hreq⟩ := (hkept.sound.view first).some_of_parties (by
      unfold parties held
      omega)
    change actor.requests first = some request at hreq
    have hturn : actorStep config actor (actor.workerTurn answer) =
        { actor with
          queue := rest
          currentCommandId := request.commandId
          worker := .validating first processed } := by
      simp [workerTurn, hworker, actorStep, workerTop, hburst, hstopping, henabled, hqueue, hreq]
    rw [hturn]
    refine ⟨⟨hdirs, ⟨by simp, by simp⟩, .inr henabled⟩, ?_⟩
    simp only [turnsLeft, hworker, hqueue, turnsToTake, hburst, if_false]
    by_cases hfirst : first = key
    · rw [if_pos hfirst]
      omega
    · rw [if_neg hfirst, idxOf_cons_ne _ hfirst]
      omega
  | validating taken processed =>
    obtain ⟨request, hreq⟩ := hsome taken (hworker ▸ rfl)
    rw [hworker, if_neg (by simp)] at hserve
    cases answer with
    | true =>
      have hturn : actorStep config actor (actor.workerTurn true) =
          { actor with
            worker := .executing taken processed
            executions := taken :: actor.executions } := by
        simp [workerTurn, hworker, actorStep, validated, hdirs, hreq]
      rw [hturn]
      refine ⟨⟨hdirs, ⟨by simp, by simp⟩, hserve⟩, ?_⟩
      simp only [turnsLeft, hworker, turnsToTake]
      split <;> omega
    | false =>
      have hturn : actorStep config actor (actor.workerTurn false) =
          { actor with worker := .completing taken processed .stale } := by
        simp [workerTurn, hworker, actorStep, validated, hdirs, hreq]
      rw [hturn]
      refine ⟨⟨hdirs, ⟨by simp, by simp⟩, hserve⟩, ?_⟩
      simp only [turnsLeft, hworker, turnsToTake]
      split <;> omega
  | executing taken processed =>
    obtain ⟨request, hreq⟩ := hsome taken (hworker ▸ rfl)
    rw [hworker, if_neg (by simp)] at hserve
    have hturn : actorStep config actor (actor.workerTurn answer) =
        { actor with
          worker := .completing taken processed (if answer then .executed else .executionFailed) } := by
      simp [workerTurn, hworker, actorStep, executed, hdirs, hreq]
    rw [hturn]
    refine ⟨⟨hdirs, ⟨by simp, by simp⟩, hserve⟩, ?_⟩
    simp only [turnsLeft, hworker, turnsToTake]
    split <;> omega
  | completing taken processed status =>
    rw [hworker, if_neg (by simp)] at hserve
    have hturn : actorStep config actor (actor.workerTurn answer) =
        { actor with currentCommandId := 0, worker := .top (processed + 1) }.requestCompleteLocked
          taken status := by
      simp [workerTurn, hworker, actorStep, completed]
    rw [hturn] at hnext ⊢
    obtain ⟨hstop, hwork, hqueue, hdirect, henable⟩ := serving_requestCompleteLocked
      { actor with currentCommandId := 0, worker := .top (processed + 1) } taken status
    have hmem : key ∈ actor.queue := by
      unfold Holds at hnext
      rw [hwork, hqueue] at hnext
      exact hnext.resolve_right (by rintro ⟨⟩)
    have hne : taken ≠ key := by
      rintro rfl
      have hstage : (actor.view taken).stage ≠ .none := by
        change actor.worker.stage taken ≠ .none
        rw [hworker]
        simp [ActorWorker.stage]
      have hzero := (hkept.sound.held_of_stage taken hstage).2
      have hpos : 0 < (actor.view taken).queued := count_pos_iff.mpr hmem
      omega
    refine ⟨⟨hdirect.trans hdirs, ?_, ?_⟩, ?_⟩
    · rw [hwork]
      exact ⟨by simp, by simp⟩
    · rw [hwork, if_neg (by simp), hstop, henable]
      exact hserve
    · simp only [turnsLeft, hwork, hqueue, hworker, turnsToTake, if_neg hne]
      split <;> omega
  | pumping =>
    rw [hworker, if_neg (by simp)] at hserve
    have hturn : actorStep config actor (actor.workerTurn answer) =
        { actor with worker := .top 0 } := by
      simp [workerTurn, hworker, actorStep, pumped, hdirs]
    rw [hturn]
    refine ⟨⟨hdirs, ⟨by simp, by simp⟩, hserve⟩, ?_⟩
    simp only [turnsLeft, hworker, turnsToTake, if_neg hfresh]
    omega

/-- **Progress.** Whatever its callbacks answer, the worker comes to each request that it holds. -/
lemma serving_run (hkept : actor.Kept config) (h : actor.Serving) (hheld : actor.Holds key)
    (answers : ℕ → Bool) :
    ∃ turns ≤ turnsLeft config actor key, ¬(workerRun config answers turns actor).Holds key := by
  generalize hbound : turnsLeft config actor key = bound
  induction bound using Nat.strongRecOn generalizing actor answers with
  | ind bound ih =>
    subst hbound
    by_cases hnext : (actorStep config actor (actor.workerTurn (answers 0))).Holds key
    · obtain ⟨hserving, hlt⟩ := serving_turn hkept h hheld (answers 0) hnext
      obtain ⟨turns, hle, hdone⟩ := ih _ hlt (hkept.step _) hserving hnext
        (fun turn => answers (turn + 1)) rfl
      exact ⟨turns + 1, by omega, hdone⟩
    refine ⟨1, ?_, hnext⟩
    unfold turnsLeft
    split
    · omega
    · split <;> omega
    · split <;> omega
    · split <;> omega
    · omega

/-! ## Main result -/

/-- The queue or the worker has the request, and nothing became of it yet. -/
def Pending (actor : MediaActor) (key : ℕ) : Prop :=
  actor.Holds key ∧ actor.outcomes key = [] ∧ actor.executions.count key ≤ 1

/-- One thing became of the request, and it was executed once if it was that. -/
def Settled (actor : MediaActor) (key : ℕ) : Prop :=
  ¬actor.Holds key ∧ ∃ status, actor.outcomes key = [status] ∧ status.isOutcome = true ∧
    (status = .accepted ↔ (actor.replacedBy key).isSome = true) ∧
      actor.executions.count key = if status.wasRun then 1 else 0

lemma ActorStage.runs_le (stage : ActorStage) : stage.runs ≤ 1 := by
  cases stage with
  | none | validating | executing => decide
  | completing status =>
    simp only [ActorStage.runs]
    split <;> decide

lemma pending_of_holds (h : actor.Sound) (hheld : actor.Holds key) : actor.Pending key := by
  have hin := (h.view key).entered
  have hexec := (h.view key).executed
  have hne := holds_iff.mp hheld
  have hempty : actor.outcomes key = [] := eq_nil_of_length_eq_zero (by
    change (actor.view key).outcomes.length = 0
    omega)
  refine ⟨hheld, hempty, ?_⟩
  have hruns := ActorStage.runs_le (actor.view key).stage
  change actor.executions.count key = (actor.outcomes key).countP _ + _ at hexec
  rw [hempty, countP_nil, Nat.zero_add] at hexec
  exact Nat.le_trans (Nat.le_of_eq hexec) hruns

lemma settled_of_not_holds (h : actor.Sound) (hended : actor.Ended) (hin : key ∈ actor.entries)
    (hheld : ¬actor.Holds key) : actor.Settled key := by
  have hcount : 0 < (actor.view key).entries := count_pos_iff.mpr hin
  have hview := (h.view key).entered
  have hexec := (h.view key).executed
  have hzero : (actor.view key).held = 0 := not_not.mp (mt holds_iff.mpr hheld)
  obtain ⟨status, hstat⟩ := length_eq_one_iff.mp (show (actor.outcomes key).length = 1 by
    change (actor.view key).outcomes.length = 1
    omega)
  have hnone := (held_eq_zero.mp hzero).2
  refine ⟨hheld, status, hstat, hended.outcome key status (by simp [hstat]), ?_, ?_⟩
  · rw [← hended.replaced key, hstat, mem_singleton]
    exact eq_comm
  · change actor.executions.count key = (actor.outcomes key).countP _ + _ at hexec
    rw [hexec, hstat, hnone, countP_singleton]
    rfl

lemma mem_entries_step (hkept : actor.Kept config) (step : ActorStep) (h : key ∈ actor.entries) :
    key ∈ (actorStep config actor step).entries := by
  have hchg : QueueChange config actor (actorStep config actor step) :=
    queueChange_step hkept.sound hkept.recorded hkept.lifecycle step
  cases hchg with
  | keep hlog | create _ _ hlog | number hlog | leave hlog | reject hlog | execute _ _ hlog
    | take _ _ _ _ _ hlog =>
    have hents : (actorStep config actor step).entries = actor.entries :=
      congrArg QueueLog.entries hlog
    exact hents ▸ h
  | push other _ _ _ _ _ _ hlog | replace _ other _ _ _ _ _ _ _ _ hlog =>
    have hents : (actorStep config actor step).entries = other :: actor.entries :=
      congrArg QueueLog.entries hlog
    exact hents ▸ .tail _ h

end MediaActor

variable {config : MediaActorConfig} {actor : MediaActor} {key : ℕ}

lemma ended_initial : initial.Ended :=
  ⟨rfl, nofun, fun _ => ⟨nofun, fun hsome => absurd hsome nofun⟩⟩

lemma ActorReachable.ended (h : ActorReachable config actor) : actor.Ended := by
  have hboth : actor.Kept config ∧ actor.Ended :=
    Runs.Reachable.invariant (P := fun actor => actor.Kept config ∧ actor.Ended)
      ⟨kept_initial, ended_initial⟩
      (fun _ step ⟨hkept, hended⟩ _ => ⟨hkept.step step, hended.step hkept.sound step⟩) h
  exact hboth.2

lemma ActorReachable.settled (h : ActorReachable config actor) (hin : key ∈ actor.entries) :
    actor.Pending key ∨ actor.Settled key := by
  by_cases hheld : actor.Holds key
  · exact .inl (pending_of_holds h.kept.sound hheld)
  · exact .inr (settled_of_not_holds h.kept.sound h.ended hin hheld)

lemma ActorReachable.workerRun (h : ActorReachable config actor) (hin : key ∈ actor.entries)
    (answers : ℕ → Bool) (turns : ℕ) :
    ActorReachable config (workerRun config answers turns actor) ∧
      key ∈ (workerRun config answers turns actor).entries := by
  induction turns generalizing actor answers with
  | zero => exact ⟨h, hin⟩
  | succ turns ih =>
    exact ih (h.step _ trivial) (mem_entries_step h.kept _ hin) fun turn => answers (turn + 1)

lemma closed_run (hkept : actor.Kept config) (hstop : actor.stopping)
    (labels : List ActorStep) (hlabs : ActorStep.start ∉ labels) :
    actor.Closed (Runs.run (actorStep config) actor labels) := by
  have hgeneral : ∀ labels last, MediaActor.Kept config last → actor.Closed last →
      ActorStep.start ∉ labels → actor.Closed (Runs.run (actorStep config) last labels) := by
    intro labels
    induction labels with
    | nil => exact fun _ _ hshut _ => hshut
    | cons label labels ih =>
      intro last hlast hshut hnot
      rw [mem_cons, not_or] at hnot
      exact ih _ (hlast.step label) (hshut.step hlast label (Ne.symm hnot.1)) hnot.2
  exact hgeneral labels actor hkept (MediaActor.Closed.refl hstop) hlabs

/-- **The actor's commands are executed one after the other.** In every run a request that entered the
queue is pending or has exactly one outcome, and it is executed at most once; while the worker serves the
queue or is being stopped it settles each of them after finitely many of its turns, whatever the callbacks
answer; what was executed stands in the order in which it entered the queue, with increasing command
identifiers; a request that was replaced came directly before the one that took its place, which is of the
same kind, producer, token and generation; a stop closes the queue until the next start; and a worker that
is gone leaves neither a request in the queue nor a call that waits for one. -/
theorem actor_serialisation (h : ActorReachable config actor) :
    (∀ key ∈ actor.entries, actor.Pending key ∨ actor.Settled key) ∧
      (actor.Serving → ∀ key ∈ actor.entries, ∀ answers, ∃ turns,
        (MediaActor.workerRun config answers turns actor).Settled key) ∧
      (actor.executions.Sublist actor.entries ∧
        (actor.executions.Pairwise fun newer older =>
          actor.commandIds older < actor.commandIds newer) ∧
        ∀ key request, actor.requests key = some request →
          actor.commandIds key = request.commandId) ∧
      (∀ tail key, actor.replacedBy tail = some key → [key, tail] <:+: actor.entries ∧
        ∃ queued command, actor.commands tail = some queued ∧ actor.commands key = some command ∧
          queued.kind = command.kind ∧ queued.producer = command.producer ∧
          queued.sessionToken = command.sessionToken ∧ queued.generation = command.generation) ∧
      (actor.stopping = true → ∀ labels, ActorStep.start ∉ labels →
        actor.Closed (Runs.run (actorStep config) actor labels)) ∧
      (actor.worker = .exited → actor.queue = [] ∧ (∀ key ∈ actor.entries, actor.Settled key) ∧
        ∀ key, (actor.calls key).isWaiting = true → ∃ request,
          actor.requests key = some request ∧ request.completed = true) := by
  have hkept := h.kept
  refine ⟨fun key hentered => h.settled hentered, fun hserving key hentered answers => ?_,
    ⟨?_, ?_, fun key request hrequest => (hkept.recorded key request hrequest).2⟩,
    fun tail key hreplaced => ?_, closed_run hkept, fun hworker => ?_⟩
  · by_cases hheld : actor.Holds key
    · obtain ⟨turns, -, hdone⟩ := MediaActor.serving_run hkept hserving hheld answers
      obtain ⟨hreachable, hmem⟩ := h.workerRun hentered answers turns
      exact ⟨turns, MediaActor.settled_of_not_holds hreachable.kept.sound hreachable.ended hmem hdone⟩
    · exact ⟨0, MediaActor.settled_of_not_holds hkept.sound h.ended hentered hheld⟩
  · refine List.Sublist.trans ?_ hkept.orderly.line
    exact (List.sublist_append_right _ _).trans (List.sublist_append_right _ _)
  · refine hkept.orderly.numbered.sublist (List.Sublist.trans ?_ hkept.orderly.line)
    exact (List.sublist_append_right _ _).trans (List.sublist_append_right _ _)
  · obtain ⟨hbehind, queued, command, hqueued, hcommand, hreplace⟩ :=
      hkept.orderly.replaced tail key hreplaced
    exact ⟨hbehind, queued, command, hqueued, hcommand, of_decide_eq_true hreplace⟩
  refine ⟨hkept.lifecycle.drained (.inr hworker), fun key hentered => ?_, fun key hwaiting => ?_⟩
  · exact MediaActor.settled_of_not_holds hkept.sound h.ended hentered
      (hkept.not_holds key (.inr hworker))
  have hzero : (actor.view key).held = 0 :=
    not_not.mp (mt MediaActor.holds_iff.mpr (hkept.not_holds key (.inr hworker)))
  have hparties : (actor.view key).parties ≠ 0 := by
    unfold RequestView.parties
    change (actor.view key).call.isWaiting = true at hwaiting
    rw [if_pos hwaiting]
    omega
  obtain ⟨request, hrequest⟩ := (hkept.sound.view key).some_of_parties hparties
  exact ⟨request, hrequest, (hkept.sound.view key).settled request hrequest hzero hwaiting⟩

/-- A volume is replaced before the worker comes to it, a mute is executed, and a play is shut down. -/
def mixedRun : List ActorStep :=
  [.start, .startThread true, .startDone,
    .create (carryingCommand .setVolume) false false, .submit 0,
    .create (carryingCommand .setVolume) false false, .submit 1,
    .initialized true, .workerTop, .validated true, .executed true, .completed,
    .create (carryingCommand .play) true true, .submit 2, .stop, .workerTop, .finish, .finalized]

/-- The state behind that run. -/
def mixedActor : MediaActor := Runs.run (actorStep smallActorConfig) .initial mixedRun

/-- The three requests are settled, and the call that waits has an answer. -/
theorem actor_serialisation_mixed :
    (∀ key ∈ [0, 1, 2], mixedActor.Settled key) ∧ [1, 0] <:+: mixedActor.entries ∧
      ∃ request, mixedActor.requests 2 = some request ∧ request.completed = true := by
  have hreachable : ActorReachable smallActorConfig mixedActor := Runs.Reachable.start.run mixedRun
  obtain ⟨-, -, -, hreplaced, -, hexited⟩ := actor_serialisation hreachable
  obtain ⟨-, hsettled, hwaiting⟩ := hexited (by decide)
  refine ⟨fun key hkey => hsettled key ?_, (hreplaced 0 1 (by decide)).1, hwaiting 2 (by decide)⟩
  have hentries : mixedActor.entries = [2, 1, 0] := by decide
  revert key
  decide

end NXCast
