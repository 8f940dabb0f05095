import NXCast.Player.MediaActor

/-!
# The actor's life cycle

What the steps that start and stop the actor keep of its threads: the worker is there while the actor
runs, it comes to its end only when the actor is being stopped, and it leaves an empty queue, which
stays empty until the next start.
-/

namespace NXCast

open MediaActor

namespace MediaActor

/-- What the threads that start and stop the actor keep. -/
structure Lifecycle (actor : MediaActor) : Prop where
  idle : actor.running = false → actor.worker = .absent ∨ actor.worker = .exited
  creating : actor.starting = .creating → actor.worker = .absent ∧ actor.running = true
  finishing : actor.worker = .finishing ∨ actor.worker = .finalizing → actor.stopping = true
  drained : actor.worker = .finalizing ∨ actor.worker = .exited → actor.queue = []
  exited : actor.worker = .exited → actor.running = false

variable {config : MediaActorConfig} {actor : MediaActor}

/-- A step that leaves the threads that start and stop the actor where they are. -/
lemma Lifecycle.of_same {next : MediaActor} (h : actor.Lifecycle)
    (hrun : next.running = actor.running) (hwork : next.worker = actor.worker)
    (hstart : next.starting = actor.starting) (hstop : next.stopping = actor.stopping)
    (hqueue : actor.queue = [] → actor.running = false ∨ actor.stopping → next.queue = []) :
    next.Lifecycle := by
  refine ⟨?_, ?_, ?_, fun hdrain => ?_, ?_⟩
  · rw [hrun, hwork]
    exact h.idle
  · rw [hstart, hwork, hrun]
    exact h.creating
  · rw [hwork, hstop]
    exact h.finishing
  · rw [hwork] at hdrain
    refine hqueue (h.drained hdrain) ?_
    rcases hdrain with hfinalizing | hexit
    · exact .inr (h.finishing (.inr hfinalizing))
    · exact .inl (h.exited hexit)
  · rw [hwork, hrun]
    exact h.exited

lemma requestCompleteLocked_same (actor : MediaActor) (key : ℕ) (status : MediaActorSubmitStatus) :
    (actor.requestCompleteLocked key status).running = actor.running ∧
      (actor.requestCompleteLocked key status).worker = actor.worker ∧
      (actor.requestCompleteLocked key status).starting = actor.starting ∧
      (actor.requestCompleteLocked key status).stopping = actor.stopping ∧
      (actor.requestCompleteLocked key status).queue = actor.queue := by
  unfold requestCompleteLocked dropped
  split
  · exact ⟨rfl, rfl, rfl, rfl, rfl⟩
  · split <;> exact ⟨rfl, rfl, rfl, rfl, rfl⟩

lemma rejectLoop_same (queue : List ℕ) (actor : MediaActor) (hqueue : actor.queue = queue) :
    (rejectLoop queue actor).running = actor.running ∧
      (rejectLoop queue actor).worker = actor.worker ∧
      (rejectLoop queue actor).starting = actor.starting ∧
      (rejectLoop queue actor).stopping = actor.stopping ∧ (rejectLoop queue actor).queue = [] := by
  induction queue generalizing actor with
  | nil => exact ⟨rfl, rfl, rfl, rfl, hqueue⟩
  | cons key queue ih =>
    obtain ⟨hrun, hwork, hstart, hstop, hrest⟩ :=
      requestCompleteLocked_same { actor with queue } key .shuttingDown
    obtain ⟨ihrunning, ihworker, ihstarting, ihstopping, ihqueue⟩ := ih _ hrest
    exact ⟨ihrunning.trans hrun, ihworker.trans hwork, ihstarting.trans hstart,
      ihstopping.trans hstop, ihqueue⟩

lemma replaceTail_same (actor : MediaActor) (tail key : ℕ) (request : MediaActorRequest) :
    (actor.replaceTail tail key request).running = actor.running ∧
      (actor.replaceTail tail key request).worker = actor.worker ∧
      (actor.replaceTail tail key request).starting = actor.starting ∧
      (actor.replaceTail tail key request).stopping = actor.stopping := by
  obtain ⟨hrun, hwork, hstart, hstop, -⟩ := requestCompleteLocked_same { (actor.setRequest key (some
        { request with commandId := actor.lastCommandId + 1, references := 1 })).setCall key
          (.returned .accepted) with
      lastCommandId := actor.lastCommandId + 1
      queue := actor.queue.dropLast ++ [key]
      entries := key :: actor.entries
      replacedBy := Function.update actor.replacedBy tail (some key)
      commandIds := Function.update actor.commandIds key (actor.lastCommandId + 1) } tail .accepted
  exact ⟨hrun, hwork, hstart, hstop⟩

lemma push_same (config : MediaActorConfig) (actor : MediaActor) (key : ℕ)
    (request : MediaActorRequest) (wait forever : Bool) :
    (actor.push config key request wait forever).running = actor.running ∧
      (actor.push config key request wait forever).worker = actor.worker ∧
      (actor.push config key request wait forever).starting = actor.starting ∧
      (actor.push config key request wait forever).stopping = actor.stopping := by
  unfold push
  split <;> exact ⟨rfl, rfl, rfl, rfl⟩

/-- A submission concerns no thread, and nothing enters the queue of an actor that does not run or is
being stopped. -/
lemma submit_same (config : MediaActorConfig) (actor : MediaActor) (key : ℕ) :
    ((actor.submit config key).running = actor.running ∧
      (actor.submit config key).worker = actor.worker ∧
      (actor.submit config key).starting = actor.starting ∧
      (actor.submit config key).stopping = actor.stopping) ∧
      (actor.running = false ∨ actor.stopping → (actor.submit config key).queue = actor.queue) := by
  unfold submit
  split
  · split
    · exact ⟨⟨rfl, rfl, rfl, rfl⟩, fun _ => rfl⟩
    split
    · exact ⟨⟨rfl, rfl, rfl, rfl⟩, fun _ => rfl⟩
    rename_i hrun
    split
    · exact ⟨⟨rfl, rfl, rfl, rfl⟩, fun _ => rfl⟩
    rename_i hstop
    refine ⟨?_, fun hshut => absurd hshut ?_⟩
    · split
      · split
        · exact push_same config actor key _ _ _
        split
        · exact ⟨rfl, rfl, rfl, rfl⟩
        split
        · exact replaceTail_same actor _ key _
        · exact push_same config actor key _ _ _
      · exact push_same config actor key _ _ _
    · rintro (h | h)
      · exact hrun h
      · exact hstop (.inl h)
  · exact ⟨⟨rfl, rfl, rfl, rfl⟩, fun _ => rfl⟩

lemma dropped_same (actor : MediaActor) (key references : ℕ) :
    (actor.dropped key references).running = actor.running ∧
      (actor.dropped key references).worker = actor.worker ∧
      (actor.dropped key references).starting = actor.starting ∧
      (actor.dropped key references).stopping = actor.stopping ∧
      (actor.dropped key references).queue = actor.queue := by
  unfold dropped
  split <;> exact ⟨rfl, rfl, rfl, rfl, rfl⟩

lemma wake_same (actor : MediaActor) (key : ℕ) (expired : Bool) :
    (actor.wake key expired).running = actor.running ∧
      (actor.wake key expired).worker = actor.worker ∧
      (actor.wake key expired).starting = actor.starting ∧
      (actor.wake key expired).stopping = actor.stopping ∧
      (actor.wake key expired).queue = actor.queue := by
  unfold wake
  split
  · split
    · exact ⟨rfl, rfl, rfl, rfl, rfl⟩
    split
    · exact dropped_same _ _ _
    split
    · exact dropped_same _ _ _
    · exact ⟨rfl, rfl, rfl, rfl, rfl⟩
  · exact ⟨rfl, rfl, rfl, rfl, rfl⟩

lemma freeDying_same (actor : MediaActor) (key : ℕ) :
    (actor.freeDying key).running = actor.running ∧
      (actor.freeDying key).worker = actor.worker ∧
      (actor.freeDying key).starting = actor.starting ∧
      (actor.freeDying key).stopping = actor.stopping ∧
      (actor.freeDying key).queue = actor.queue := by
  unfold freeDying requestFree
  split
  · split <;> exact ⟨rfl, rfl, rfl, rfl, rfl⟩
  · exact ⟨rfl, rfl, rfl, rfl, rfl⟩

variable (h : actor.Lifecycle)

include h

lemma Lifecycle.of_worker {next : MediaActor} (hbusy : actor.worker ≠ .absent ∧ actor.worker ≠ .exited)
    (hrunning : next.running = actor.running) (hstart : next.starting = actor.starting)
    (hfinishing : next.worker = .finishing ∨ next.worker = .finalizing → next.stopping)
    (hdrain : next.worker = .finalizing → next.queue = []) (hexit : next.worker ≠ .exited) :
    next.Lifecycle := by
  have hrun : actor.running := by
    by_contra hnot
    rcases h.idle (Bool.not_eq_true _ ▸ hnot) with hwork | hwork
    · exact hbusy.1 hwork
    · exact hbusy.2 hwork
  refine ⟨fun hnot => ?_, fun hcreating => ?_, hfinishing, fun hwork => ?_, fun hwork => ?_⟩
  · rw [hrunning, hrun] at hnot
    cases hnot
  · exact absurd (h.creating (hstart ▸ hcreating)).1 hbusy.1
  · exact hdrain (hwork.resolve_right hexit)
  · exact absurd hwork hexit

lemma Lifecycle.workerTop : (actor.workerTop config).Lifecycle := by
  unfold MediaActor.workerTop
  split
  · rename_i processed hwork
    have hbusy : actor.worker ≠ .absent ∧ actor.worker ≠ .exited := by
      rw [hwork]
      exact ⟨nofun, nofun⟩
    have hpump : { actor with worker := .pumping }.Lifecycle :=
      h.of_worker hbusy rfl rfl (by simp) (by simp) (by simp)
    split
    · exact hpump
    split
    · rename_i hstop
      exact h.of_worker hbusy rfl rfl (fun _ => hstop) (by simp) (by simp)
    split
    · exact hpump
    split
    · exact hpump
    split
    · exact h.of_same rfl rfl rfl rfl fun hempty _ => hempty
    · exact h.of_worker hbusy rfl rfl (by simp) (by simp) (by simp)
  · exact h

lemma Lifecycle.validated (valid : Bool) : (actor.validated valid).Lifecycle := by
  unfold MediaActor.validated
  split
  · rename_i key processed hwork
    have hbusy : actor.worker ≠ .absent ∧ actor.worker ≠ .exited := by
      rw [hwork]
      exact ⟨nofun, nofun⟩
    split
    · exact h
    split
    · exact h.of_same rfl rfl rfl rfl fun hempty _ => hempty
    · split
      all_goals exact h.of_worker hbusy rfl rfl (by simp) (by simp) (by simp)
  · exact h

lemma Lifecycle.executed (ok : Bool) : (actor.executed ok).Lifecycle := by
  unfold MediaActor.executed
  split
  · rename_i key processed hwork
    have hbusy : actor.worker ≠ .absent ∧ actor.worker ≠ .exited := by
      rw [hwork]
      exact ⟨nofun, nofun⟩
    split
    · exact h
    split
    · exact h.of_same rfl rfl rfl rfl fun hempty _ => hempty
    · exact h.of_worker hbusy rfl rfl (by simp) (by simp) (by simp)
  · exact h

lemma Lifecycle.completed : actor.completed.Lifecycle := by
  unfold MediaActor.completed
  split
  · rename_i key processed status hwork
    have hbusy : actor.worker ≠ .absent ∧ actor.worker ≠ .exited := by
      rw [hwork]
      exact ⟨nofun, nofun⟩
    have hnext : { actor with currentCommandId := 0, worker := .top (processed + 1) }.Lifecycle :=
      h.of_worker hbusy rfl rfl (by simp) (by simp) (by simp)
    obtain ⟨hrun, hwork', hstart, hstop, hqueue⟩ := requestCompleteLocked_same
      { actor with currentCommandId := 0, worker := .top (processed + 1) } key status
    exact hnext.of_same hrun hwork' hstart hstop fun hempty _ => hqueue.trans hempty
  · exact h

lemma Lifecycle.initialized (ok : Bool) : (actor.initialized ok).Lifecycle := by
  unfold MediaActor.initialized
  split
  · exact h
  rename_i hwork
  rw [not_or, not_not] at hwork
  have hbusy : actor.worker ≠ .absent ∧ actor.worker ≠ .exited := by
    rw [hwork.1]
    exact ⟨nofun, nofun⟩
  split
  · exact h.of_worker hbusy rfl rfl (by simp) (by simp) (by simp)
  obtain ⟨hrun, -, hstart, -, hqueue⟩ := rejectLoop_same actor.queue
    { actor with
      initializing := false
      ready := ok
      initializationFailed := !ok
      dispatchEnabled := ok && actor.dispatchRequested
      running := false
      accepting := false } rfl
  refine ⟨fun _ => .inr rfl, fun hcreating => ?_, by simp, fun _ => hqueue, fun _ => hrun⟩
  exact absurd (h.creating (hstart.symm.trans hcreating)).1 hbusy.1

lemma Lifecycle.finish : actor.finish.Lifecycle := by
  unfold MediaActor.finish
  split_ifs with hwork
  · exact h
  rw [not_not] at hwork
  have hbusy : actor.worker ≠ .absent ∧ actor.worker ≠ .exited := by
    rw [hwork]
    exact ⟨nofun, nofun⟩
  obtain ⟨hrun, -, hstart, hstop, hqueue⟩ := rejectLoop_same actor.queue actor rfl
  exact h.of_worker hbusy hrun hstart
    (fun _ => hstop.trans (h.finishing (.inl hwork))) (fun _ => hqueue) (by simp)

lemma Lifecycle.finalized : actor.finalized.Lifecycle := by
  unfold MediaActor.finalized
  split_ifs with hwork
  · exact h
  rw [not_or, not_not] at hwork
  refine ⟨fun _ => .inr rfl, fun hcreating => ?_, by simp,
    fun _ => h.drained (.inl hwork.1), fun _ => rfl⟩
  have habsent := (h.creating hcreating).1
  rw [hwork.1] at habsent
  cases habsent

lemma Lifecycle.start : (actor.start config).Lifecycle := by
  unfold MediaActor.start
  split
  · exact h
  split
  · exact h
  split
  · exact h
  · exact ⟨by simp, fun _ => ⟨rfl, rfl⟩, by simp, by simp, by simp⟩

lemma Lifecycle.startThread (created : Bool) : (actor.startThread created).Lifecycle := by
  unfold MediaActor.startThread
  split
  · exact h
  rename_i hstart
  rw [not_not] at hstart
  obtain ⟨habsent, hrun⟩ := h.creating hstart
  split
  · exact ⟨by simp [hrun], by simp, by simp, by simp, by simp⟩
  · exact ⟨fun _ => .inl habsent, by simp, by simp [habsent], by simp [habsent], by simp [habsent]⟩

lemma Lifecycle.startDone : actor.startDone.Lifecycle := by
  unfold MediaActor.startDone
  split
  · exact h
  · exact ⟨h.idle, by simp, h.finishing, h.drained, h.exited⟩

lemma Lifecycle.stop : actor.stop.Lifecycle := by
  unfold MediaActor.stop
  split
  · exact h
  · exact ⟨h.idle, h.creating, fun _ => rfl, h.drained, h.exited⟩

lemma Lifecycle.stopSelf : actor.stopSelf.Lifecycle := by
  unfold MediaActor.stopSelf
  split
  · exact ⟨h.idle, h.creating, fun _ => rfl, h.drained, h.exited⟩
  · exact h

lemma Lifecycle.join : actor.join.Lifecycle := by
  unfold MediaActor.join
  split_ifs with hjoin
  · refine ⟨fun _ => .inr hjoin.2, fun hcreating => ?_, h.finishing, h.drained, fun _ => rfl⟩
    have habsent := (h.creating hcreating).1
    rw [hjoin.2] at habsent
    cases habsent
  · exact h

lemma Lifecycle.destroy : actor.destroy.Lifecycle := by
  unfold MediaActor.destroy
  split
  · exact h
  obtain ⟨hrun, hwork, hstart, hstop, hqueue⟩ :=
    rejectLoop_same actor.queue actor rfl
  exact h.of_same hrun hwork hstart hstop fun _ _ => hqueue

/-- **Every step keeps the life cycle.** -/
lemma Lifecycle.step (step : ActorStep) : (actorStep config actor step).Lifecycle := by
  cases step with
  | create command wait forever =>
    unfold actorStep create
    dsimp only
    split
    · exact h.of_same rfl rfl rfl rfl fun hqueue _ => hqueue
    · exact h
  | submit key =>
    obtain ⟨⟨hrun, hwork, hstart, hstop⟩, hqueue⟩ := submit_same config actor key
    exact h.of_same hrun hwork hstart hstop fun hempty hshut => (hqueue hshut).trans hempty
  | wake key expired =>
    obtain ⟨hrun, hwork, hstart, hstop, hqueue⟩ := wake_same actor key expired
    exact h.of_same hrun hwork hstart hstop fun hempty _ => hqueue.trans hempty
  | free key =>
    obtain ⟨hrun, hwork, hstart, hstop, hqueue⟩ := freeDying_same actor key
    exact h.of_same hrun hwork hstart hstop fun hempty _ => hqueue.trans hempty
  | directBegin command =>
    unfold actorStep directBegin
    dsimp only
    split
    · exact h
    split
    · exact h
    · exact h.of_same rfl rfl rfl rfl fun hempty _ => hempty
  | directValidated | directDone | activate =>
    simp only [actorStep, directValidated, directDone, activate]
    split <;> exact h.of_same rfl rfl rfl rfl fun hempty _ => hempty
  | start => exact h.start
  | startThread created => exact h.startThread created
  | startDone => exact h.startDone
  | quiesce => exact h.of_same rfl rfl rfl rfl fun hempty _ => hempty
  | stop => exact h.stop
  | stopSelf => exact h.stopSelf
  | join => exact h.join
  | destroy => exact h.destroy
  | initialized ok => exact h.initialized ok
  | workerTop => exact h.workerTop
  | validated valid => exact h.validated valid
  | executed ok => exact h.executed ok
  | completed => exact h.completed
  | pumped =>
    unfold actorStep pumped
    dsimp only
    split_ifs with hwork
    · exact h
    rw [not_or, not_not] at hwork
    refine h.of_worker ?_ rfl rfl (by simp) (by simp) (by simp)
    rw [hwork.1]
    exact ⟨nofun, nofun⟩
  | finish => exact h.finish
  | finalized => exact h.finalized

end MediaActor

end NXCast
