import NXCast.Player.ActorOutcomes

/-!
# Starting and stopping the actor

A start that is not in progress, a stop that has joined and a worker that came to its end leave an empty
queue and settled requests (`actor_start_stop`), in the runs in which no thread creation fails over a queue
that holds requests already.  A worker that came to its end has to be joined by a stop before the next
start.

`actor_start_stop_fails` are the runs that go wrong otherwise: the path of a failed thread creation leaves
the requests that were accepted since the start in the queue, and a stop between the creation of the thread
and its registration finds no thread to join.
-/

namespace NXCast

open MediaActor Runs.Reachable

/-- The worker's thread runs. -/
def ActorWorker.alive : ActorWorker → Bool
  | absent | exited => false
  | _ => true

/-- There is or was a thread since the last start. -/
def ActorWorker.present : ActorWorker → Bool
  | absent => false
  | _ => true

/-- What starting and stopping is about. -/
structure ActorThreads where
  running : Bool
  alive : Bool
  present : Bool
  starting : ActorStart
  threadStarted : Bool
  joinInProgress : Bool

/-- What the calls that start and stop keep. -/
structure ActorThreads.Joined (threads : ActorThreads) : Prop where
  running : threads.running = true → threads.starting = .creating ∨ threads.alive = true
  registered : threads.alive = true → threads.threadStarted = true ∨ threads.starting = .created
  started : threads.threadStarted = true → threads.present = true ∧ threads.starting = .idle
  joining : threads.joinInProgress = true → threads.threadStarted = true
  created : threads.starting = .created → threads.present = true

namespace MediaActor

variable {config : MediaActorConfig} {actor next : MediaActor}

/-- What starting and stopping reads of an actor. -/
def threads (actor : MediaActor) : ActorThreads :=
  ⟨actor.running, actor.worker.alive, actor.worker.present, actor.starting, actor.threadStarted,
    actor.joinInProgress⟩

lemma threads_dropped (actor : MediaActor) (key references : ℕ) :
    (actor.dropped key references).threads = actor.threads := by
  unfold dropped
  split <;> rfl

lemma threads_requestCompleteLocked (actor : MediaActor) (key : ℕ) (status : MediaActorSubmitStatus) :
    (actor.requestCompleteLocked key status).threads = actor.threads := by
  unfold requestCompleteLocked
  split
  · rfl
  · exact threads_dropped _ key _

lemma threads_rejectLoop (queue : List ℕ) (actor : MediaActor) :
    (rejectLoop queue actor).threads = actor.threads := by
  induction queue generalizing actor with
  | nil => rfl
  | cons key queue ih => exact (ih _).trans (threads_requestCompleteLocked _ key .shuttingDown)

lemma threads_push (actor : MediaActor) (key : ℕ) (request : MediaActorRequest) (wait forever : Bool) :
    (actor.push config key request wait forever).threads = actor.threads := by
  unfold push
  split <;> rfl

lemma threads_submit (actor : MediaActor) (key : ℕ) :
    (actor.submit config key).threads = actor.threads := by
  unfold submit
  split
  · split
    · rfl
    split_ifs
    · rfl
    · rfl
    · split
      · exact threads_push actor key _ _ _
      split
      · rfl
      split_ifs
      · exact threads_requestCompleteLocked _ _ _
      · exact threads_push actor key _ _ _
    · exact threads_push actor key _ _ _
  · rfl

lemma threads_wake (actor : MediaActor) (key : ℕ) (expired : Bool) :
    (actor.wake key expired).threads = actor.threads := by
  unfold wake
  split
  · split
    · rfl
    split_ifs
    · exact threads_dropped _ _ _
    · exact threads_dropped _ _ _
    · rfl
  · rfl

lemma threads_freeDying (actor : MediaActor) (key : ℕ) :
    (actor.freeDying key).threads = actor.threads := by
  unfold freeDying requestFree
  split
  · split <;> rfl
  · rfl

lemma threads_goOn (halive : actor.worker.alive) (hnext : next.worker.alive)
    (hrun : next.running = actor.running) (hstart : next.starting = actor.starting)
    (hstarted : next.threadStarted = actor.threadStarted)
    (hjoin : next.joinInProgress = actor.joinInProgress) : next.threads = actor.threads := by
  have hpresent : ∀ {worker : ActorWorker}, worker.alive → worker.present := by
    intro worker h
    cases worker <;> first | rfl | cases h
  unfold threads
  rw [halive, hnext, hpresent halive, hpresent hnext, hrun, hstart, hstarted, hjoin]

lemma threads_workerTop (actor : MediaActor) : (actor.workerTop config).threads = actor.threads := by
  unfold workerTop
  split
  · rename_i processed hwork
    have halive : actor.worker.alive := by
      rw [hwork]
      rfl
    have hgo : ∀ {worker : ActorWorker}, worker.alive → { actor with worker }.threads = actor.threads :=
      fun hnext => threads_goOn halive hnext rfl rfl rfl rfl
    split
    · exact hgo rfl
    split
    · exact hgo rfl
    split
    · exact hgo rfl
    split
    · exact hgo rfl
    split
    · rfl
    · exact threads_goOn halive rfl rfl rfl rfl rfl
  · rfl

lemma threads_validated (actor : MediaActor) (valid : Bool) :
    (actor.validated valid).threads = actor.threads := by
  unfold validated
  split
  · rename_i key processed hwork
    have halive : actor.worker.alive := by
      rw [hwork]
      rfl
    split
    · rfl
    split
    · rfl
    · split <;> exact threads_goOn halive rfl rfl rfl rfl rfl
  · rfl

lemma threads_executed (actor : MediaActor) (ok : Bool) :
    (actor.executed ok).threads = actor.threads := by
  unfold executed
  split
  · rename_i key processed hwork
    have halive : actor.worker.alive := by
      rw [hwork]
      rfl
    split
    · rfl
    split
    · rfl
    · exact threads_goOn halive rfl rfl rfl rfl rfl
  · rfl

lemma threads_completed (actor : MediaActor) : actor.completed.threads = actor.threads := by
  unfold completed
  split
  · rename_i key processed status hwork
    have halive : actor.worker.alive := by
      rw [hwork]
      rfl
    exact (threads_requestCompleteLocked _ key status).trans (threads_goOn halive rfl rfl rfl rfl rfl)
  · rfl

lemma threads_pumped (actor : MediaActor) : actor.pumped.threads = actor.threads := by
  unfold pumped
  split_ifs with hwork
  · rfl
  rw [not_or, not_not] at hwork
  refine threads_goOn ?_ rfl rfl rfl rfl rfl
  rw [hwork.1]
  rfl

lemma threads_finish (actor : MediaActor) : actor.finish.threads = actor.threads := by
  unfold finish
  split_ifs with hwork
  · rfl
  rw [not_not] at hwork
  have hreject := threads_rejectLoop actor.queue actor
  rw [← hreject]
  refine threads_goOn ?_ rfl rfl rfl rfl rfl
  rw [(rejectLoop_same actor.queue actor rfl).2.1, hwork]
  rfl

/-! ## Steps -/

section

variable (h : actor.threads.Joined)

include h

lemma joined_start : (actor.start config).threads.Joined := by
  unfold start
  split_ifs with hidle hrun hthr
  · exact h
  · exact h
  · exact h
  rw [not_or, Bool.not_eq_true] at hthr
  refine ⟨fun _ => .inl rfl, nofun, fun hstart => ?_, fun hjoin => ?_, nofun⟩
  · exact nomatch hthr.1.symm.trans hstart
  · exact h.joining hjoin

lemma joined_startThread (hlife : actor.Lifecycle) (created : Bool) :
    (actor.startThread created).threads.Joined := by
  unfold startThread
  split_ifs with hstart hnew
  · exact h
  · rw [not_not] at hstart
    refine ⟨fun _ => .inr rfl, fun _ => .inr rfl, fun hstarted => ?_, h.joining, fun _ => rfl⟩
    exact nomatch hstart.symm.trans (h.started hstarted).2
  rw [not_not] at hstart
  have habsent := (hlife.creating hstart).1
  refine ⟨nofun, fun halive => ?_, fun hstarted => ?_, h.joining, nofun⟩
  · have hnot : actor.worker.alive = false := by
      rw [habsent]
      rfl
    exact nomatch hnot.symm.trans halive
  · exact nomatch hstart.symm.trans (h.started hstarted).2

lemma joined_startDone : actor.startDone.threads.Joined := by
  unfold startDone
  split_ifs with hstart
  · exact h
  rw [not_not] at hstart
  refine ⟨fun hrun => ?_, fun _ => .inl rfl, fun _ => ⟨h.created hstart, rfl⟩, fun _ => rfl, nofun⟩
  rcases h.running hrun with hcreating | halive
  · exact nomatch hstart.symm.trans hcreating
  · exact .inr halive

lemma joined_stop : actor.stop.threads.Joined := by
  unfold stop
  split_ifs with hreturn
  · exact h
  · rw [not_or, Bool.not_eq_false] at hreturn
    exact ⟨h.running, h.registered, h.started, fun _ => hreturn.2, h.created⟩

lemma joined_join : actor.join.threads.Joined := by
  unfold join
  split_ifs with hjoin
  · refine ⟨nofun, fun halive => ?_, nofun, nofun, h.created⟩
    have hnot : actor.worker.alive = false := by
      rw [hjoin.2]
      rfl
    exact nomatch hnot.symm.trans halive
  · exact h

lemma joined_ended (hrun : next.running = false)
    (hwork : next.worker = .exited) (hstarting : next.starting = actor.starting)
    (hstart : next.threadStarted = actor.threadStarted)
    (hjoin : next.joinInProgress = actor.joinInProgress) : next.threads.Joined := by
  have hpresent : next.worker.present := by
    rw [hwork]
    rfl
  refine ⟨fun hnot => (nomatch hrun.symm.trans hnot), fun halive => ?_, fun hthr => ⟨hpresent, ?_⟩,
    fun hjoining => ?_, fun _ => hpresent⟩
  · change next.worker.alive = true at halive
    rw [hwork] at halive
    cases halive
  · exact hstarting.trans (h.started (hstart.symm.trans hthr)).2
  · exact hstart.trans (h.joining (hjoin.symm.trans hjoining))

lemma joined_initialized (ok : Bool) : (actor.initialized ok).threads.Joined := by
  unfold initialized
  split
  · exact h
  rename_i hwork
  rw [not_or, not_not] at hwork
  have halive : actor.worker.alive := by
    rw [hwork.1]
    rfl
  split
  · have hsame : ∀ {next : MediaActor}, next.threads = actor.threads → next.threads.Joined :=
      fun heq => heq ▸ h
    exact hsame (threads_goOn halive rfl rfl rfl rfl rfl)
  have hreject := threads_rejectLoop actor.queue
    { actor with
      initializing := false
      ready := ok
      initializationFailed := !ok
      dispatchEnabled := ok && actor.dispatchRequested
      running := false
      accepting := false }
  exact joined_ended h (congrArg ActorThreads.running hreject) rfl
    (congrArg ActorThreads.starting hreject) (congrArg ActorThreads.threadStarted hreject)
    (congrArg ActorThreads.joinInProgress hreject)

lemma joined_finalized : actor.finalized.threads.Joined := by
  unfold finalized
  split
  · exact h
  · exact joined_ended h rfl rfl rfl rfl rfl

/-- **Every step keeps what starting and stopping is about.** -/
lemma joined_step (hlife : actor.Lifecycle) (step : ActorStep) :
    (actorStep config actor step).threads.Joined := by
  have hsame : ∀ {next : MediaActor}, next.threads = actor.threads → next.threads.Joined :=
    fun heq => heq ▸ h
  cases step with
  | start => exact joined_start h
  | startThread created => exact joined_startThread h hlife created
  | startDone => exact joined_startDone h
  | stop => exact joined_stop h
  | join => exact joined_join h
  | initialized ok => exact joined_initialized h ok
  | finalized => exact joined_finalized h
  | submit key => exact hsame (threads_submit actor key)
  | wake key expired => exact hsame (threads_wake actor key expired)
  | free key => exact hsame (threads_freeDying actor key)
  | workerTop => exact hsame (threads_workerTop actor)
  | validated valid => exact hsame (threads_validated actor valid)
  | executed ok => exact hsame (threads_executed actor ok)
  | completed => exact hsame (threads_completed actor)
  | pumped => exact hsame (threads_pumped actor)
  | finish => exact hsame (threads_finish actor)
  | quiesce => exact h
  | destroy =>
    unfold actorStep destroy
    dsimp only
    split
    · exact h
    · exact hsame (threads_rejectLoop actor.queue actor)
  | directBegin command =>
    unfold actorStep directBegin
    dsimp only
    split
    · exact h
    · split <;> exact h
  | create | directValidated | directDone | activate | stopSelf =>
    simp only [actorStep, create, directValidated, directDone, activate, stopSelf]
    split <;> exact h

end

/-! ## An empty queue -/

/-- **An actor that does not run keeps no request in its queue**, if no thread creation fails over one. -/
lemma drained_step (hlife : actor.Lifecycle) (h : actor.running = false → actor.queue = []) (step : ActorStep)
    (hok : step = .startThread false → actor.queue = []) :
    (actorStep config actor step).running = false → (actorStep config actor step).queue = [] := by
  cases step with
  | submit key =>
    intro hnot
    obtain ⟨⟨hrun, -⟩, hqueue⟩ := submit_same config actor key
    have hpre : actor.running = false := hrun.symm.trans hnot
    exact (hqueue (.inl hpre)).trans (h hpre)
  | wake key expired =>
    intro hnot
    obtain ⟨hrun, -, -, -, hqueue⟩ := wake_same actor key expired
    exact hqueue.trans (h (hrun.symm.trans hnot))
  | free key =>
    intro hnot
    obtain ⟨hrun, -, -, -, hqueue⟩ := freeDying_same actor key
    exact hqueue.trans (h (hrun.symm.trans hnot))
  | start =>
    unfold actorStep start
    split_ifs
    · exact h
    · exact h
    · exact h
    · exact nofun
  | startThread created =>
    unfold actorStep startThread
    dsimp only
    split_ifs with hstart hnew
    · exact h
    · exact h
    · rw [Bool.not_eq_true] at hnew
      exact fun _ => hok (by rw [hnew])
  | initialized ok =>
    unfold actorStep initialized
    dsimp only
    split
    · exact h
    split
    · exact h
    exact fun _ => (rejectLoop_same actor.queue
      { actor with
        initializing := false
        ready := ok
        initializationFailed := !ok
        dispatchEnabled := ok && actor.dispatchRequested
        running := false
        accepting := false } rfl).2.2.2.2
  | workerTop =>
    unfold actorStep workerTop
    dsimp only
    split
    · split
      · exact h
      split
      · exact h
      split
      · exact h
      split
      · exact h
      rename_i key queue hqueue
      split
      · exact h
      · intro hnot
        exact nomatch hqueue.symm.trans (h hnot)
    · exact h
  | validated valid =>
    unfold actorStep validated
    dsimp only
    split
    · split
      · exact h
      split
      · exact h
      · split <;> exact h
    · exact h
  | executed ok =>
    unfold actorStep executed
    dsimp only
    split
    · split
      · exact h
      · split <;> exact h
    · exact h
  | completed =>
    unfold actorStep completed
    dsimp only
    split
    · rename_i key processed status hwork
      intro hnot
      obtain ⟨hrun, -, -, -, hqueue⟩ := requestCompleteLocked_same
        { actor with currentCommandId := 0, worker := .top (processed + 1) } key status
      exact hqueue.trans (h (hrun.symm.trans hnot))
    · exact h
  | finish =>
    unfold actorStep finish
    dsimp only
    split
    · exact h
    · exact fun _ => (rejectLoop_same actor.queue actor rfl).2.2.2.2
  | finalized =>
    unfold actorStep finalized
    dsimp only
    split_ifs with hwork
    · exact h
    · rw [not_or, not_not] at hwork
      exact fun _ => hlife.drained (.inl hwork.1)
  | join =>
    unfold actorStep join
    dsimp only
    split_ifs with hjoin
    · exact fun _ => hlife.drained (.inr hjoin.2)
    · exact h
  | destroy =>
    unfold actorStep destroy
    dsimp only
    split
    · exact h
    · exact fun _ => (rejectLoop_same actor.queue actor rfl).2.2.2.2
  | quiesce => exact h
  | directBegin command =>
    unfold actorStep directBegin
    dsimp only
    split
    · exact h
    · split <;> exact h
  | create | directValidated | directDone | startDone | activate | stop | stopSelf | pumped =>
    simp only [actorStep, create, directValidated, directDone,
      startDone, activate, stop, stopSelf, pumped]
    split <;> exact h

end MediaActor

/-! ## Main result -/

/-- The condition on a step: the thread of a start is not refused while there are requests. -/
def DrainedStart (actor : MediaActor) (step : ActorStep) : Prop :=
  step = .startThread false → actor.queue = []

/-- The states of the runs in which no thread creation fails over a queue that holds requests. -/
def ActorDrained (config : MediaActorConfig) (actor : MediaActor) : Prop :=
  Runs.Reachable (actorStep config) .initial DrainedStart actor

variable {config : MediaActorConfig} {actor : MediaActor}

lemma ActorDrained.reachable (h : ActorDrained config actor) : ActorReachable config actor :=
  mono h fun _ _ _ => trivial

lemma joined_initial : initial.threads.Joined := ⟨nofun, nofun, nofun, nofun, nofun⟩

lemma ActorReachable.joined (h : ActorReachable config actor) : actor.threads.Joined := by
  have hboth : actor.threads.Joined ∧ actor.Lifecycle :=
    invariant (P := fun actor => actor.threads.Joined ∧ actor.Lifecycle)
      ⟨joined_initial, lifecycle_initial⟩
      (fun _ step ⟨hjoin, hlife⟩ _ => ⟨joined_step hjoin hlife step, hlife.step step⟩) h
  exact hboth.1

lemma ActorDrained.drained (h : ActorDrained config actor) : actor.running = false → actor.queue = [] := by
  have hboth : (actor.running = false → actor.queue = []) ∧ actor.Lifecycle :=
    invariant (P := fun actor => (actor.running = false → actor.queue = []) ∧ actor.Lifecycle)
      ⟨fun _ => rfl, lifecycle_initial⟩
      (fun _ step ⟨hdrain, hlife⟩ hok =>
        ⟨drained_step hlife hdrain step hok, hlife.step step⟩) h
  exact hboth.1

/-- **Starting and stopping leave no request behind**, if no thread creation fails over a queue that holds
requests.  While no start and no stop is in progress and no worker runs, the queue is empty, whatever entered
it is settled, and a start is refused only for a worker that came to its end and was not joined, until a
stop has joined it.  A stop that has joined leaves no worker, and one that finds no thread leaves one only to
a start that is in progress. -/
theorem actor_start_stop (h : ActorDrained config actor) :
    (actor.starting = .idle → actor.joinInProgress = false → actor.worker.alive = false →
      actor.queue = [] ∧ (∀ key ∈ actor.entries, actor.Settled key) ∧
        (actor.destroyed = false → if actor.threadStarted then
          actor.worker = .exited ∧ actor.start config = actor ∧
            (actor.stop.join.start config).starting = .creating
        else (actor.start config).starting = .creating)) ∧
    (actor.joinInProgress = true → actor.worker = .exited →
      actor.join.joinInProgress = false ∧ actor.join.worker.alive = false ∧
        actor.join.starting = .idle ∧ actor.join.threadStarted = false) ∧
    (actor.joinInProgress = false → actor.threadStarted = false → actor.stop = actor ∧
      (actor.starting ≠ .created → actor.worker.alive = false)) := by
  have hkept := h.reachable.kept
  have hjoined := h.reachable.joined
  refine ⟨fun hstarting hjoin halive => ?_, fun hjoin hworker => ?_, fun hjoin hstarted => ?_⟩
  · have hrunning : actor.running = false := by
      by_contra hnot
      rcases hjoined.running (Bool.not_eq_false _ ▸ hnot) with hcreating | hrun
      · exact nomatch hstarting.symm.trans hcreating
      · exact nomatch halive.symm.trans hrun
    have hqueue := h.drained hrunning
    have hidle := hkept.lifecycle.idle hrunning
    refine ⟨hqueue, fun key hentered => MediaActor.settled_of_not_holds hkept.sound h.reachable.ended
      hentered ?_, fun hdestroyed => ?_⟩
    · rintro (hmem | hkey)
      · rw [hqueue] at hmem
        exact absurd hmem List.not_mem_nil
      · rw [MediaActor.ActorWorker.key_of_idle hidle] at hkey
        cases hkey
    split_ifs with hstarted
    · have hworker : actor.worker = .exited := by
        refine hidle.resolve_left fun habsent => ?_
        have hpresent := (hjoined.started hstarted).1
        change actor.worker.present = true at hpresent
        rw [habsent] at hpresent
        cases hpresent
      refine ⟨hworker, ?_, ?_⟩
      · rw [MediaActor.start, if_neg (by simp [hstarting, hdestroyed]), if_neg (by simp [hrunning]),
          if_pos (.inl hstarted)]
      · simp [MediaActor.stop, MediaActor.join, MediaActor.start, hjoin, hstarted, hworker, hstarting,
          hdestroyed, hqueue]
    · rw [MediaActor.start, if_neg (by simp [hstarting, hdestroyed]), if_neg (by simp [hrunning]),
        if_neg (by simp [hstarted, hqueue])]
  · have hstarted := hjoined.joining hjoin
    rw [MediaActor.join, if_pos ⟨hjoin, hworker⟩]
    exact ⟨rfl, by rw [hworker]; rfl, (hjoined.started hstarted).2, rfl⟩
  · refine ⟨by rw [MediaActor.stop, if_pos (.inr hstarted)], fun hcreated => ?_⟩
    by_contra halive
    rcases hjoined.registered (Bool.not_eq_false _ ▸ halive) with hnot | hnot
    · exact nomatch hstarted.symm.trans hnot
    · exact hcreated hnot

/-- The callback that initializes the actor fails over a request. -/
def failedInitRun : List ActorStep :=
  [.start, .create (carryingCommand .play) true true, .submit 0, .startThread true, .startDone,
    .initialized false]

/-- The request is shut down, the next start is refused, and the one behind a stop is not. -/
theorem actor_start_stop_init :
    (Runs.run (actorStep smallActorConfig) .initial failedInitRun).Settled 0 ∧
      ((Runs.run (actorStep smallActorConfig) .initial failedInitRun).start smallActorConfig).starting =
        .idle ∧
      ((Runs.run (actorStep smallActorConfig) .initial failedInitRun).stop.join.start
        smallActorConfig).starting = .creating := by
  have hdrained : ActorDrained smallActorConfig (Runs.run (actorStep smallActorConfig) .initial
      failedInitRun) :=
    Runs.Reachable.start.along ⟨nofun, nofun, nofun, nofun, nofun, nofun, trivial⟩
  obtain ⟨-, hsettled, hstart⟩ := (actor_start_stop hdrained).1 (by decide) (by decide) (by decide)
  exact ⟨hsettled 0 (by decide), by decide, (hstart (by decide)).2.2⟩

/-- The thread of a start is refused after a request was accepted. -/
def lostRequestRun : List ActorStep :=
  [.start, .create (carryingCommand .play) true true, .submit 0, .startThread false]

/-- A stop comes between the creation of the thread and its registration. -/
def earlyStopRun : List ActorStep := [.start, .startThread true, .stop]

/-- No start and no stop is in progress and no worker runs: a worker whose initialization failed has to be
joined before the next start; behind a thread that could not be created a request stays in the queue without
an outcome, and no start succeeds any more.  A stop that came early returns beside a worker. -/
theorem actor_start_stop_fails :
    (∃ actor, actor = Runs.run (actorStep smallActorConfig) .initial failedInitRun ∧
      actor.starting = .idle ∧ actor.joinInProgress = false ∧ actor.worker.alive = false ∧
        (actor.start smallActorConfig).starting = .idle) ∧
    (∃ actor, actor = Runs.run (actorStep smallActorConfig) .initial lostRequestRun ∧
      actor.starting = .idle ∧ actor.joinInProgress = false ∧ actor.worker.alive = false ∧
        actor.queue = [0] ∧ actor.outcomes 0 = [] ∧
          (actor.start smallActorConfig).starting = .idle) ∧
    ∃ actor, actor = Runs.run (actorStep smallActorConfig) .initial earlyStopRun ∧
      actor.joinInProgress = false ∧ actor.worker.alive = true :=
  ⟨⟨_, rfl, by decide, by decide, by decide, by decide⟩,
    ⟨_, rfl, by decide, by decide, by decide, by decide, by decide, by decide⟩,
    ⟨_, rfl, by decide, by decide⟩⟩

end NXCast
