import NXCast.Player.ActorRequests

/-!
# The actor's queue

`QueueChange` says once what a step may do to the queue and to what went through it: nothing, put a
request behind the others, put it in the place of the last, take the first, execute the one taken, or
throw all away.  The admission of requests and the order of their execution follow from it.
-/

namespace NXCast

open Function List Option MediaActor List.Sublist

/-- What a run has put through the queue: `taken` is the request between its place in the queue and its
execution. -/
@[ext]
structure QueueLog where
  queue : List ℕ
  taken : Option ℕ
  entries : List ℕ
  executions : List ℕ
  replacedBy : ℕ → Option ℕ
  commands : ℕ → Option MediaActorCommand
  commandIds : ℕ → ℕ
  lastCommandId : ℕ

/-- The request whose command is being validated. -/
def ActorWorker.taken : ActorWorker → Option ℕ
  | validating key _ => some key
  | _ => none

namespace MediaActor

variable (config : MediaActorConfig) (actor : MediaActor)

/-- The queue and what went through it. -/
def log : QueueLog :=
  { queue := actor.queue
    taken := actor.worker.taken
    entries := actor.entries
    executions := actor.executions
    replacedBy := actor.replacedBy
    commands := actor.commands
    commandIds := actor.commandIds
    lastCommandId := actor.lastCommandId }

/-- The commands and numbers that are remembered are those of the requests. -/
def Recorded : Prop :=
  ∀ key request, actor.requests key = some request →
    actor.commands key = some request.command ∧ actor.commandIds key = request.commandId

variable {config actor} {next last : MediaActor}

/-- A step that gives no request another command or number. -/
structure KeepsNames (actor next : MediaActor) : Prop where
  requests : ∀ key request, next.requests key = some request → ∃ old,
    actor.requests key = some old ∧ request.command = old.command ∧ request.commandId = old.commandId
  commands : next.commands = actor.commands
  commandIds : next.commandIds = actor.commandIds

lemma KeepsNames.of_eq (hrequests : next.requests = actor.requests)
    (hcmds : next.commands = actor.commands) (hids : next.commandIds = actor.commandIds) :
    actor.KeepsNames next :=
  ⟨fun _ request hreq => ⟨request, hrequests ▸ hreq, rfl, rfl⟩, hcmds, hids⟩

lemma KeepsNames.trans (h : actor.KeepsNames next) (h' : next.KeepsNames last) :
    actor.KeepsNames last := by
  refine ⟨fun key request hreq => ?_, h'.commands.trans h.commands,
    h'.commandIds.trans h.commandIds⟩
  obtain ⟨middle, hmiddle, hcmd, hid⟩ := h'.requests key request hreq
  obtain ⟨old, hold, hcmd', hid'⟩ := h.requests key middle hmiddle
  exact ⟨old, hold, hcmd.trans hcmd', hid.trans hid'⟩

variable {request : MediaActorRequest}

lemma KeepsNames.of_update {key : ℕ} {new : MediaActorRequest}
    (hreq : actor.requests key = some request)
    (hrequests : next.requests = update actor.requests key (some new))
    (hcmd : new.command = request.command) (hid : new.commandId = request.commandId)
    (hcmds : next.commands = actor.commands) (hids : next.commandIds = actor.commandIds) :
    actor.KeepsNames next := by
  refine ⟨fun other found hfound => ?_, hcmds, hids⟩
  rw [hrequests] at hfound
  by_cases heq : other = key
  · subst heq
    rw [update_self, some.injEq] at hfound
    subst hfound
    exact ⟨request, hreq, hcmd, hid⟩
  · rw [update_of_ne heq] at hfound
    exact ⟨found, hfound, rfl, rfl⟩

variable (key : ℕ)

lemma keepsNames_dropped (references : ℕ) : actor.KeepsNames (actor.dropped key references) := by
  unfold dropped
  split <;> exact .of_eq rfl rfl rfl

lemma keepsNames_requestCompleteLocked (status : MediaActorSubmitStatus) :
    actor.KeepsNames (actor.requestCompleteLocked key status) := by
  unfold requestCompleteLocked
  split
  · exact .of_eq rfl rfl rfl
  · rename_i request hreq
    refine .trans ?_ (keepsNames_dropped key _)
    exact .of_update hreq rfl rfl rfl rfl rfl

lemma keepsNames_rejectLoop (queue : List ℕ) : actor.KeepsNames (rejectLoop queue actor) := by
  induction queue generalizing actor with
  | nil => exact .of_eq rfl rfl rfl
  | cons key queue ih =>
    have hpop : actor.KeepsNames { actor with queue } := .of_eq rfl rfl rfl
    exact (hpop.trans (keepsNames_requestCompleteLocked key .shuttingDown)).trans ih

lemma keepsNames_wake (expired : Bool) : actor.KeepsNames (actor.wake key expired) := by
  have hleave : ∀ request status, actor.requests key = some request →
      actor.KeepsNames (actor.leave key request status) := by
    intro request status hreq
    refine .trans ?_ (keepsNames_dropped key _)
    exact .of_update hreq rfl rfl rfl rfl rfl
  unfold wake
  split
  · split
    · exact .of_eq rfl rfl rfl
    rename_i request hreq
    split
    · exact hleave request _ hreq
    · split
      · exact hleave request _ hreq
      · exact .of_eq rfl rfl rfl
  · exact .of_eq rfl rfl rfl

lemma keepsNames_freeDying : actor.KeepsNames (actor.freeDying key) := by
  unfold freeDying requestFree
  split
  · split
    · exact .of_eq rfl rfl rfl
    refine ⟨fun other request hreq => ?_, rfl, rfl⟩
    by_cases heq : other = key
    · simp [setRequest, heq] at hreq
    · simp only [setRequest, update_of_ne heq] at hreq
      exact ⟨request, hreq, rfl, rfl⟩
  · exact .of_eq rfl rfl rfl

lemma KeepsNames.recorded (h : actor.KeepsNames next) (hrec : actor.Recorded) : next.Recorded := by
  intro key request hreq
  obtain ⟨old, hold, hcmd, hid⟩ := h.requests key request hreq
  rw [h.commands, h.commandIds, hcmd, hid]
  exact hrec key old hold

/-! ## What a step does to the queue -/

/-- What a step may do to the queue. -/
inductive QueueChange (config : MediaActorConfig) (actor next : MediaActor) : Prop where
  | keep (hlog : next.log = actor.log)
  | create (command : MediaActorCommand) (hnew : actor.created ∉ actor.entries)
      (hlog : next.log = { actor.log with
        commands := Function.update actor.commands actor.created (some command)
        commandIds := Function.update actor.commandIds actor.created 0 })
  | number (hlog : next.log = { actor.log with lastCommandId := actor.lastCommandId + 1 })
  | push (key : ℕ) (command : MediaActorCommand) (hstopping : actor.stopping = false)
      (hnew : key ∉ actor.entries) (hcommand : actor.commands key = some command)
      (hroom : actor.queue.length < config.capacity)
      (hnormal : commandUsesReservedSlot command.kind = false →
        actor.queue.length < config.capacity - config.reservedCapacity)
      (hlog : next.log = { actor.log with
        queue := actor.queue ++ [key]
        entries := key :: actor.entries
        commandIds := Function.update actor.commandIds key (actor.lastCommandId + 1)
        lastCommandId := actor.lastCommandId + 1 })
  | replace (tail key : ℕ) (queued command : MediaActorCommand) (hstopping : actor.stopping = false)
      (hnew : key ∉ actor.entries) (htail : actor.queue.getLast? = some tail)
      (hqueued : actor.commands tail = some queued) (hcommand : actor.commands key = some command)
      (hreplace : commandCanReplace queued command = true)
      (hlog : next.log = { actor.log with
        queue := actor.queue.dropLast ++ [key]
        entries := key :: actor.entries
        replacedBy := Function.update actor.replacedBy tail (some key)
        commandIds := Function.update actor.commandIds key (actor.lastCommandId + 1)
        lastCommandId := actor.lastCommandId + 1 })
  | take (key : ℕ) (queue : List ℕ) (hstopping : actor.stopping = false)
      (htaken : actor.worker.key = none) (hqueue : actor.queue = key :: queue)
      (hlog : next.log = { actor.log with queue, taken := some key })
  | execute (key : ℕ) (htaken : actor.worker.taken = some key)
      (hlog : next.log = { actor.log with taken := none, executions := key :: actor.executions })
  | leave (hlog : next.log = { actor.log with taken := none })
  | reject (hlog : next.log = { actor.log with queue := [] })

@[simp]
lemma log_requestCompleteLocked (actor : MediaActor) (key : ℕ) (status : MediaActorSubmitStatus) :
    (actor.requestCompleteLocked key status).log = actor.log := by
  unfold requestCompleteLocked dropped
  split
  · rfl
  · split <;> rfl

lemma log_rejectLoop (queue : List ℕ) (actor : MediaActor) (hqueue : actor.queue = queue) :
    (rejectLoop queue actor).log = { actor.log with queue := [] } := by
  induction queue generalizing actor with
  | nil =>
    unfold rejectLoop log
    rw [hqueue]
  | cons key queue ih =>
    have hrest := (requestCompleteLocked_same { actor with queue } key .shuttingDown).2.2.2.2
    have hlog := ih _ hrest
    rw [log_requestCompleteLocked] at hlog
    exact hlog

lemma log_dropped (actor : MediaActor) (key references : ℕ) :
    (actor.dropped key references).log = actor.log := by
  unfold dropped
  split <;> rfl

lemma log_wake (actor : MediaActor) (key : ℕ) (expired : Bool) :
    (actor.wake key expired).log = actor.log := by
  unfold wake leave
  split
  · split
    · rfl
    split
    · exact log_dropped _ _ _
    · split
      · exact log_dropped _ _ _
      · rfl
  · rfl

lemma log_freeDying (actor : MediaActor) (key : ℕ) : (actor.freeDying key).log = actor.log := by
  unfold freeDying requestFree
  split
  · split <;> rfl
  · rfl

/-- A call that has not submitted its request has not put it into the queue. -/
lemma Sound.not_mem_entries (h : actor.Sound) {key : ℕ} (hcall : (actor.calls key).isCreated) :
    key ∉ actor.entries := by
  intro hmem
  have hcount : 0 < (actor.view key).entries := count_pos_iff.mpr hmem
  have hfresh := (h.view key).fresh (.inl hcall)
  omega

lemma Sound.created_not_mem (h : actor.Sound) : actor.created ∉ actor.entries := by
  intro hmem
  have hcount : 0 < (actor.view actor.created).entries := count_pos_iff.mpr hmem
  have hfresh := (h.view actor.created).fresh (.inr actor.known_created)
  omega

/-- `actor_submit` under its first lock. -/
lemma queueChange_submit (h : actor.Sound) (hrec : actor.Recorded) (key : ℕ) :
    QueueChange config actor (actor.submit config key) := by
  unfold submit
  split
  · rename_i wait forever hcall
    have hnew : key ∉ actor.entries := h.not_mem_entries (by rw [hcall]; rfl)
    split
    · exact .keep rfl
    rename_i request hreq
    obtain ⟨hcmd, -⟩ := hrec key request hreq
    split
    · exact .keep rfl
    split
    · exact .keep rfl
    rename_i hstopping
    have hstop : actor.stopping = false :=
      Bool.not_eq_true _ ▸ fun hstop => hstopping (.inl hstop)
    have hpush : QueueChange config actor (actor.push config key request wait forever) := by
      unfold push
      split
      · exact .keep rfl
      rename_i hfull
      rw [not_or, not_and_or, Nat.not_le, Nat.not_le] at hfull
      refine .push key request.command hstop hnew hcmd hfull.1 (fun hkind => ?_) rfl
      exact hfull.2.resolve_left fun hnot => hnot hkind
    split
    · split
      · exact hpush
      rename_i tail htail
      split
      · exact .keep rfl
      rename_i queued hq
      split_ifs with hreplace
      · refine .replace tail key queued.command request.command hstop hnew htail
          (hrec tail queued hq).1 hcmd hreplace.2 ?_
        exact log_requestCompleteLocked _ _ _
      · exact hpush
    · exact hpush
  · exact .keep rfl

variable {worker : ActorWorker}

lemma queueChange_worker (h : actor.worker.taken = none) (hwork : worker.taken = none) :
    { actor with worker }.log = actor.log := by
  unfold log
  rw [h, hwork]

lemma ActorWorker.taken_of_idle (h : worker = .absent ∨ worker = .exited) :
    worker.taken = none := by
  rcases h with rfl | rfl <;> rfl

lemma queueChange_workerTop : QueueChange config actor (actor.workerTop config) := by
  unfold workerTop
  split
  · rename_i processed hwork
    have htaken : actor.worker.taken = none := by
      rw [hwork]
      rfl
    split
    · exact .keep (queueChange_worker htaken rfl)
    split
    · exact .keep (queueChange_worker htaken rfl)
    rename_i hstop
    split
    · exact .keep (queueChange_worker htaken rfl)
    split
    · exact .keep (queueChange_worker htaken rfl)
    rename_i key queue hqueue
    split
    · exact .keep rfl
    · refine .take key queue (Bool.not_eq_true _ ▸ hstop) ?_ hqueue rfl
      rw [hwork]
      rfl
  · exact .keep rfl

lemma queueChange_validated (valid : Bool) : QueueChange config actor (actor.validated valid) := by
  unfold validated
  split
  · rename_i key processed hwork
    split
    · exact .keep rfl
    split
    · exact .keep rfl
    split
    · refine .execute key ?_ rfl
      rw [hwork]
      rfl
    · exact .leave rfl
  · exact .keep rfl

lemma queueChange_executed (ok : Bool) : QueueChange config actor (actor.executed ok) := by
  unfold executed
  split
  · rename_i key processed hwork
    split
    · exact .keep rfl
    split
    · exact .keep rfl
    · refine .keep (queueChange_worker ?_ rfl)
      rw [hwork]
      rfl
  · exact .keep rfl

lemma queueChange_completed : QueueChange config actor actor.completed := by
  unfold completed
  split
  · rename_i key processed status hwork
    refine .keep ((log_requestCompleteLocked _ _ _).trans (queueChange_worker ?_ rfl))
    rw [hwork]
    rfl
  · exact .keep rfl

/-- All that is pending is rejected, by a worker that has no request or by nobody. -/
lemma log_rejectAll (htaken : actor.worker.taken = none) (hwork : worker.taken = none) :
    { actor.actorRejectPendingLocked with worker }.log = { actor.log with queue := [] } := by
  have hlog := log_rejectLoop actor.queue actor rfl
  rw [QueueLog.ext_iff] at hlog ⊢
  obtain ⟨hqueue, -, hents, hexecs, hrepl, hcmds, hids, hlast⟩ := hlog
  exact ⟨hqueue, hwork.trans htaken.symm, hents, hexecs, hrepl, hcmds, hids, hlast⟩

/-- **What a step does to the queue.** -/
lemma queueChange_step (h : actor.Sound) (hrec : actor.Recorded) (hlife : actor.Lifecycle)
    (step : ActorStep) : QueueChange config actor (actorStep config actor step) := by
  cases step with
  | create command wait forever =>
    unfold actorStep create
    dsimp only
    split
    · exact .create command h.created_not_mem rfl
    · exact .keep rfl
  | submit key => exact queueChange_submit h hrec key
  | wake key expired => exact .keep (log_wake actor key expired)
  | free key => exact .keep (log_freeDying actor key)
  | directBegin command =>
    unfold actorStep directBegin
    dsimp only
    split
    · exact .keep rfl
    · split
      · exact .keep rfl
      · exact .number rfl
  | directValidated | directDone | startDone | activate | stop | stopSelf | join =>
    simp only [actorStep, directValidated, directDone, startDone,
      activate, stop, stopSelf, join]
    split <;> exact .keep rfl
  | start =>
    unfold actorStep start
    dsimp only
    split
    · exact .keep rfl
    split
    · exact .keep rfl
    rename_i hrun
    split
    · exact .keep rfl
    · have hidle := hlife.idle (Bool.not_eq_true _ ▸ hrun)
      exact .keep (queueChange_worker (ActorWorker.taken_of_idle hidle) rfl)
  | startThread created =>
    unfold actorStep startThread
    dsimp only
    split
    · exact .keep rfl
    rename_i hstart
    have habsent := (hlife.creating (not_not.mp hstart)).1
    split
    · exact .keep (queueChange_worker (ActorWorker.taken_of_idle (.inl habsent)) rfl)
    · exact .keep rfl
  | quiesce => exact .keep rfl
  | destroy =>
    unfold actorStep destroy
    dsimp only
    split
    · exact .keep rfl
    · exact .reject (log_rejectLoop actor.queue actor rfl)
  | initialized ok =>
    unfold actorStep initialized
    dsimp only
    split
    · exact .keep rfl
    rename_i hwork
    rw [not_or, not_not] at hwork
    have htaken : actor.worker.taken = none := by
      rw [hwork.1]
      rfl
    split
    · exact .keep (queueChange_worker htaken rfl)
    · exact .reject (log_rejectAll (by exact htaken) (by rfl))
  | workerTop => exact queueChange_workerTop
  | validated valid => exact queueChange_validated valid
  | executed ok => exact queueChange_executed ok
  | completed => exact queueChange_completed
  | pumped =>
    unfold actorStep pumped
    dsimp only
    split_ifs with hwork
    · exact .keep rfl
    rw [not_or, not_not] at hwork
    refine .keep (queueChange_worker ?_ rfl)
    rw [hwork.1]
    rfl
  | finish =>
    unfold actorStep finish
    dsimp only
    split_ifs with hwork
    · exact .keep rfl
    · refine .reject (log_rejectAll ?_ rfl)
      rw [not_not.mp hwork]
      rfl
  | finalized =>
    unfold actorStep finalized
    dsimp only
    split_ifs with hwork
    · exact .keep rfl
    rw [not_or, not_not] at hwork
    refine .keep (queueChange_worker ?_ rfl)
    rw [hwork.1]
    rfl

/-! ## What is remembered of the requests -/

section

variable (h : actor.Recorded)

include h

lemma Recorded.of_new {new : MediaActorRequest}
    (hrequests : next.requests = update actor.requests key (some new))
    (hcmd : next.commands key = some new.command) (hid : next.commandIds key = new.commandId)
    (hothers : ∀ other ≠ key, next.commands other = actor.commands other ∧ next.commandIds other = actor.commandIds other) :
    next.Recorded := by
  intro other request hreq
  rw [hrequests] at hreq
  by_cases heq : other = key
  · subst heq
    rw [update_self, some.injEq] at hreq
    exact hreq ▸ ⟨hcmd, hid⟩
  · rw [update_of_ne heq] at hreq
    rw [(hothers other heq).1, (hothers other heq).2]
    exact h other request hreq

lemma Recorded.create (command : MediaActorCommand) (wait forever : Bool) :
    (actor.create command wait forever).Recorded := by
  unfold MediaActor.create
  split
  · refine h.of_new actor.created rfl ?_ ?_ fun other hother => ⟨?_, ?_⟩
    · exact update_self ..
    · exact update_self ..
    all_goals exact update_of_ne hother ..
  · exact h

lemma Recorded.push {key : ℕ} (hreq : actor.requests key = some request)
    (wait forever : Bool) : (actor.push config key request wait forever).Recorded := by
  unfold MediaActor.push
  split
  · exact (KeepsNames.of_eq rfl rfl rfl).recorded h
  · refine h.of_new key rfl (h key request hreq).1 ?_ fun other hother => ⟨rfl, ?_⟩
    · exact update_self ..
    · exact update_of_ne hother ..

lemma Recorded.replaceTail {tail key : ℕ}
    (hreq : actor.requests key = some request) : (actor.replaceTail tail key request).Recorded := by
  refine (keepsNames_requestCompleteLocked tail .accepted).recorded ?_
  refine h.of_new key rfl (h key request hreq).1 ?_ fun other hother => ⟨rfl, ?_⟩
  · exact update_self ..
  · exact update_of_ne hother ..

lemma Recorded.submit : (actor.submit config key).Recorded := by
  have hrefuse : ∀ status, (actor.refuse key status).Recorded := fun _ =>
    (KeepsNames.of_eq rfl rfl rfl).recorded h
  unfold MediaActor.submit
  split
  · split
    · exact (KeepsNames.of_eq rfl rfl rfl).recorded h
    rename_i request hreq
    split
    · exact hrefuse .notRunning
    split
    · exact hrefuse .shuttingDown
    split
    · split
      · exact h.push hreq _ _
      split
      · exact (KeepsNames.of_eq rfl rfl rfl).recorded h
      · split
        · exact h.replaceTail hreq
        · exact h.push hreq _ _
    · exact h.push hreq _ _
  · exact h

end

lemma keepsNames_step (step : ActorStep) (hcreate : ∀ command wait forever,
    step ≠ .create command wait forever) (hsubmit : ∀ key, step ≠ .submit key) :
    actor.KeepsNames (actorStep config actor step) := by
  have hreject : ∀ queue, actor.KeepsNames (rejectLoop queue actor) := keepsNames_rejectLoop
  cases step with
  | create command wait forever => exact absurd rfl (hcreate command wait forever)
  | submit key => exact absurd rfl (hsubmit key)
  | wake key expired => exact keepsNames_wake key expired
  | free key => exact keepsNames_freeDying key
  | quiesce => exact .of_eq rfl rfl rfl
  | destroy =>
    unfold actorStep destroy
    dsimp only
    split
    · exact .of_eq rfl rfl rfl
    · exact (hreject actor.queue).trans (.of_eq rfl rfl rfl)
  | finish =>
    unfold actorStep finish
    dsimp only
    split
    · exact .of_eq rfl rfl rfl
    · exact (hreject actor.queue).trans (.of_eq rfl rfl rfl)
  | initialized ok =>
    unfold actorStep initialized
    dsimp only
    split
    · exact .of_eq rfl rfl rfl
    split
    · exact .of_eq rfl rfl rfl
    · refine .trans ?_ (.trans (keepsNames_rejectLoop actor.queue) (.of_eq rfl rfl rfl))
      exact .of_eq rfl rfl rfl
  | completed =>
    unfold actorStep completed
    dsimp only
    split
    · refine .trans ?_ (keepsNames_requestCompleteLocked _ _)
      exact .of_eq rfl rfl rfl
    · exact .of_eq rfl rfl rfl
  | start =>
    unfold actorStep start
    dsimp only
    split
    · exact .of_eq rfl rfl rfl
    · split
      · exact .of_eq rfl rfl rfl
      · split <;> exact .of_eq rfl rfl rfl
  | startThread created =>
    unfold actorStep startThread
    dsimp only
    split
    · exact .of_eq rfl rfl rfl
    · split <;> exact .of_eq rfl rfl rfl
  | directBegin command =>
    unfold actorStep directBegin
    dsimp only
    split
    · exact .of_eq rfl rfl rfl
    · split <;> exact .of_eq rfl rfl rfl
  | workerTop =>
    unfold actorStep workerTop
    dsimp only
    split
    · split
      · exact .of_eq rfl rfl rfl
      split
      · exact .of_eq rfl rfl rfl
      split
      · exact .of_eq rfl rfl rfl
      · split
        · exact .of_eq rfl rfl rfl
        · split <;> exact .of_eq rfl rfl rfl
    · exact .of_eq rfl rfl rfl
  | validated valid =>
    unfold actorStep validated
    dsimp only
    split
    · split
      · exact .of_eq rfl rfl rfl
      · split
        · exact .of_eq rfl rfl rfl
        · split <;> exact .of_eq rfl rfl rfl
    · exact .of_eq rfl rfl rfl
  | executed ok =>
    unfold actorStep executed
    dsimp only
    split
    · split
      · exact .of_eq rfl rfl rfl
      · split <;> exact .of_eq rfl rfl rfl
    · exact .of_eq rfl rfl rfl
  | directValidated | directDone | startDone | activate | stop | stopSelf | join | pumped | finalized =>
    simp only [actorStep, directValidated, directDone, startDone,
      activate, stop, stopSelf, join, pumped,
      finalized]
    split <;> exact .of_eq rfl rfl rfl

lemma Recorded.step (h : actor.Recorded) (step : ActorStep) :
    (actorStep config actor step).Recorded := by
  by_cases hcreate : ∃ command wait forever, step = .create command wait forever
  · obtain ⟨command, wait, forever, rfl⟩ := hcreate
    exact h.create command wait forever
  by_cases hsubmit : ∃ key, step = .submit key
  · obtain ⟨key, rfl⟩ := hsubmit
    exact h.submit key
  · refine (keepsNames_step step (fun command wait forever heq => ?_) fun key heq => ?_).recorded h
    · exact hcreate ⟨command, wait, forever, heq⟩
    · exact hsubmit ⟨key, heq⟩

end MediaActor

/-! ## Order -/

/-- What every run keeps of the queue and of what went through it: the queue, the request that was taken
and those that were executed stand in the order in which they entered; the last of the queue is the one
that entered last; the numbers are given in that order; and a request that was replaced was directly
behind the one that took its place. -/
structure QueueLog.Orderly (log : QueueLog) : Prop where
  line : (log.queue.reverse ++ (log.taken.toList ++ log.executions)).Sublist log.entries
  last : log.queue ≠ [] → log.queue.getLast? = log.entries.head?
  numbered : log.entries.Pairwise fun newer older => log.commandIds older < log.commandIds newer
  bounded : ∀ key ∈ log.entries, log.commandIds key ≤ log.lastCommandId
  replaced : ∀ tail key, log.replacedBy tail = some key → [key, tail] <:+: log.entries ∧
    ∃ queued command, log.commands tail = some queued ∧ log.commands key = some command ∧
      commandCanReplace queued command = true

namespace QueueLog

variable {log : QueueLog}

lemma Orderly.mem_entries (h : log.Orderly) {key : ℕ} (hmem : key ∈ log.queue) :
    key ∈ log.entries :=
  h.line.subset (mem_append_left _ (mem_reverse.mpr hmem))

lemma Orderly.numbered_cons (h : log.Orderly) {key : ℕ} (hnew : key ∉ log.entries) :
    (key :: log.entries).Pairwise (fun newer older =>
      update log.commandIds key (log.lastCommandId + 1) older <
        update log.commandIds key (log.lastCommandId + 1) newer) ∧
      ∀ other ∈ key :: log.entries,
        update log.commandIds key (log.lastCommandId + 1) other ≤ log.lastCommandId + 1 := by
  have hsame : ∀ other ∈ log.entries,
      update log.commandIds key (log.lastCommandId + 1) other = log.commandIds other := by
    intro other hother
    refine update_of_ne ?_ ..
    rintro rfl
    exact hnew hother
  refine ⟨pairwise_cons.mpr ⟨fun other hother => ?_, ?_⟩, fun other hother => ?_⟩
  · rw [hsame other hother, update_self]
    have hbound := h.bounded other hother
    omega
  · refine h.numbered.imp_of_mem fun {newer older} hnewer holder hlt => ?_
    rw [hsame newer hnewer, hsame older holder]
    exact hlt
  rcases mem_cons.mp hother with rfl | hmem
  · exact Nat.le_of_eq (update_self ..)
  · rw [hsame other hmem]
    have hbound := h.bounded other hmem
    omega

end QueueLog

namespace MediaActor

variable {config : MediaActorConfig} {actor next : MediaActor}

/-- **A step keeps the order.** -/
lemma QueueChange.orderly (hchg : QueueChange config actor next) (h : actor.log.Orderly) :
    next.log.Orderly := by
  cases hchg with
  | keep hlog => exact hlog ▸ h
  | create command hnew hlog =>
    rw [hlog]
    have hother : ∀ key ∈ actor.entries, key ≠ actor.created := by
      rintro key hkey rfl
      exact hnew hkey
    refine ⟨h.line, h.last, ?_, fun key hkey => ?_, fun tail key hrepl => ?_⟩
    · refine h.numbered.imp_of_mem fun {newer older} hnewer holder hlt => ?_
      dsimp only
      rw [update_of_ne (hother newer hnewer), update_of_ne (hother older holder)]
      exact hlt
    · dsimp only
      rw [update_of_ne (hother key hkey)]
      exact h.bounded key hkey
    obtain ⟨hbehind, queued, command, hq, hcmd, hreplace⟩ := h.replaced tail key hrepl
    have hmem := hbehind.subset
    refine ⟨hbehind, queued, command, ?_, ?_, hreplace⟩
    · dsimp only
      rw [update_of_ne (hother tail (hmem (by simp)))]
      exact hq
    · dsimp only
      rw [update_of_ne (hother key (hmem (by simp)))]
      exact hcmd
  | number hlog =>
    rw [hlog]
    exact ⟨h.line, h.last, h.numbered, fun key hkey => Nat.le_succ_of_le (h.bounded key hkey), h.replaced⟩
  | push key command hstop hnew hcmd hroom hnormal hlog =>
    rw [hlog]
    obtain ⟨hnumbered, hbounded⟩ := h.numbered_cons hnew
    refine ⟨?_, fun _ => ?_, hnumbered, hbounded, fun tail other hrepl => ?_⟩
    · simp only [reverse_append, reverse_singleton, cons_append]
      exact h.line.cons_cons key
    · simp
    · obtain ⟨hbehind, hcmds⟩ := h.replaced tail other hrepl
      exact ⟨infix_cons hbehind, hcmds⟩
  | replace tail key queued command hstop hnew htail hq hcmd hreplace hlog =>
    rw [hlog]
    obtain ⟨hnumbered, hbounded⟩ := h.numbered_cons hnew
    have hhead : actor.entries.head? = some tail := by
      rw [← htail]
      refine (h.last ?_).symm
      intro hempty
      change actor.queue = [] at hempty
      rw [hempty] at htail
      cases htail
    refine ⟨?_, fun _ => ?_, hnumbered, hbounded, fun other newer hrepl => ?_⟩
    · simp only [reverse_append, reverse_singleton, cons_append]
      refine List.Sublist.cons_cons key (List.Sublist.trans ?_ h.line)
      change (actor.queue.dropLast.reverse ++ _).Sublist (actor.queue.reverse ++ _)
      refine append_right ?_ _
      rw [reverse_sublist]
      exact dropLast_sublist _
    · simp
    dsimp only at hrepl
    by_cases heq : other = tail
    · subst heq
      rw [update_self, some.injEq] at hrepl
      subst hrepl
      obtain ⟨rest, hrest⟩ := head?_eq_some_iff.mp hhead
      refine ⟨?_, queued, command, hq, hcmd, hreplace⟩
      exact ⟨[], rest, by simp [hrest]⟩
    · rw [update_of_ne heq] at hrepl
      obtain ⟨hbehind, hcmds⟩ := h.replaced other newer hrepl
      exact ⟨infix_cons hbehind, hcmds⟩
  | take key queue hstop htaken hqueue hlog =>
    rw [hlog]
    have hline := h.line
    have hlast := h.last
    have hnone : actor.log.taken = none := by
      change actor.worker.taken = none
      cases hwork : actor.worker <;> simp_all [ActorWorker.taken, ActorWorker.key]
    change actor.log.queue = key :: queue at hqueue
    rw [hnone, hqueue] at hline
    rw [hqueue] at hlast
    refine ⟨?_, fun hne => ?_, h.numbered, h.bounded, h.replaced⟩
    · simpa using hline
    have hcons := hlast (by simp)
    cases queue with
    | nil => exact absurd rfl hne
    | cons first rest =>
      exact hcons
  | execute key htaken hlog =>
    rw [hlog]
    refine ⟨?_, h.last, h.numbered, h.bounded, h.replaced⟩
    have hline := h.line
    change (_ ++ (actor.worker.taken.toList ++ _)).Sublist _ at hline
    rw [htaken] at hline
    exact hline
  | leave hlog =>
    rw [hlog]
    refine ⟨?_, h.last, h.numbered, h.bounded, h.replaced⟩
    refine List.Sublist.trans ?_ h.line
    exact List.Sublist.append_left (sublist_append_right _ _) _
  | reject hlog =>
    rw [hlog]
    refine ⟨?_, absurd rfl, h.numbered, h.bounded, h.replaced⟩
    exact (sublist_append_right _ _).trans h.line

end MediaActor

/-! ## Admission -/

/-- The request carries a command that may use the reserve. -/
def QueueLog.reserves (log : QueueLog) (key : ℕ) : Bool :=
  (log.commands key).any fun command => commandUsesReservedSlot command.kind

/-- The queue has room for its commands and leaves the reserve to those that may use it. -/
structure QueueLog.Admitted (config : MediaActorConfig) (log : QueueLog) : Prop where
  room : log.queue.length ≤ config.capacity
  reserve : log.queue.countP (fun key => !log.reserves key) ≤ config.capacity - config.reservedCapacity

variable {config : MediaActorConfig} {actor next : MediaActor}

lemma QueueLog.Admitted.of_sublist {log log' : QueueLog} (h : log.Admitted config)
    (hqueue : log'.queue.Sublist log.queue) (hcmds : log'.commands = log.commands) :
    log'.Admitted config := by
  refine ⟨Nat.le_trans hqueue.length_le h.room, ?_⟩
  unfold QueueLog.reserves
  rw [hcmds]
  exact Nat.le_trans hqueue.countP_le h.reserve

lemma commandCanReplace_kind {queued command : MediaActorCommand}
    (h : commandCanReplace queued command) : queued.kind = command.kind :=
  (of_decide_eq_true h).1

/-- **A step leaves the reserve.** -/
lemma MediaActor.QueueChange.admitted (hchg : MediaActor.QueueChange config actor next)
    (horder : actor.log.Orderly) (h : actor.log.Admitted config) : next.log.Admitted config := by
  cases hchg with
  | keep hlog => exact hlog ▸ h
  | create command hnew hlog =>
    rw [hlog]
    refine ⟨h.room, le_of_eq_of_le ?_ h.reserve⟩
    refine countP_congr fun key hkey => ?_
    have hne : key ≠ actor.created := by
      rintro rfl
      exact hnew (horder.mem_entries hkey)
    unfold QueueLog.reserves
    dsimp only
    rw [update_of_ne hne]
    rfl
  | number hlog | leave hlog => exact hlog ▸ h.of_sublist (refl _) rfl
  | push key command hstop hnew hcmd hroom hnormal hlog =>
    rw [hlog]
    have hreserve := h.reserve
    change actor.queue.countP (fun key => !actor.log.reserves key) ≤ _ at hreserve
    have hlen : (actor.queue ++ [key]).length = actor.queue.length + 1 := length_append
    refine ⟨by dsimp only; omega, ?_⟩
    change (actor.queue ++ [key]).countP (fun key => !actor.log.reserves key) ≤ _
    rw [countP_append, countP_singleton]
    have hkey : actor.log.reserves key = commandUsesReservedSlot command.kind := by
      change (actor.commands key).any _ = _
      rw [hcmd]
      rfl
    rw [hkey]
    cases hkind : commandUsesReservedSlot command.kind with
    | true => simpa using hreserve
    | false =>
      have hle : actor.queue.countP (fun key => !actor.log.reserves key) ≤ actor.queue.length :=
        countP_le_length
      have hroom' := hnormal hkind
      simp only [Bool.not_false, if_true]
      omega
  | replace tail key queued command hstop hnew htail hq hcmd hreplace hlog =>
    rw [hlog]
    have hsplit := dropLast_append_getLast? tail htail
    have hroom := h.room
    have hreserve := h.reserve
    change actor.queue.length ≤ _ at hroom
    change actor.queue.countP (fun key => !actor.log.reserves key) ≤ _ at hreserve
    have hkey : actor.log.reserves key = actor.log.reserves tail := by
      change (actor.commands key).any _ = (actor.commands tail).any _
      rw [hcmd, hq, any_some, any_some, commandCanReplace_kind hreplace]
    rw [← hsplit] at hroom hreserve
    refine ⟨?_, ?_⟩
    · simpa using hroom
    change (actor.queue.dropLast ++ [key]).countP (fun key => !actor.log.reserves key) ≤ _
    rw [countP_append, countP_singleton] at hreserve ⊢
    rw [hkey]
    exact hreserve
  | take key queue hstop htaken hqueue hlog =>
    rw [hlog]
    refine h.of_sublist ?_ rfl
    change queue.Sublist actor.queue
    rw [hqueue]
    exact sublist_cons_self key queue
  | execute key htaken hlog => exact hlog ▸ h.of_sublist (refl _) rfl
  | reject hlog => exact hlog ▸ h.of_sublist (nil_sublist _) rfl

/-! ## Main results -/

/-- What every run keeps. -/
structure MediaActor.Kept (config : MediaActorConfig) (actor : MediaActor) : Prop where
  sound : actor.Sound
  lifecycle : actor.Lifecycle
  recorded : actor.Recorded
  orderly : actor.log.Orderly
  admitted : actor.log.Admitted config

lemma kept_initial : initial.Kept config where
  sound := sound_initial
  lifecycle := lifecycle_initial
  recorded := fun _ _ hreq => absurd hreq (some_ne_none _).symm
  orderly :=
    { line := refl _
      last := absurd rfl
      numbered := List.Pairwise.nil
      bounded := nofun
      replaced := fun _ _ hrepl => absurd hrepl (some_ne_none _).symm }
  admitted := ⟨Nat.zero_le _, Nat.zero_le _⟩

lemma MediaActor.Kept.step (h : actor.Kept config) (step : ActorStep) :
    (actorStep config actor step).Kept config := by
  have hchg : MediaActor.QueueChange config actor (actorStep config actor step) :=
    queueChange_step h.sound h.recorded h.lifecycle step
  exact ⟨h.sound.step h.lifecycle step, h.lifecycle.step step, h.recorded.step step,
    hchg.orderly h.orderly, hchg.admitted h.orderly h.admitted⟩

/-- **Every run keeps the order and leaves the reserve.** -/
lemma ActorReachable.kept (h : ActorReachable config actor) : actor.Kept config :=
  Runs.Reachable.invariant kept_initial (fun _ step h _ => h.step step) h

/-- The request carries a command that may use the reserve. -/
def MediaActor.isReserved (actor : MediaActor) (key : ℕ) : Bool :=
  (actor.requests key).any fun request => commandUsesReservedSlot request.command.kind

/-- In the queue a request's kind is the kind of the command that is remembered. -/
lemma MediaActor.Kept.isReserved_eq (h : actor.Kept config) {key : ℕ} (hmem : key ∈ actor.queue) :
    actor.isReserved key = actor.log.reserves key := by
  have hq := (h.sound.queued hmem).1
  obtain ⟨request, hreq⟩ := (h.sound.view key).some_of_parties (by
    unfold RequestView.parties RequestView.held
    omega)
  change actor.requests key = some request at hreq
  change (actor.requests key).any _ = (actor.commands key).any _
  rw [hreq, (h.recorded key request hreq).1]
  rfl

lemma calls_replaceTail (actor : MediaActor) (tail key : ℕ) (request : MediaActorRequest) :
    (actor.replaceTail tail key request).calls key = .returned .accepted := by
  unfold replaceTail requestCompleteLocked dropped
  split
  · exact update_self ..
  · split <;> exact update_self ..

/-- A reserved command is refused for the queue's length only when the queue is full. -/
lemma full_of_queueFull {key : ℕ} (hnew : (actor.calls key).isCreated)
    (hkind : actor.isReserved key)
    (hcall : (actor.submit config key).calls key = .returned .queueFull) :
    config.capacity ≤ actor.queue.length := by
  have hrefuse : ∀ {status}, (actor.refuse key status).calls key = .returned .queueFull →
      status = .queueFull := by
    intro status hstat
    simpa [refuse, setCall] using hstat
  have hpush : ∀ {request wait forever}, actor.requests key = some request →
      (actor.push config key request wait forever).calls key = .returned .queueFull →
      config.capacity ≤ actor.queue.length := by
    intro request wait forever hreq hpushed
    unfold isReserved at hkind
    rw [hreq, any_some] at hkind
    unfold push at hpushed
    split at hpushed
    · rename_i hfull
      exact hfull.resolve_right fun hnormal => absurd (hkind.symm.trans hnormal.1) (by decide)
    · cases wait <;> simp [queuePushLocked, setCall] at hpushed
  have htouched : actor.touchFreed.calls key ≠ .returned .queueFull := by
    intro htouched
    change actor.calls key = _ at htouched
    rw [htouched] at hnew
    cases hnew
  unfold submit at hcall
  split at hcall
  · split at hcall
    · exact absurd hcall htouched
    rename_i request hreq
    split at hcall
    · cases hrefuse hcall
    split at hcall
    · cases hrefuse hcall
    split at hcall
    · split at hcall
      · exact hpush hreq hcall
      split at hcall
      · exact absurd hcall htouched
      split at hcall
      · rw [calls_replaceTail] at hcall
        cases hcall
      · exact hpush hreq hcall
    · exact hpush hreq hcall
  · rw [hcall] at hnew
    cases hnew

/-- **The reserve of the queue.** In every run the queue has no more requests than its capacity, and no
more that may not use the reserve than the capacity less the reserve; so a command that may use it is
refused for a full queue only when as many such commands are queued as are reserved for. -/
theorem reserved_capacity (h : ActorReachable config actor) :
    actor.queue.length ≤ config.capacity ∧
      actor.queue.countP (fun key => !actor.isReserved key) ≤
        config.capacity - config.reservedCapacity ∧
      ∀ key, (actor.calls key).isCreated = true → actor.isReserved key = true →
        (actorStep config actor (.submit key)).calls key = .returned .queueFull →
        config.reservedCapacity ≤ actor.queue.countP actor.isReserved := by
  have hkept := h.kept
  have hroom : actor.queue.length ≤ config.capacity := hkept.admitted.room
  have hreserve : actor.queue.countP (fun key => !actor.isReserved key) ≤
      config.capacity - config.reservedCapacity := by
    refine Nat.le_trans (Nat.le_of_eq (List.countP_congr fun key hmem => ?_)) hkept.admitted.reserve
    rw [hkept.isReserved_eq hmem]
  refine ⟨hroom, hreserve, fun key hcreated hkind hcall => ?_⟩
  have hfull := full_of_queueFull hcreated hkind hcall
  have hall : actor.queue.length =
      actor.queue.countP actor.isReserved + actor.queue.countP (fun key => !actor.isReserved key) := by
    rw [List.length_eq_countP_add_countP actor.isReserved]
    refine congrArg _ (List.countP_congr fun key _ => ?_)
    simp
  have hlt := config.reserved_lt
  omega

/-- A play and a stop fill the queue before another stop comes. -/
def fullRun : List ActorStep :=
  [.start, .create (carryingCommand .play) false false, .submit 0,
    .create (carryingCommand .stopAny) false false, .submit 1,
    .create (carryingCommand .stopAny) false false]

/-- The state behind that run. -/
def fullActor : MediaActor := Runs.run (actorStep smallActorConfig) .initial fullRun

/-- The second stop is refused, and one is queued already. -/
theorem reserved_capacity_full :
    (actorStep smallActorConfig fullActor (.submit 2)).calls 2 = .returned .queueFull ∧
      smallActorConfig.reservedCapacity ≤ fullActor.queue.countP fullActor.isReserved := by
  have hreachable : ActorReachable smallActorConfig fullActor := Runs.Reachable.start.run fullRun
  have hrefused : (actorStep smallActorConfig fullActor (.submit 2)).calls 2 =
      .returned .queueFull := by decide
  exact ⟨hrefused, (reserved_capacity hreachable).2.2 2 (by decide) (by decide) hrefused⟩

end NXCast
