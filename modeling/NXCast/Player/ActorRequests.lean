import NXCast.Player.ActorLifecycle

/-!
# The lifetime of the actor's requests

What every run keeps of each request: `RequestView` is what the actor, its queue, the worker and the
calls say of one of them, and a step changes the views of the requests it names only.  Until a call has
submitted its request it alone holds it; from then on `references` counts the queue or the worker, and
the call while it waits, and whoever takes it to zero frees it.
-/

namespace NXCast

open ActorCall List MediaActor

/-! ## One request -/

/-- The call waits for its request. -/
def ActorCall.isWaiting : ActorCall → Bool
  | waiting _ => true
  | _ => false

/-- The call has not submitted its request. -/
def ActorCall.isCreated : ActorCall → Bool
  | created _ _ => true
  | _ => false

/-- How far the worker is with one request. -/
inductive ActorStage where
  | none
  | validating
  | executing
  | completing (status : MediaActorSubmitStatus)
deriving DecidableEq

/-- The worker's stage at a request. -/
def ActorWorker.stage (worker : ActorWorker) (key : ℕ) : ActorStage :=
  match worker with
  | validating taken _ => if taken = key then .validating else .none
  | executing taken _ => if taken = key then .executing else .none
  | completing taken _ status => if taken = key then .completing status else .none
  | _ => .none

/-- The status of a command that was executed, whether well or not. -/
def MediaActorSubmitStatus.wasRun (status : MediaActorSubmitStatus) : Bool :=
  decide (status = .executed ∨ status = .executionFailed)

/-- How often the worker has executed the command at its stage. -/
def ActorStage.runs : ActorStage → ℕ
  | executing => 1
  | completing status => if status.wasRun then 1 else 0
  | _ => 0

/-- What there is of one request: itself, its call, how often the queue holds it, the worker's stage,
how often it is about to be freed, whether it was ever created, what was released of it, and what became
of it. -/
@[ext]
structure RequestView where
  request : Option MediaActorRequest
  call : ActorCall
  queued : ℕ
  stage : ActorStage
  dying : ℕ
  known : Bool
  releases : ℕ
  retains : ℕ
  payloadReleases : ℕ
  outcomes : List MediaActorSubmitStatus
  entries : ℕ
  executions : ℕ

open RequestView

namespace RequestView

variable (view : RequestView)

/-- How often the queue and the worker hold the request. -/
def held : ℕ := view.queued + if view.stage = .none then 0 else 1

/-- The parties that hold a request that was submitted. -/
def parties : ℕ := view.held + if view.call.isWaiting then 1 else 0

/-- What a run keeps of a request. -/
structure Sound : Prop where
  unknown : view.known = false → view.request = none ∧ view.call = .idle ∧ view.retains = 0
  gone : view.request = none → view.parties = 0 ∧ view.call.isCreated = false ∧ view.dying = 0 ∧
    view.releases = (if view.known then 1 else 0) ∧ view.payloadReleases = view.retains
  kept : ∀ request, view.request = some request → view.releases = 0 ∧ view.payloadReleases = 0 ∧
    view.retains = if request.objectRetained then 1 else 0
  unsubmitted : ∀ request, view.request = some request → view.call.isCreated = true →
    view.held = 0 ∧ view.dying = 0 ∧ request.references = 0 ∧ request.completed = false
  counted : ∀ request, view.request = some request → view.call.isCreated = false →
    request.references = view.parties ∧ view.held ≤ 1 ∧
      view.dying = if request.references = 0 then 1 else 0
  pending : ∀ request, view.request = some request → view.held = 1 → request.completed = false
  settled : ∀ request, view.request = some request → view.held = 0 →
    view.call.isWaiting = true → request.completed = true
  entered : view.outcomes.length + view.held = view.entries ∧ view.entries ≤ 1
  fresh : view.call.isCreated = true ∨ view.known = false → view.entries = 0
  outcome : ∀ request, view.request = some request → request.completed = true →
    view.outcomes = [request.completionStatus]
  executed : view.executions = view.outcomes.countP MediaActorSubmitStatus.wasRun + view.stage.runs

/-- A request is created. -/
def create (request : MediaActorRequest) (call : ActorCall) : RequestView :=
  { view with
    request := some request
    call
    known := true
    retains := if request.objectRetained then 1 else 0 }

/-- A request is refused. -/
def refuse (status : MediaActorSubmitStatus) : RequestView :=
  { view with call := .returned status, dying := view.dying + 1 }

/-- A request enters the queue. -/
def enter (request : MediaActorRequest) (commandId : ℕ) (wait forever : Bool) : RequestView :=
  { view with
    request := some { request with commandId, references := if wait then 2 else 1 }
    call := if wait then .waiting forever else .returned .accepted
    queued := view.queued + 1
    entries := view.entries + 1 }

/-- The queue or the worker lets go of a request and completes it. -/
def complete (request : MediaActorRequest) (status : MediaActorSubmitStatus) : RequestView :=
  { view with
    request := some
      { request with completed := true, completionStatus := status, references := request.references - 1 }
    queued := 0
    stage := .none
    dying := if request.references - 1 = 0 then view.dying + 1 else view.dying
    outcomes := status :: view.outcomes }

/-- The worker goes on with a request. -/
def advance (stage : ActorStage) (executions : ℕ) : RequestView :=
  { view with queued := 0, stage, executions := view.executions + executions }

/-- A waiting call returns. -/
def leave (request : MediaActorRequest) (status : MediaActorSubmitStatus) : RequestView :=
  { view with
    request := some { request with references := request.references - 1 }
    call := .returned status
    dying := if request.references - 1 = 0 then view.dying + 1 else view.dying }

/-- A request is freed. -/
def free (request : MediaActorRequest) : RequestView :=
  { view with
    request := none
    dying := view.dying - 1
    releases := view.releases + 1
    payloadReleases := if request.objectRetained then view.payloadReleases + 1
      else view.payloadReleases }

variable {view} {request : MediaActorRequest}

lemma Sound.known_of_some (h : view.Sound) (hreq : view.request = some request) : view.known := by
  by_contra hunknown
  rw [(h.unknown (Bool.not_eq_true _ ▸ hunknown)).1] at hreq
  cases hreq

lemma Sound.some_of_created (h : view.Sound) (hcall : view.call.isCreated) :
    ∃ request, view.request = some request := by
  cases hreq : view.request with
  | none =>
    rw [(h.gone hreq).2.1] at hcall
    cases hcall
  | some request => exact ⟨request, rfl⟩

lemma Sound.some_of_parties (h : view.Sound) (hparties : view.parties ≠ 0) :
    ∃ request, view.request = some request := by
  cases hreq : view.request with
  | none => exact absurd (h.gone hreq).1 hparties
  | some request => exact ⟨request, rfl⟩

lemma Sound.not_created_of_held (h : view.Sound) (hheld : view.held ≠ 0) :
    view.call.isCreated = false := by
  by_contra hnew
  have hnew' := Bool.not_eq_false _ ▸ hnew
  obtain ⟨request, hreq⟩ := h.some_of_created hnew'
  exact hheld (h.unsubmitted request hreq hnew').1

lemma held_eq_zero : view.held = 0 ↔ view.queued = 0 ∧ view.stage = .none := by
  unfold held
  split <;> simp_all

variable (h : view.Sound)

include h

lemma Sound.create (hknown : view.known = false) (command : MediaActorCommand)
    (wait forever : Bool) :
    (view.create (requestCreate command) (.created wait forever)).Sound := by
  obtain ⟨hreq, hcall, hretains⟩ := h.unknown hknown
  obtain ⟨hparties, -, hdying, hrel, hpayload⟩ := h.gone hreq
  have hfresh := h.fresh (.inr hknown)
  have hin := h.entered
  have hexec := h.executed
  have hheld : view.held = 0 := by
    omega
  obtain ⟨hq, hstage⟩ := held_eq_zero.mp hheld
  constructor <;> simp_all [RequestView.create, parties, held, isWaiting, isCreated, requestCreate]

lemma Sound.refuse (hcall : view.call.isCreated)
    (status : MediaActorSubmitStatus) : (view.refuse status).Sound := by
  obtain ⟨request, hreq⟩ := h.some_of_created hcall
  obtain ⟨hheld, hdying, hrefs, hcompleted⟩ := h.unsubmitted request hreq hcall
  have hknown := h.known_of_some hreq
  have hkept := h.kept request hreq
  have hin := h.entered
  have hexec := h.executed
  obtain ⟨hq, hstage⟩ := held_eq_zero.mp hheld
  constructor <;> simp_all [RequestView.refuse, parties, held, isWaiting, isCreated]

lemma Sound.enter (hcall : view.call.isCreated)
    (hreq : view.request = some request) (commandId : ℕ) (wait forever : Bool) :
    (view.enter request commandId wait forever).Sound := by
  obtain ⟨hheld, hdying, hrefs, hcompleted⟩ := h.unsubmitted request hreq hcall
  have hknown := h.known_of_some hreq
  have hkept := h.kept request hreq
  have hfresh := h.fresh (.inl hcall)
  have hin := h.entered
  have hexec := h.executed
  obtain ⟨hq, hstage⟩ := held_eq_zero.mp hheld
  cases wait <;> constructor <;>
    simp_all [RequestView.enter, parties, held, isWaiting, isCreated]

section

variable (hreq : view.request = some request)

include hreq

lemma Sound.complete (hheld : view.held = 1)
    {status : MediaActorSubmitStatus} (hstage : view.stage.runs = if status.wasRun then 1 else 0) :
    (view.complete request status).Sound := by
  have hnew := h.not_created_of_held (by omega)
  have hknown := h.known_of_some hreq
  have hkept := h.kept request hreq
  have hin := h.entered
  have hexec := h.executed
  have hnone : view.outcomes = [] := eq_nil_of_length_eq_zero (by omega)
  have hents : view.entries = 1 := by omega
  obtain ⟨hrefs, -, hdying⟩ := h.counted request hreq hnew
  unfold parties at hrefs
  clear hin
  constructor <;> simp_all [RequestView.complete, parties, held, ActorStage.runs]

lemma Sound.leave (hcall : view.call.isWaiting) (status : MediaActorSubmitStatus) :
    (view.leave request status).Sound := by
  have hnew : view.call.isCreated = false := by
    cases hview : view.call <;> simp_all [isWaiting, isCreated]
  have hknown := h.known_of_some hreq
  have hkept := h.kept request hreq
  have hpend := h.pending request hreq
  have hin := h.entered
  have hexec := h.executed
  have houtcome := h.outcome request hreq
  obtain ⟨hrefs, hheld, hdying⟩ := h.counted request hreq hnew
  constructor <;> simp_all [RequestView.leave, parties, held, isWaiting, isCreated]

lemma Sound.free (hdying : view.dying ≠ 0) : (view.free request).Sound := by
  have hnew : view.call.isCreated = false := by
    by_contra hnew
    exact hdying (h.unsubmitted request hreq (Bool.not_eq_false _ ▸ hnew)).2.1
  have hknown := h.known_of_some hreq
  have hkept := h.kept request hreq
  have hin := h.entered
  have hexec := h.executed
  obtain ⟨hrefs, -, hcount⟩ := h.counted request hreq hnew
  have hzero : request.references = 0 := by
    by_contra hne
    rw [if_neg hne] at hcount
    exact hdying hcount
  have hheld : view.held = 0 := by
    unfold parties at hrefs
    omega
  obtain ⟨hq, hstage⟩ := held_eq_zero.mp hheld
  constructor <;> simp_all [RequestView.free, parties, held]

end

lemma Sound.advance (hheld : view.held = 1) {stage : ActorStage}
    (hstage : stage ≠ .none) {executions : ℕ} (hruns : stage.runs = view.stage.runs + executions) :
    (view.advance stage executions).Sound := by
  obtain ⟨hunknown, hgone, hkept, hunsubmitted, hcnt, hpend, hrest, hin, hfresh,
    houtcome, hexec⟩ := h
  unfold parties at hgone hcnt
  constructor <;> simp_all [RequestView.advance, parties, held]
  omega

end RequestView

/-! ## All requests -/

namespace MediaActor

variable (config : MediaActorConfig) (actor : MediaActor)

/-- What there is of a request. -/
def view (key : ℕ) : RequestView :=
  { request := actor.requests key
    call := actor.calls key
    queued := actor.queue.count key
    stage := actor.worker.stage key
    dying := actor.dying.count key
    known := Nat.blt key actor.created
    releases := actor.releases key
    retains := actor.retains key
    payloadReleases := actor.payloadReleases key
    outcomes := actor.outcomes key
    entries := actor.entries.count key
    executions := actor.executions.count key }

/-- What every run keeps. -/
structure Sound : Prop where
  untouched : actor.fault = false
  view : ∀ key, (actor.view key).Sound

variable {config actor} {key : ℕ} {request : MediaActorRequest} {status : MediaActorSubmitStatus}

variable {next : MediaActor}

lemma Sound.of_view (h : actor.Sound) (key : ℕ) (hfault : next.fault = actor.fault)
    (hkey : (next.view key).Sound) (hother : ∀ other ≠ key, next.view other = actor.view other) :
    next.Sound := by
  refine ⟨hfault.trans h.untouched, fun other => ?_⟩
  by_cases heq : other = key
  · exact heq ▸ hkey
  · exact hother other heq ▸ h.view other

lemma Sound.of_same (h : actor.Sound) (hfault : next.fault = actor.fault)
    (hsame : ∀ key, next.view key = actor.view key) : next.Sound :=
  ⟨hfault.trans h.untouched, fun key => hsame key ▸ h.view key⟩

lemma known_created (actor : MediaActor) : (actor.view actor.created).known = false :=
  Bool.eq_false_iff.mpr fun h => Nat.lt_irrefl _ (Nat.blt_eq.mp h)

lemma Sound.create (h : actor.Sound) (command : MediaActorCommand) (wait forever : Bool) :
    (actor.create command wait forever).Sound := by
  unfold MediaActor.create
  split
  · have hview := (h.view actor.created).create actor.known_created command wait forever
    refine h.of_view actor.created rfl ?_ fun other hother => ?_
    · convert hview using 1
      simp [MediaActor.view, RequestView.create, setRequest, setCall]
    have hlt : Nat.blt other (actor.created + 1) = Nat.blt other actor.created := by
      rw [Bool.eq_iff_iff, Nat.blt_eq, Nat.blt_eq]
      omega
    simp [MediaActor.view, setRequest, setCall, hother, hlt]
  · exact h

lemma Sound.refuse (h : actor.Sound) (hcall : (actor.calls key).isCreated)
    (status : MediaActorSubmitStatus) : (actor.refuse key status).Sound := by
  have hview := (h.view key).refuse hcall status
  refine h.of_view key rfl ?_ fun other hother => ?_
  · convert hview using 1
    simp [MediaActor.view, MediaActor.refuse, RequestView.refuse, setCall]
  · simp [MediaActor.view, MediaActor.refuse, setCall, hother, Ne.symm hother]

lemma view_dropped (references other : ℕ) :
    (actor.dropped key references).view other =
      { actor.view other with
        dying := if other = key ∧ references = 0 then (actor.view other).dying + 1
          else (actor.view other).dying } := by
  unfold dropped
  by_cases heq : other = key
  · split <;> simp_all [view]
  · split <;> simp [view, heq, Ne.symm heq]

lemma dropped_fault (references : ℕ) : (actor.dropped key references).fault = actor.fault := by
  unfold dropped
  split <;> rfl

lemma sound_requestCompleteLocked (hfault : actor.fault = false)
    (hother : ∀ other ≠ key, (actor.view other).Sound) (view : RequestView) (hsound : view.Sound)
    (hheld : view.held = 1) (hstage : view.stage.runs = if status.wasRun then 1 else 0)
    (hview : actor.view key = { view with queued := 0, stage := .none }) :
    (actor.requestCompleteLocked key status).Sound := by
  obtain ⟨request, hreq⟩ := hsound.some_of_parties (by unfold parties; omega)
  have hhere : actor.requests key = some request := by
    rw [← hreq]
    exact congrArg RequestView.request hview
  have hcomplete := hsound.complete hreq hheld hstage
  unfold requestCompleteLocked
  rw [hhere]
  refine ⟨(dropped_fault _).trans hfault, fun other => ?_⟩
  rw [view_dropped]
  by_cases heq : other = key
  · subst heq
    convert hcomplete using 1
    simp_all [MediaActor.view, setRequest, complete]
  · convert hother other heq using 1
    simp [MediaActor.view, setRequest, heq]

lemma Sound.held_le (h : actor.Sound) (key : ℕ) : (actor.view key).held ≤ 1 := by
  have hin := (h.view key).entered
  omega

/-- A request in the queue is there once, and the worker has not taken it. -/
lemma Sound.queued (h : actor.Sound) (hmem : key ∈ actor.queue) :
    (actor.view key).queued = 1 ∧ (actor.view key).stage = .none := by
  have hheld := h.held_le key
  have hpos : 0 < (actor.view key).queued := count_pos_iff.mpr hmem
  unfold held at hheld
  by_cases hstage : (actor.view key).stage = .none
  · rw [if_pos hstage] at hheld
    exact ⟨by omega, hstage⟩
  · rw [if_neg hstage] at hheld
    omega

lemma Sound.complete_queued (h : actor.Sound) (hmem : key ∈ actor.queue)
    (hfault : next.fault = actor.fault) (hrun : status.wasRun = false)
    (hkey : next.view key = { actor.view key with queued := 0, stage := .none })
    (hother : ∀ other ≠ key, (next.view other).Sound) :
    (next.requestCompleteLocked key status).Sound := by
  obtain ⟨hq, hstage⟩ := h.queued hmem
  refine sound_requestCompleteLocked (hfault.trans h.untouched) hother _ (h.view key) ?_ ?_ hkey
  · rw [held, if_pos hstage, hq]
  · rw [hstage, hrun]
    rfl

/-- The loop of `actor_reject_pending_locked`. -/
lemma sound_rejectLoop (queue : List ℕ) (h : actor.Sound) (hqueue : actor.queue = queue) :
    (rejectLoop queue actor).Sound := by
  induction queue generalizing actor with
  | nil => exact h
  | cons key queue ih =>
    have hmem : key ∈ actor.queue := hqueue ▸ .head _
    obtain ⟨hq, hstage⟩ := h.queued hmem
    refine ih (h.complete_queued hmem rfl rfl ?_ fun other hother => ?_)
      (requestCompleteLocked_same _ key _).2.2.2.2
    · have hcount : queue.count key = 0 := by
        change actor.queue.count key = 1 at hq
        rw [hqueue, count_cons_self] at hq
        omega
      change actor.worker.stage key = .none at hstage
      simp [view, hcount, hstage]
    · convert h.view other using 1
      simp [view, hqueue, Ne.symm hother]

section

variable (h : actor.Sound)

include h

lemma Sound.actorRejectPendingLocked : actor.actorRejectPendingLocked.Sound :=
  sound_rejectLoop actor.queue h rfl

variable {forever : Bool}

lemma Sound.replaceTail {tail : ℕ}
    (htail : actor.queue.getLast? = some tail) (hcall : actor.calls key = .created false forever)
    (hreq : actor.requests key = some request) : (actor.replaceTail tail key request).Sound := by
  have hnew : (actor.view key).call.isCreated := by
    change (actor.calls key).isCreated = true
    rw [hcall]
    rfl
  have hview := (h.view key).enter hnew hreq (actor.lastCommandId + 1) false forever
  have hmem : tail ∈ actor.queue := mem_of_getLast? htail
  have hne : tail ≠ key := by
    rintro rfl
    have hheld := ((h.view tail).unsubmitted request hreq hnew).1
    have hq := (h.queued hmem).1
    unfold held at hheld
    omega
  obtain ⟨hq, hstage⟩ := h.queued hmem
  have hsplit := dropLast_append_getLast? tail htail
  have hcount : ∀ other, actor.queue.count other =
      actor.queue.dropLast.count other + if tail = other then 1 else 0 := by
    intro other
    conv_lhs => rw [← hsplit]
    rw [count_append, count_singleton]
    simp
  refine h.complete_queued hmem rfl rfl ?_ fun other hother => ?_
  · have hzero : actor.queue.dropLast.count tail = 0 := by
      have htotal := hcount tail
      change actor.queue.count tail = 1 at hq
      rw [if_pos rfl] at htotal
      omega
    change actor.worker.stage tail = .none at hstage
    simp [MediaActor.view, setRequest, setCall, hne, Ne.symm hne, hzero, hstage]
  · have hdrop : actor.queue.dropLast.count other = actor.queue.count other := by
      rw [hcount other, if_neg (Ne.symm hother), Nat.add_zero]
    by_cases heq : other = key
    · subst heq
      convert hview using 1
      simp [MediaActor.view, setRequest, setCall, enter, hdrop]
    · convert h.view other using 1
      simp [MediaActor.view, setRequest, setCall, heq, Ne.symm heq, hdrop]

lemma Sound.push {wait : Bool}
    (hcall : actor.calls key = .created wait forever) (hreq : actor.requests key = some request) :
    (actor.push config key request wait forever).Sound := by
  have hnew : (actor.view key).call.isCreated := by
    change (actor.calls key).isCreated = true
    rw [hcall]
    rfl
  unfold MediaActor.push
  split
  · exact h.refuse hnew .queueFull
  have hview := (h.view key).enter hnew hreq (actor.lastCommandId + 1) wait forever
  refine h.of_view key rfl ?_ fun other hother => ?_
  · convert hview using 1
    simp [MediaActor.view, setRequest, setCall, queuePushLocked, enter]
  · simp [MediaActor.view, setRequest, setCall, queuePushLocked, hother, Ne.symm hother]

lemma Sound.leave (hcall : actor.calls key = .waiting forever)
    (hreq : actor.requests key = some request) (status : MediaActorSubmitStatus) :
    (actor.leave key request status).Sound := by
  have hwait : (actor.view key).call.isWaiting := by
    change (actor.calls key).isWaiting = true
    rw [hcall]
    rfl
  have hview := (h.view key).leave hreq hwait status
  unfold MediaActor.leave
  refine h.of_view key (dropped_fault _) ?_ fun other hother => ?_
  · rw [view_dropped]
    convert hview using 1
    simp [MediaActor.view, setRequest, setCall, RequestView.leave]
  · rw [view_dropped]
    simp [MediaActor.view, setRequest, setCall, hother]

lemma Sound.freeDying (key : ℕ) : (actor.freeDying key).Sound := by
  unfold MediaActor.freeDying
  split_ifs with hmem
  · have hdying : (actor.view key).dying ≠ 0 :=
      Nat.pos_iff_ne_zero.mp (count_pos_iff.mpr hmem)
    cases hreq : actor.requests key with
    | none => exact absurd ((h.view key).gone hreq).2.2.1 hdying
    | some request =>
      have hview := (h.view key).free hreq hdying
      unfold requestFree
      simp only [hreq]
      refine h.of_view key rfl ?_ fun other hother => ?_
      · convert hview using 1
        simp only [MediaActor.view, setRequest, free, Function.update_self,
          count_erase_self, true_and]
        split <;> simp
      · rw [RequestView.ext_iff]
        simp only [MediaActor.view, setRequest, Function.update_of_ne hother,
          count_erase_of_ne hother, true_and, and_true]
        split <;> simp [hother]
  · exact h

/-- `actor_submit` under its first lock. -/
lemma Sound.submit (key : ℕ) : (actor.submit config key).Sound := by
  unfold MediaActor.submit
  split
  · rename_i wait forever hcall
    have hnew : (actor.view key).call.isCreated := by
      change (actor.calls key).isCreated = true
      rw [hcall]
      rfl
    obtain ⟨request, hreq⟩ := (h.view key).some_of_created hnew
    change actor.requests key = some request at hreq
    simp only [hreq]
    split
    · exact h.refuse hnew .notRunning
    split
    · exact h.refuse hnew .shuttingDown
    split_ifs with hwait
    · split
      · exact h.push hcall hreq
      rename_i tail htail
      have hheld : (actor.view tail).parties ≠ 0 := by
        have hq := (h.queued (mem_of_getLast? htail)).1
        unfold parties held
        omega
      obtain ⟨queued, hq⟩ := (h.view tail).some_of_parties hheld
      change actor.requests tail = some queued at hq
      simp only [hq]
      split
      · exact h.replaceTail htail (hwait.1 ▸ hcall) hreq
      · exact h.push hcall hreq
    · exact h.push hcall hreq
  · exact h

/-- `actor_submit` under its second lock. -/
lemma Sound.wake (key : ℕ) (expired : Bool) : (actor.wake key expired).Sound := by
  unfold MediaActor.wake
  split
  · rename_i forever hcall
    have hparties : (actor.view key).parties ≠ 0 := by
      have hwait : (actor.view key).call.isWaiting := by
        change (actor.calls key).isWaiting = true
        rw [hcall]
        rfl
      unfold parties
      rw [if_pos hwait]
      omega
    obtain ⟨request, hreq⟩ := (h.view key).some_of_parties hparties
    change actor.requests key = some request at hreq
    simp only [hreq]
    split
    · exact h.leave hcall hreq request.completionStatus
    split
    · exact h.leave hcall hreq .timeout
    · exact h
  · exact h

/-! ## The worker -/

lemma Sound.goOn (key : ℕ) (stage : ActorStage) (executions : ℕ)
    (hheld : (actor.view key).held = 1) (hfault : next.fault = actor.fault)
    (hstage : stage ≠ .none) (hruns : stage.runs = (actor.view key).stage.runs + executions)
    (hkey : next.view key = (actor.view key).advance stage executions)
    (hother : ∀ other ≠ key, next.view other = actor.view other) : next.Sound :=
  h.of_view key hfault (hkey ▸ (h.view key).advance hheld hstage hruns) hother

lemma Sound.held_of_stage (key : ℕ) (hstage : (actor.view key).stage ≠ .none) :
    (actor.view key).held = 1 ∧ (actor.view key).queued = 0 := by
  have hheld := h.held_le key
  unfold held at hheld ⊢
  rw [if_neg hstage] at hheld ⊢
  omega

lemma Sound.some_of_stage (key : ℕ) (hstage : (actor.view key).stage ≠ .none) :
    ∃ request, actor.requests key = some request := by
  have hheld := (h.held_of_stage key hstage).1
  refine (h.view key).some_of_parties ?_
  unfold parties
  omega

lemma Sound.workerTop : (actor.workerTop config).Sound := by
  unfold MediaActor.workerTop
  split
  · rename_i processed hwork
    have hpump : { actor with worker := .pumping }.Sound :=
      h.of_same rfl fun key => by simp [MediaActor.view, hwork, ActorWorker.stage]
    have hfinish : { actor with worker := .finishing }.Sound :=
      h.of_same rfl fun key => by simp [MediaActor.view, hwork, ActorWorker.stage]
    split
    · exact hpump
    split
    · exact hfinish
    split
    · exact hpump
    split
    · exact hpump
    rename_i key queue hqueue
    have hmem : key ∈ actor.queue := hqueue ▸ .head _
    obtain ⟨hq, hstage⟩ := h.queued hmem
    have hheld : (actor.view key).held = 1 := by
      rw [held, if_pos hstage, hq]
    obtain ⟨request, hreq⟩ := (h.view key).some_of_parties (by unfold parties; omega)
    change actor.requests key = some request at hreq
    simp only [hreq]
    refine h.goOn key .validating 0 hheld rfl nofun (by rw [hstage]; rfl) ?_ fun other hother => ?_
    · have hcount : queue.count key = 0 := by
        change actor.queue.count key = 1 at hq
        rw [hqueue, count_cons_self] at hq
        omega
      simp [MediaActor.view, hcount, ActorWorker.stage, advance]
    · simp [MediaActor.view, hqueue, hwork, ActorWorker.stage, Ne.symm hother]
  · exact h

lemma Sound.validated (valid : Bool) : (actor.validated valid).Sound := by
  unfold MediaActor.validated
  split
  · rename_i key processed hwork
    split
    · exact h
    have hstage : (actor.view key).stage = .validating := by
      change actor.worker.stage key = .validating
      rw [hwork]
      simp [ActorWorker.stage]
    obtain ⟨hheld, hq⟩ := h.held_of_stage key (by rw [hstage]; exact nofun)
    obtain ⟨request, hreq⟩ := h.some_of_stage key (by rw [hstage]; exact nofun)
    change actor.queue.count key = 0 at hq
    simp only [hreq]
    split
    · refine h.goOn key .executing 1 hheld rfl nofun (by rw [hstage]; rfl) ?_ fun other hother => ?_
      · simp [MediaActor.view, ActorWorker.stage, advance, hq]
      · simp [MediaActor.view, ActorWorker.stage, hwork, Ne.symm hother]
    · refine h.goOn key (.completing .stale) 0 hheld rfl nofun
        (by rw [hstage]; rfl) ?_ fun other hother => ?_
      · simp [MediaActor.view, ActorWorker.stage, advance, hq]
      · simp [MediaActor.view, ActorWorker.stage, hwork, Ne.symm hother]
  · exact h

lemma Sound.executed (ok : Bool) : (actor.executed ok).Sound := by
  unfold MediaActor.executed
  split
  · rename_i key processed hwork
    split
    · exact h
    have hstage : (actor.view key).stage = .executing := by
      change actor.worker.stage key = .executing
      rw [hwork]
      simp [ActorWorker.stage]
    obtain ⟨hheld, hq⟩ := h.held_of_stage key (by rw [hstage]; exact nofun)
    obtain ⟨request, hreq⟩ := h.some_of_stage key (by rw [hstage]; exact nofun)
    change actor.queue.count key = 0 at hq
    simp only [hreq]
    refine h.goOn key (.completing (if ok then .executed else .executionFailed)) 0 hheld rfl nofun
      (by rw [hstage]; cases ok <;> rfl) ?_ fun other hother => ?_
    · simp [MediaActor.view, ActorWorker.stage, advance, hq]
    · simp [MediaActor.view, ActorWorker.stage, hwork, Ne.symm hother]
  · exact h

lemma Sound.completed : actor.completed.Sound := by
  unfold MediaActor.completed
  split
  · rename_i key processed status hwork
    have hstage : (actor.view key).stage = .completing status := by
      change actor.worker.stage key = .completing status
      rw [hwork]
      simp [ActorWorker.stage]
    obtain ⟨hheld, hq⟩ := h.held_of_stage key (by rw [hstage]; exact nofun)
    change actor.queue.count key = 0 at hq
    refine sound_requestCompleteLocked h.untouched (fun other hother => ?_) (actor.view key)
      (h.view key) hheld (by rw [hstage]; rfl) ?_
    · convert h.view other using 1
      simp [MediaActor.view, hwork, ActorWorker.stage, Ne.symm hother]
    · simp [MediaActor.view, hq, ActorWorker.stage]
  · exact h

end

/-! ## Every step -/

lemma ActorWorker.stage_of_idle {worker : ActorWorker} (h : worker = .absent ∨ worker = .exited)
    (key : ℕ) : worker.stage key = .none := by
  rcases h with rfl | rfl <;> rfl

variable (h : actor.Sound)

include h

lemma Sound.start (hlife : actor.Lifecycle) : (actor.start config).Sound := by
  unfold MediaActor.start
  split
  · exact h
  split
  · exact h
  rename_i hrun
  have hstage := ActorWorker.stage_of_idle (hlife.idle (Bool.not_eq_true _ ▸ hrun))
  split
  · exact h
  exact h.of_same rfl fun key => by
    simp only [MediaActor.view, hstage]
    rfl

lemma Sound.startThread (hlife : actor.Lifecycle) (created : Bool) :
    (actor.startThread created).Sound := by
  unfold MediaActor.startThread
  split
  · exact h
  rename_i hstart
  have habsent := (hlife.creating (not_not.mp hstart)).1
  split
  · exact h.of_same rfl fun key => by simp [MediaActor.view, habsent, ActorWorker.stage]
  · exact h.of_same rfl fun key => rfl

lemma Sound.destroy : actor.destroy.Sound := by
  unfold MediaActor.destroy
  split
  · exact h
  · exact h.actorRejectPendingLocked.of_same rfl fun key => rfl

lemma Sound.rejectAll {worker : ActorWorker}
    (hidle : ∀ key, actor.worker.stage key = .none) (hnext : ∀ key, worker.stage key = .none) :
    { actor.actorRejectPendingLocked with worker }.Sound := by
  have hwork : actor.actorRejectPendingLocked.worker = actor.worker :=
    (rejectLoop_same actor.queue actor rfl).2.1
  refine h.actorRejectPendingLocked.of_same rfl fun key => ?_
  simp only [MediaActor.view, hwork, hidle, hnext]

lemma Sound.initialized (ok : Bool) : (actor.initialized ok).Sound := by
  unfold MediaActor.initialized
  split
  · exact h
  rename_i hwork
  rw [not_or, not_not] at hwork
  have hidle : ∀ key, actor.worker.stage key = .none := fun key => by
    rw [hwork.1]
    rfl
  split
  · exact h.of_same rfl fun key => by simp [MediaActor.view, hwork.1, ActorWorker.stage]
  have hnext : { actor with
      initializing := false
      ready := ok
      initializationFailed := !ok
      dispatchEnabled := ok && actor.dispatchRequested
      running := false
      accepting := false }.Sound := h.of_same rfl fun key => rfl
  exact hnext.rejectAll hidle fun key => rfl

lemma Sound.finish : actor.finish.Sound := by
  unfold MediaActor.finish
  split_ifs with hwork
  · exact h
  refine h.rejectAll (fun key => ?_) fun key => rfl
  rw [not_not.mp hwork]
  rfl

/-- **Every step keeps what is kept of each request.** -/
lemma Sound.step (hlife : actor.Lifecycle) (step : ActorStep) :
    (actorStep config actor step).Sound := by
  cases step with
  | create command wait forever => exact h.create command wait forever
  | submit key => exact h.submit key
  | wake key expired => exact h.wake key expired
  | free key => exact h.freeDying key
  | directBegin command =>
    unfold actorStep directBegin
    dsimp only
    split
    · exact h
    split
    · exact h
    · exact h.of_same rfl fun key => rfl
  | directValidated | directDone | startDone | activate | stop | stopSelf | join =>
    simp only [actorStep, directValidated, directDone, startDone, activate, stop, stopSelf, join]
    split <;> exact h.of_same rfl fun key => rfl
  | start => exact h.start hlife
  | startThread created => exact h.startThread hlife created
  | quiesce => exact h.of_same rfl fun key => rfl
  | destroy => exact h.destroy
  | initialized ok => exact h.initialized ok
  | workerTop => exact h.workerTop
  | validated valid => exact h.validated valid
  | executed ok => exact h.executed ok
  | completed => exact h.completed
  | pumped | finalized =>
    simp only [actorStep, pumped, finalized]
    split_ifs with hwork
    · exact h
    · rw [not_or, not_not] at hwork
      exact h.of_same rfl fun key => by simp [MediaActor.view, hwork.1, ActorWorker.stage]
  | finish => exact h.finish
end MediaActor

/-! ## Main results -/

/-- The states of the runs of an actor. -/
def ActorReachable (config : MediaActorConfig) (actor : MediaActor) : Prop :=
  Runs.Reachable (actorStep config) .initial (fun _ _ => True) actor

variable {config : MediaActorConfig} {actor : MediaActor}

lemma lifecycle_initial : initial.Lifecycle :=
  ⟨fun _ => .inl rfl, nofun, nofun, fun _ => rfl, nofun⟩

lemma sound_initial : initial.Sound :=
  ⟨rfl, fun key => by constructor <;> simp [view, initial,
    parties, held, ActorWorker.stage, isWaiting,
    isCreated, ActorStage.runs, Nat.blt_eq]⟩

/-- **Every run keeps what is kept of each request.** -/
lemma ActorReachable.sound (h : ActorReachable config actor) : actor.Sound ∧ actor.Lifecycle :=
  Runs.Reachable.invariant (P := fun actor => actor.Sound ∧ actor.Lifecycle)
    ⟨sound_initial, lifecycle_initial⟩
    (fun _ step ⟨hsound, hlife⟩ _ => ⟨hsound.step hlife step, hlife.step step⟩) h

/-- The parties that refer to a request: the queue, the worker and its waiting call. -/
def MediaActor.holders (actor : MediaActor) (key : ℕ) : ℕ :=
  (if key ∈ actor.queue then 1 else 0) + (if actor.worker.key = some key then 1 else 0) +
    if (actor.calls key).isWaiting then 1 else 0

/-- Somebody has a request: a party refers to it, its call has not submitted it, or a thread that took
its count to zero is about to free it. -/
def MediaActor.InUse (actor : MediaActor) (key : ℕ) : Prop :=
  actor.holders key ≠ 0 ∨ (actor.calls key).isCreated = true ∨ key ∈ actor.dying

lemma stage_eq_none {worker : ActorWorker} {key : ℕ} :
    worker.stage key = .none ↔ worker.key ≠ some key := by
  cases worker <;> simp [ActorWorker.stage, ActorWorker.key]

lemma MediaActor.Sound.holders_eq (h : actor.Sound) (key : ℕ) :
    actor.holders key = (actor.view key).parties := by
  have hheld := h.held_le key
  unfold holders parties held at *
  have hcount : (if key ∈ actor.queue then 1 else 0) = (actor.view key).queued := by
    have hle : (actor.view key).queued ≤ 1 := by omega
    change actor.queue.count key ≤ 1 at hle
    split_ifs with hmem
    · have hpos := count_pos_iff.mpr hmem
      change 1 = actor.queue.count key
      omega
    · exact (count_eq_zero_of_not_mem hmem).symm
  have hstage : (if actor.worker.key = some key then 1 else 0) =
      if (actor.view key).stage = .none then 0 else 1 := by
    change _ = if actor.worker.stage key = .none then 0 else 1
    by_cases hkey : actor.worker.key = some key
    · rw [if_pos hkey, if_neg (fun hnone => stage_eq_none.mp hnone hkey)]
    · rw [if_neg hkey, if_pos (stage_eq_none.mpr hkey)]
  rw [hcount, hstage]
  rfl

/-- **The lifetime of a request.** No step touches a request that was freed; the count of a request that
was submitted is the number of the parties that hold it, and it is zero until then; and a request that
was created is freed, and the object that it retained is released, once nobody has it and only then. -/
theorem request_lifetime (h : ActorReachable config actor) :
    actor.fault = false ∧
      (∀ key request, actor.requests key = some request →
        request.references = if (actor.calls key).isCreated then 0 else actor.holders key) ∧
      ∀ key < actor.created, (actor.requests key = none ↔ ¬actor.InUse key) ∧
        (actor.InUse key → actor.releases key = 0 ∧ actor.payloadReleases key = 0) ∧
        (¬actor.InUse key → actor.releases key = 1 ∧
          actor.payloadReleases key = actor.retains key) := by
  obtain ⟨hsound, -⟩ := h.sound
  refine ⟨hsound.untouched, fun key request hrequest => ?_, fun key hkey => ?_⟩
  · split_ifs with hcreated
    · exact ((hsound.view key).unsubmitted request hrequest hcreated).2.2.1
    · rw [hsound.holders_eq]
      exact ((hsound.view key).counted request hrequest (Bool.not_eq_true _ ▸ hcreated)).1
  have hknown : (actor.view key).known = true := Nat.blt_eq.mpr hkey
  cases hrequest : actor.requests key with
  | none =>
    obtain ⟨hparties, hcreated, hdying, hreleases, hpayload⟩ := (hsound.view key).gone hrequest
    have hunused : ¬actor.InUse key := by
      rintro (hholders | hcall | hmem)
      · exact hholders (hsound.holders_eq key ▸ hparties)
      · exact absurd hcall (Bool.eq_false_iff.mp hcreated)
      · exact absurd (List.count_pos_iff.mpr hmem) (Nat.not_lt.mpr (Nat.le_of_eq hdying))
    rw [hknown, if_pos rfl] at hreleases
    exact ⟨⟨fun _ => hunused, fun _ => rfl⟩, fun hused => absurd hused hunused,
      fun _ => ⟨hreleases, hpayload⟩⟩
  | some request =>
    have hused : actor.InUse key := by
      by_cases hcreated : (actor.calls key).isCreated = true
      · exact .inr (.inl hcreated)
      obtain ⟨hreferences, -, hdying⟩ :=
        (hsound.view key).counted request hrequest (Bool.not_eq_true _ ▸ hcreated)
      by_cases hzero : request.references = 0
      · rw [if_pos hzero] at hdying
        exact .inr (.inr (List.count_pos_iff.mp (by
          change 0 < (actor.view key).dying
          omega)))
      · refine .inl ?_
        rw [hsound.holders_eq, ← hreferences]
        exact hzero
    obtain ⟨hreleases, hpayload, -⟩ := (hsound.view key).kept request hrequest
    exact ⟨⟨nofun, absurd hused⟩, fun _ => ⟨hreleases, hpayload⟩, absurd hused⟩

/-- An actor with room for two commands, one of them reserved. -/
def smallActorConfig : MediaActorConfig where
  capacity := 2
  reservedCapacity := 1
  maxCommandBurst := 4
  startSuspended := false
  initializes := true
  capacity_pos := by decide
  reserved_lt := by decide
  burst_pos := by decide

/-- A command that carries an object. -/
def carryingCommand (kind : MediaActorCommandKind) : MediaActorCommand :=
  { kind, producer := .test, sessionToken := 0, generation := 0, text := none, metadata := none
    value := 0, flag := false, object := some 7, retains := true, releases := true }

/-- The wait for a command ends while the worker executes it, and the worker frees it. -/
def timeoutRun : List ActorStep :=
  [.start, .startThread true, .startDone, .initialized true,
    .create (carryingCommand .bindStream) true false, .submit 0, .workerTop, .validated true,
    .wake 0 true, .executed true, .completed, .free 0]

/-- The state behind that run. -/
def timeoutActor : MediaActor := Runs.run (actorStep smallActorConfig) .initial timeoutRun

/-- The command whose wait ended is freed once, by the worker. -/
theorem request_lifetime_timeout :
    timeoutActor.calls 0 = .returned .timeout ∧ ¬timeoutActor.InUse 0 ∧
      timeoutActor.requests 0 = none ∧ timeoutActor.releases 0 = 1 ∧
        timeoutActor.payloadReleases 0 = 1 := by
  have hunused : ¬timeoutActor.InUse 0 := by
    rintro (hholders | hcreated | hdying)
    · exact hholders (by decide)
    · exact absurd hcreated (by decide)
    · exact absurd hdying (by decide)
  have hreachable : ActorReachable smallActorConfig timeoutActor :=
    Runs.Reachable.start.run timeoutRun
  obtain ⟨hnone, -, hreleased⟩ := (request_lifetime hreachable).2.2 0 (by decide)
  obtain ⟨hreleases, hpayload⟩ := hreleased hunused
  exact ⟨by decide, hunused, hnone.mpr hunused, hreleases, hpayload.trans (by decide)⟩

end NXCast
