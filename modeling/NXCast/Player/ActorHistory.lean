import NXCast.Player.ActorOutcomes

/-!
# What the actor does not take back

A request keeps its name, the command it was created with and the outcomes it has, and the worker
completes the request it has come to the end of.
-/

namespace NXCast

open MediaActor ActorWorker List Function

namespace MediaActor

variable {config : MediaActorConfig} {actor next last : MediaActor}

/-- What a step leaves of what has happened. -/
structure Remembers (actor next : MediaActor) : Prop where
  created : actor.created ≤ next.created
  commands : ∀ key < actor.created, next.commands key = actor.commands key
  outcomes : ∀ key status, status ∈ actor.outcomes key → status ∈ next.outcomes key
  completing : ∀ key status, actor.worker.stage key = .completing status →
    next.worker.stage key = .completing status ∨ status ∈ next.outcomes key

lemma Remembers.of_eq (hnew : next.created = actor.created) (hcmds : next.commands = actor.commands)
    (houtcomes : next.outcomes = actor.outcomes) (hwork : next.worker = actor.worker) :
    actor.Remembers next where
  created := Nat.le_of_eq hnew.symm
  commands _ _ := by rw [hcmds]
  outcomes _ _ h := houtcomes ▸ h
  completing _ _ h := .inl (hwork ▸ h)

lemma Remembers.of_worker (hwork : ∀ key status, actor.worker.stage key ≠ .completing status)
    (hnew : next.created = actor.created) (hcmds : next.commands = actor.commands)
    (houtcomes : next.outcomes = actor.outcomes) : actor.Remembers next where
  created := Nat.le_of_eq hnew.symm
  commands _ _ := by rw [hcmds]
  outcomes _ _ h := houtcomes ▸ h
  completing key status h := absurd h (hwork key status)

lemma Remembers.refl (actor : MediaActor) : actor.Remembers actor := .of_eq rfl rfl rfl rfl

lemma Remembers.trans (h : actor.Remembers next) (h' : next.Remembers last) :
    actor.Remembers last where
  created := Nat.le_trans h.created h'.created
  commands key hkey :=
    (h'.commands key (Nat.lt_of_lt_of_le hkey h.created)).trans (h.commands key hkey)
  outcomes key status hmem := h'.outcomes key status (h.outcomes key status hmem)
  completing key status hstage :=
    (h.completing key status hstage).elim (h'.completing key status)
      fun hmem => .inr (h'.outcomes key status hmem)

/-! ## Operations -/

lemma commands_requestCompleteLocked (actor : MediaActor) (key : ℕ)
    (status : MediaActorSubmitStatus) :
    (actor.requestCompleteLocked key status).created = actor.created ∧
      (actor.requestCompleteLocked key status).commands = actor.commands := by
  unfold requestCompleteLocked dropped
  split
  · exact ⟨rfl, rfl⟩
  · split
    all_goals exact ⟨rfl, rfl⟩

variable (key : ℕ)

lemma remembers_requestCompleteLocked (status : MediaActorSubmitStatus) :
    actor.Remembers (actor.requestCompleteLocked key status) := by
  obtain ⟨hnew, hcmds⟩ := commands_requestCompleteLocked actor key status
  refine ⟨Nat.le_of_eq hnew.symm, fun _ _ => by rw [hcmds], fun other found hfound => ?_,
    fun other found hfound => .inl ?_⟩
  · rw [outcomes_requestCompleteLocked]
    split
    · by_cases heq : other = key
      · subst heq
        rw [update_self]
        exact .tail _ hfound
      · rw [update_of_ne heq]
        exact hfound
    · exact hfound
  · rw [(requestCompleteLocked_same actor key status).2.1]
    exact hfound

lemma remembers_rejectLoop (queue : List ℕ) : actor.Remembers (rejectLoop queue actor) := by
  induction queue generalizing actor with
  | nil => exact .refl actor
  | cons key queue ih =>
    have hpop : actor.Remembers { actor with queue } := .of_eq rfl rfl rfl rfl
    exact (hpop.trans (remembers_requestCompleteLocked key .shuttingDown)).trans ih

lemma remembers_create (command : MediaActorCommand) (wait forever : Bool) :
    actor.Remembers (actor.create command wait forever) := by
  unfold create
  split
  · refine ⟨Nat.le_succ _, fun key hkey => ?_, fun _ _ h => h, fun _ _ h => .inl h⟩
    exact update_of_ne (Nat.ne_of_lt hkey) _ _
  · exact .refl actor

lemma remembers_push (request : MediaActorRequest) (wait forever : Bool) :
    actor.Remembers (actor.push config key request wait forever) := by
  unfold push
  split
  all_goals exact .of_eq rfl rfl rfl rfl

lemma remembers_replaceTail (tail key : ℕ) (request : MediaActorRequest) :
    actor.Remembers (actor.replaceTail tail key request) := by
  refine .trans ?_ (remembers_requestCompleteLocked tail .accepted)
  exact .of_eq rfl rfl rfl rfl

lemma remembers_submit : actor.Remembers (actor.submit config key) := by
  unfold submit
  split
  · split
    · exact .of_eq rfl rfl rfl rfl
    split
    · exact .of_eq rfl rfl rfl rfl
    split
    · exact .of_eq rfl rfl rfl rfl
    split
    · split
      · exact remembers_push _ _ _ _
      split
      · exact .of_eq rfl rfl rfl rfl
      split
      · exact remembers_replaceTail _ _ _
      · exact remembers_push _ _ _ _
    · exact remembers_push _ _ _ _
  · exact .refl actor

lemma remembers_dropped (references : ℕ) : actor.Remembers (actor.dropped key references) := by
  unfold dropped
  split
  · exact .of_eq rfl rfl rfl rfl
  · exact .refl actor

lemma remembers_wake (expired : Bool) : actor.Remembers (actor.wake key expired) := by
  have hleave : ∀ request status, actor.Remembers (actor.leave key request status) := by
    intro request status
    refine .trans ?_ (remembers_dropped key _)
    exact .of_eq rfl rfl rfl rfl
  unfold wake
  split
  · split
    · exact .of_eq rfl rfl rfl rfl
    split
    · exact hleave _ _
    split
    · exact hleave _ _
    · exact .refl actor
  · exact .refl actor

lemma remembers_freeDying : actor.Remembers (actor.freeDying key) := by
  unfold freeDying requestFree
  split
  · split
    all_goals exact .of_eq rfl rfl rfl rfl
  · exact .refl actor

lemma remembers_completed (h : actor.Sound) : actor.Remembers actor.completed := by
  unfold completed
  split
  · rename_i key processed status hwork
    have hcompletes : { actor with currentCommandId := 0, worker := .top (processed + 1) }.Remembers
          ({ actor with
              currentCommandId := 0
              worker := .top (processed + 1) }.requestCompleteLocked key status) :=
      remembers_requestCompleteLocked key status
    refine ⟨hcompletes.created, hcompletes.commands, hcompletes.outcomes, ?_⟩
    intro other found hstage
    rw [hwork] at hstage
    obtain rfl | hne := eq_or_ne key other
    · obtain ⟨request, hreq⟩ := h.some_of_stage key (by simp [view, hwork, stage])
      rw [stage, if_pos rfl, ActorStage.completing.injEq] at hstage
      rw [outcomes_requestCompleteLocked, if_pos (by rw [hreq]; rfl), update_self, hstage]
      exact .inr mem_cons_self
    · rw [stage, if_neg hne] at hstage
      cases hstage
  · exact .refl actor

lemma key_rejectLoop {queue : List ℕ} (hqueue : actor.queue = queue)
    (hkey : actor.worker.key = none) : (rejectLoop queue actor).worker.key = none := by
  rw [(rejectLoop_same queue actor hqueue).2.1, hkey]

lemma stage_ne_of_key {worker : ActorWorker} (h : worker.key = none) (key : ℕ)
    (status : MediaActorSubmitStatus) : worker.stage key ≠ .completing status := by
  intro hstage
  have hnone : worker.stage key = .none := stage_eq_none.mpr (by rw [h]; exact Option.some_ne_none _ |>.symm)
  rw [hnone] at hstage
  cases hstage

/-- **One step.** -/
lemma remembers_step (h : actor.Sound) (hlife : actor.Lifecycle) (step : ActorStep) :
    actor.Remembers (actorStep config actor step) := by
  cases step with
  | create command wait forever => exact remembers_create command wait forever
  | submit key => exact remembers_submit key
  | wake key expired => exact remembers_wake key expired
  | free key => exact remembers_freeDying key
  | completed => exact remembers_completed h
  | quiesce => exact .of_eq rfl rfl rfl rfl
  | destroy =>
    unfold actorStep destroy
    dsimp only
    split
    · exact .refl actor
    · exact (remembers_rejectLoop actor.queue).trans (.of_eq rfl rfl rfl rfl)
  | finish =>
    unfold actorStep finish
    dsimp only
    split_ifs with hwork
    · exact .refl actor
    have hfinishing : actor.worker = .finishing := not_not.mp hwork
    have hrejected : actor.Remembers (rejectLoop actor.queue actor) := remembers_rejectLoop _
    have hkey : (rejectLoop actor.queue actor).worker.key = none :=
      key_rejectLoop rfl (by rw [hfinishing]; rfl)
    exact hrejected.trans (.of_worker (stage_ne_of_key hkey) rfl rfl rfl)
  | initialized ok =>
    unfold actorStep initialized
    dsimp only
    split
    · exact .refl actor
    rename_i hwork
    rw [not_or, not_not] at hwork
    have hkey : actor.worker.key = none := by
      rw [hwork.1]
      rfl
    split
    · exact .of_worker (stage_ne_of_key hkey) rfl rfl rfl
    have hstop : actor.Remembers { actor with
        initializing := false
        ready := ok
        initializationFailed := !ok
        dispatchEnabled := ok && actor.dispatchRequested
        running := false
        accepting := false } := .of_eq rfl rfl rfl rfl
    refine (hstop.trans (remembers_rejectLoop actor.queue)).trans
      (.of_worker (stage_ne_of_key ?_) rfl rfl rfl)
    exact key_rejectLoop rfl hkey
  | start =>
    unfold actorStep start
    dsimp only
    split
    · exact .refl actor
    split
    · exact .refl actor
    rename_i hrun
    have hkey : actor.worker.key = none := by
      rcases hlife.idle (Bool.not_eq_true _ ▸ hrun) with hwork | hwork
      all_goals
        rw [hwork]
        rfl
    split
    · exact .refl actor
    · exact .of_worker (stage_ne_of_key hkey) rfl rfl rfl
  | startThread created =>
    unfold actorStep startThread
    dsimp only
    split
    · exact .refl actor
    rename_i hstart
    have hkey : actor.worker.key = none := by
      rw [(hlife.creating (not_not.mp hstart)).1]
      rfl
    split
    · exact .of_worker (stage_ne_of_key hkey) rfl rfl rfl
    · exact .of_eq rfl rfl rfl rfl
  | directBegin command =>
    unfold actorStep directBegin
    dsimp only
    split
    · exact .refl actor
    split
    · exact .refl actor
    · exact .of_eq rfl rfl rfl rfl
  | workerTop =>
    unfold actorStep workerTop
    dsimp only
    split
    · rename_i processed hwork
      have hkey : actor.worker.key = none := by
        rw [hwork]
        rfl
      have hstage := stage_ne_of_key hkey
      split
      · exact .of_worker hstage rfl rfl rfl
      split
      · exact .of_worker hstage rfl rfl rfl
      split
      · exact .of_worker hstage rfl rfl rfl
      split
      · exact .of_worker hstage rfl rfl rfl
      split
      · exact .of_eq rfl rfl rfl rfl
      · exact .of_worker hstage rfl rfl rfl
    · exact .refl actor
  | validated valid =>
    unfold actorStep validated
    dsimp only
    split
    · rename_i key processed hwork
      have hstage : ∀ other status, actor.worker.stage other ≠ .completing status := by
        intro other status
        rw [hwork, stage]
        split <;> simp
      split
      · exact .refl actor
      split
      · exact .of_eq rfl rfl rfl rfl
      · split
        all_goals exact .of_worker hstage rfl rfl rfl
    · exact .refl actor
  | executed ok =>
    unfold actorStep executed
    dsimp only
    split
    · rename_i key processed hwork
      have hstage : ∀ other status, actor.worker.stage other ≠ .completing status := by
        intro other status
        rw [hwork, stage]
        split <;> simp
      split
      · exact .refl actor
      split
      · exact .of_eq rfl rfl rfl rfl
      · exact .of_worker hstage rfl rfl rfl
    · exact .refl actor
  | pumped =>
    unfold actorStep pumped
    dsimp only
    split_ifs with hwork
    · exact .refl actor
    · rw [not_or, not_not] at hwork
      exact .of_worker (stage_ne_of_key (by rw [hwork.1]; rfl)) rfl rfl rfl
  | finalized =>
    unfold actorStep finalized
    dsimp only
    split_ifs with hwork
    · exact .refl actor
    · rw [not_or, not_not] at hwork
      exact .of_worker (stage_ne_of_key (by rw [hwork.1]; rfl)) rfl rfl rfl
  | directValidated | directDone | startDone | activate | stop | stopSelf | join =>
    simp only [actorStep, directValidated, directDone, startDone, activate, stop, stopSelf, join]
    split <;> exact .of_eq rfl rfl rfl rfl

/-- What is known of a request that the worker completes, or has completed, with a status. -/
def EndsWith (actor : MediaActor) (key : ℕ) (status : MediaActorSubmitStatus) : Prop :=
  actor.worker.stage key = .completing status ∨ actor.outcomes key = [status]

variable {status : MediaActorSubmitStatus}

lemma Sound.outcomes_eq (h : actor.Sound) {key : ℕ}
    (hmem : status ∈ actor.outcomes key) : actor.outcomes key = [status] := by
  obtain ⟨hcount, hle⟩ := (h.view key).entered
  have hlen : (actor.outcomes key).length ≤ 1 := by
    change (actor.view key).outcomes.length ≤ 1
    omega
  obtain ⟨only, honly⟩ := length_eq_one_iff.mp (Nat.le_antisymm hlen (length_pos_of_mem hmem))
  rw [honly, mem_singleton] at hmem
  rw [honly, hmem]

lemma EndsWith.step {key : ℕ} (hends : actor.EndsWith key status)
    (hremembers : actor.Remembers next) (hnext : next.Sound) : next.EndsWith key status := by
  rcases hends with hstage | houtcome
  · exact (hremembers.completing key status hstage).imp_right hnext.outcomes_eq
  refine .inr (hnext.outcomes_eq (hremembers.outcomes key status ?_))
  rw [houtcome]
  exact mem_singleton_self _

/-- A request that ends with a status that is no execution has not been executed. -/
lemma EndsWith.not_mem_executions (h : actor.Sound) {key : ℕ}
    (hends : actor.EndsWith key status) (hstat : status.wasRun = false) :
    key ∉ actor.executions := by
  intro hmem
  have hpos : 0 < (actor.view key).executions := count_pos_iff.mpr hmem
  have hexec := (h.view key).executed
  obtain ⟨hcount, hle⟩ := (h.view key).entered
  rcases hends with hstage | houtcome
  · have hview : (actor.view key).stage = .completing status := hstage
    have hheld := (h.held_of_stage key (by rw [hview]; exact nofun)).1
    have hnone : (actor.view key).outcomes = [] := length_eq_zero_iff.mp (by omega)
    rw [hview, hnone, ActorStage.runs, hstat] at hexec
    simp at hexec
    omega
  have hview : (actor.view key).outcomes = [status] := houtcome
  rw [hview] at hcount hexec
  have hstage : (actor.view key).stage = .none := by
    by_contra hstage
    have hheld := (h.held_of_stage key hstage).1
    rw [hheld, length_singleton] at hcount
    omega
  rw [hstage, countP_singleton, hstat] at hexec
  simp [ActorStage.runs] at hexec
  omega

end MediaActor

end NXCast
