import NXCast.Player.ActorHistory
import NXCast.Player.Commands
import Mathlib.Data.List.Nodup

/-!
# The order of leases at the actor

A command passes the validation only while its lease is the current one, and until the generations wrap
around the current lease is that of the newest claim.  So the claims of the commands that pass follow
one another, and a command whose claim was superseded ends as stale.
-/

namespace NXCast

open Function MediaActor PlayerOwnership List

/-! ## What the steps of the actor leave -/

/-- The command of a nested call. -/
def ActorDirect.command : ActorDirect → MediaActorCommand
  | validating command _ => command
  | executing command _ => command

namespace MediaActor

variable {config : MediaActorConfig} {actor : MediaActor}

lemma requestCompleteLocked_calls (actor : MediaActor) (key : ℕ) (status : MediaActorSubmitStatus) :
    (actor.requestCompleteLocked key status).directs = actor.directs ∧
      (actor.requestCompleteLocked key status).executions = actor.executions := by
  unfold requestCompleteLocked dropped
  split
  · exact ⟨rfl, rfl⟩
  · split
    all_goals exact ⟨rfl, rfl⟩

lemma rejectLoop_calls (queue : List ℕ) (actor : MediaActor) :
    (rejectLoop queue actor).directs = actor.directs ∧
      (rejectLoop queue actor).executions = actor.executions := by
  induction queue generalizing actor with
  | nil => exact ⟨rfl, rfl⟩
  | cons key queue ih =>
    obtain ⟨hdirs, hexecs⟩ := requestCompleteLocked_calls { actor with queue } key .shuttingDown
    obtain ⟨ihdirects, ihexecutions⟩ := ih ({ actor with queue }.requestCompleteLocked key .shuttingDown)
    exact ⟨ihdirects.trans hdirs, ihexecutions.trans hexecs⟩

variable (key : ℕ)

lemma push_calls (request : MediaActorRequest) (wait forever : Bool) :
    (actor.push config key request wait forever).directs = actor.directs ∧
      (actor.push config key request wait forever).executions = actor.executions := by
  unfold push
  split
  all_goals exact ⟨rfl, rfl⟩

lemma submit_calls :
    (actor.submit config key).directs = actor.directs ∧
      (actor.submit config key).executions = actor.executions := by
  unfold submit
  split
  · split
    · exact ⟨rfl, rfl⟩
    split
    · exact ⟨rfl, rfl⟩
    split
    · exact ⟨rfl, rfl⟩
    split
    · split
      · exact push_calls _ _ _ _
      split
      · exact ⟨rfl, rfl⟩
      split
      · exact requestCompleteLocked_calls _ _ _
      · exact push_calls _ _ _ _
    · exact push_calls _ _ _ _
  · exact ⟨rfl, rfl⟩

lemma wake_calls (expired : Bool) :
    (actor.wake key expired).directs = actor.directs ∧
      (actor.wake key expired).executions = actor.executions := by
  unfold wake leave dropped
  split
  · split
    · exact ⟨rfl, rfl⟩
    split
    · split <;> exact ⟨rfl, rfl⟩
    split
    · split <;> exact ⟨rfl, rfl⟩
    · exact ⟨rfl, rfl⟩
  · exact ⟨rfl, rfl⟩

lemma freeDying_calls :
    (actor.freeDying key).directs = actor.directs ∧
      (actor.freeDying key).executions = actor.executions := by
  unfold freeDying requestFree
  split
  · split <;> exact ⟨rfl, rfl⟩
  · exact ⟨rfl, rfl⟩

/-- The steps that concern the actor alone execute nothing and are no nested call. -/
lemma inner_calls {step : ActorStep} (h : step.isInner = true) :
    (actorStep config actor step).directs = actor.directs ∧
      (actorStep config actor step).executions = actor.executions := by
  cases step with
  | create | directBegin | directValidated | directDone | validated | executed => cases h
  | submit key => exact submit_calls key
  | wake key expired => exact wake_calls key expired
  | free key => exact freeDying_calls key
  | quiesce => exact ⟨rfl, rfl⟩
  | destroy =>
    unfold actorStep destroy
    dsimp only
    split
    · exact ⟨rfl, rfl⟩
    · exact rejectLoop_calls actor.queue actor
  | finish =>
    unfold actorStep finish
    dsimp only
    split
    · exact ⟨rfl, rfl⟩
    · exact rejectLoop_calls actor.queue actor
  | initialized ok =>
    unfold actorStep initialized
    dsimp only
    split
    · exact ⟨rfl, rfl⟩
    split
    · exact ⟨rfl, rfl⟩
    · exact rejectLoop_calls actor.queue _
  | completed =>
    unfold actorStep completed
    dsimp only
    split
    · exact requestCompleteLocked_calls _ _ _
    · exact ⟨rfl, rfl⟩
  | start =>
    unfold actorStep start
    dsimp only
    split
    · exact ⟨rfl, rfl⟩
    split
    · exact ⟨rfl, rfl⟩
    · split <;> exact ⟨rfl, rfl⟩
  | startThread created =>
    unfold actorStep startThread
    dsimp only
    split
    · exact ⟨rfl, rfl⟩
    · split <;> exact ⟨rfl, rfl⟩
  | workerTop =>
    unfold actorStep workerTop
    dsimp only
    split
    · split
      · exact ⟨rfl, rfl⟩
      split
      · exact ⟨rfl, rfl⟩
      split
      · exact ⟨rfl, rfl⟩
      split
      · exact ⟨rfl, rfl⟩
      · split <;> exact ⟨rfl, rfl⟩
    · exact ⟨rfl, rfl⟩
  | startDone | activate | stop | stopSelf | join | pumped | finalized =>
    simp only [actorStep, startDone, activate, stop, stopSelf, join, pumped, finalized]
    split <;> exact ⟨rfl, rfl⟩

end MediaActor

/-! ## Claims -/

namespace PlayerOwnership

variable {lease : PlayerOwnershipLease} {o : PlayerOwnership}

lemma Extends.claim_eq {o' : PlayerOwnership} (h : o.Extends o') {n : ℕ}
    (hlease : o.claims.reverse[n]? = some lease) : o'.claims.reverse[n]? = some lease := by
  obtain ⟨newer, hclaim⟩ := reverse_prefix.mpr h.claims
  obtain ⟨hn, -⟩ := List.getElem?_eq_some_iff.mp hlease
  rw [← hclaim, getElem?_append_left hn, hlease]

lemma newest_claim (hhead : o.claims.head? = some lease) :
    0 < o.claims.length ∧ o.claims.reverse[o.claims.length - 1]? = some lease := by
  have hpositive : 0 < o.claims.length := by
    cases hclaim : o.claims with
    | nil => rw [hclaim] at hhead; cases hhead
    | cons => exact Nat.succ_pos _
  refine ⟨hpositive, ?_⟩
  rw [getElem?_reverse (by omega), ← hhead, head?_eq_getElem?]
  congr 1
  omega

lemma Sound.last_of_validate (h : o.Sound) (hstamp : o.stamps < 2 ^ 32) {n : ℕ}
    (hlease : o.claims.reverse[n]? = some lease) (hvalid : playerOwnershipValidate lease o = true) :
    n + 1 = o.claims.length := by
  obtain ⟨-, hhead⟩ := h.newest_of_validate hvalid
  have hnodup : o.claims.reverse.Nodup := nodup_reverse.mpr (h.nodup hstamp)
  obtain ⟨hn, hget⟩ := List.getElem?_eq_some_iff.mp hlease
  obtain ⟨hpositive, hlast⟩ := newest_claim hhead
  obtain ⟨hlen, hgetlast⟩ := List.getElem?_eq_some_iff.mp hlast
  have hsame := (hnodup.getElem_inj_iff).mp (hget.trans hgetlast.symm)
  omega

end PlayerOwnership

/-! ## Runs -/

namespace PlayerSystem

/-- A later command does not carry the lease of an earlier claim than one that has passed before. -/
def InClaimOrder (passed : List PassedCommand) : Prop :=
  passed.Pairwise fun later earlier =>
    ∀ m n, later.claim = some m → earlier.claim = some n → n ≤ m

/-- What every run keeps. -/
structure Orderly (config : MediaActorConfig) (s : PlayerSystem) : Prop where
  actor : ActorReachable config s.actor
  ownership : s.ownership.Sound
  carried : ∀ key n, s.carried key = some n → key < s.actor.created ∧
    ∃ command, s.actor.commands key = some command ∧ s.leaseOf n = some command.lease
  directs : List.Forall₂ (fun direct claim => ∀ n, claim = some n →
    s.leaseOf n = some direct.command.lease) s.actor.directs s.directs
  executions : s.passed.filterMap PassedCommand.request = s.actor.executions
  claimed : ∀ command ∈ s.passed, ∀ n, command.claim = some n → n < s.ownership.claims.length
  ordered : s.ownership.stamps < 2 ^ 32 → InClaimOrder s.passed
  judged : s.ownership.stamps < 2 ^ 32 → ∀ key ∈ s.judged, s.actor.EndsWith key .stale

variable {config : MediaActorConfig} {s next : PlayerSystem}

lemma orderly_initial (config : MediaActorConfig) : Orderly config initial where
  actor := .start
  ownership := PlayerOwnership.sound_initial
  carried _ _ h := nomatch h
  directs := .nil
  executions := rfl
  claimed _ h := absurd h not_mem_nil
  ordered _ := .nil
  judged _ _ h := absurd h not_mem_nil

section

variable (h : s.Orderly config)

include h

lemma Orderly.withOwnership {ownership : PlayerOwnership}
    (hsound : ownership.Sound) (hext : s.ownership.Extends ownership) :
    { s with ownership }.Orderly config where
  actor := h.actor
  ownership := hsound
  carried key n hcarried := by
    obtain ⟨hkey, command, hcmd, hlease⟩ := h.carried key n hcarried
    exact ⟨hkey, command, hcmd, hext.claim_eq hlease⟩
  directs := h.directs.imp fun _ _ hlease n hn => hext.claim_eq (hlease n hn)
  executions := h.executions
  claimed command hmem n hn :=
    Nat.lt_of_lt_of_le (h.claimed command hmem n hn) hext.claims.length_le
  ordered hstamp := h.ordered (Nat.lt_of_le_of_lt hext.stamps hstamp)
  judged hstamp := h.judged (Nat.lt_of_le_of_lt hext.stamps hstamp)

/-- The actor makes a step, and its nested calls and what has passed are known. -/
lemma Orderly.act_directs (step : ActorStep) {directs : List (Option ℕ)}
    {passed : List PassedCommand}
    (hdirs : List.Forall₂ (fun direct claim => ∀ n, claim = some n → s.leaseOf n = some direct.command.lease) (actorStep config s.actor step).directs directs)
    (hexecs : passed.filterMap PassedCommand.request = (actorStep config s.actor step).executions)
    (hclaim : ∀ command ∈ passed, ∀ n, command.claim = some n → n < s.ownership.claims.length)
    (hordered : s.ownership.stamps < 2 ^ 32 → InClaimOrder passed) :
    { s.act config step with directs, passed }.Orderly config := by
  have hnext : ActorReachable config (actorStep config s.actor step) := h.actor.step step trivial
  have hremembers : s.actor.Remembers (actorStep config s.actor step) :=
    remembers_step h.actor.sound.1 h.actor.sound.2 step
  refine ⟨hnext, h.ownership, fun key n hcarried => ?_, hdirs, hexecs, hclaim, hordered,
    fun hstamp key hkey => (h.judged hstamp key hkey).step hremembers hnext.sound.1⟩
  obtain ⟨hkey, command, hcmd, hlease⟩ := h.carried key n hcarried
  exact ⟨Nat.lt_of_lt_of_le hkey hremembers.created, command,
    (hremembers.commands key hkey).trans hcmd, hlease⟩

lemma Orderly.act (step : ActorStep)
    (hdirs : (actorStep config s.actor step).directs = s.actor.directs)
    (hexecs : (actorStep config s.actor step).executions = s.actor.executions) :
    (s.act config step).Orderly config :=
  h.act_directs step (hdirs ▸ h.directs) (h.executions.trans hexecs.symm) h.claimed h.ordered

variable {command : MediaActorCommand}

lemma Orderly.newest (hstamp : s.ownership.stamps < 2 ^ 32)
    {n : ℕ} (hlease : s.leaseOf n = some command.lease)
    (hvalid : playerValidateActorCommand command s.ownership = true) :
    n + 1 = s.ownership.claims.length := by
  unfold playerValidateActorCommand at hvalid
  split_ifs at hvalid with howner
  · have hmem : command.lease ∈ s.ownership.claims :=
      mem_reverse.mp (mem_of_getElem? hlease)
    exact absurd howner (h.ownership.valid _ hmem).1
  · exact h.ownership.last_of_validate hstamp hlease hvalid

lemma Orderly.pass (request : Option ℕ)
    {claim : Option ℕ} (hlease : ∀ n, claim = some n → s.leaseOf n = some command.lease)
    (hvalid : playerValidateActorCommand command s.ownership = true) :
    (∀ passed ∈ (⟨request, claim⟩ :: s.passed : List PassedCommand), ∀ n, passed.claim = some n →
      n < s.ownership.claims.length) ∧
    (s.ownership.stamps < 2 ^ 32 → InClaimOrder (⟨request, claim⟩ :: s.passed)) := by
  constructor
  · intro passed hmem n hn
    obtain rfl | hmem := mem_cons.mp hmem
    · have hget := hlease n hn
      obtain ⟨hlt, -⟩ := List.getElem?_eq_some_iff.mp hget
      rwa [length_reverse] at hlt
    · exact h.claimed passed hmem n hn
  · intro hstamp
    refine pairwise_cons.mpr ⟨fun earlier hearlier m n hm hn => ?_, h.ordered hstamp⟩
    have hlast := h.newest hstamp (hlease m hm) hvalid
    have hpre := h.claimed earlier hearlier n hn
    omega

/-! ### Steps -/

lemma Orderly.submit (submission : PlayerSubmission) (claim : Option ℕ)
    (initialized wait forever : Bool) :
    (s.submit config submission claim initialized wait forever).Orderly config := by
  unfold PlayerSystem.submit
  split
  · exact h
  rename_i command hcmd
  split_ifs with hpresents
  · obtain ⟨hpresents, hvalid⟩ := hpresents
    have hfields : (s.actor.create command wait forever).directs = s.actor.directs ∧
        (s.actor.create command wait forever).executions = s.actor.executions ∧
        (s.actor.create command wait forever).created = s.actor.created + 1 ∧
        (s.actor.create command wait forever).commands =
          update s.actor.commands s.actor.created (some command) := by
      unfold create
      rw [if_pos hvalid]
      exact ⟨rfl, rfl, rfl, rfl⟩
    obtain ⟨hdirs, hexecs, hnew, hcmds⟩ := hfields
    have hact := h.act (.create command wait forever) hdirs hexecs
    refine { hact with carried := fun key n hcarried => ?_ }
    change update s.carried s.actor.created claim key = some n at hcarried
    by_cases hkey : key = s.actor.created
    · subst hkey
      rw [update_self] at hcarried
      subst hcarried
      refine ⟨?_, command, ?_, hpresents⟩
      · show s.actor.created < (s.actor.create command wait forever).created
        rw [hnew]
        exact Nat.lt_succ_self _
      · show (s.actor.create command wait forever).commands s.actor.created = some command
        rw [hcmds, update_self]
    · rw [update_of_ne hkey] at hcarried
      exact hact.carried key n hcarried
  · exact h

end

lemma directs_directBegin {actor : MediaActor} (command : MediaActorCommand) :
    (actor.directBegin command).executions = actor.executions ∧
      ((actor.directBegin command).directs = actor.directs ∨ ∃ commandId,
        (actor.directBegin command).directs = .validating command commandId :: actor.directs) := by
  unfold directBegin
  split
  · exact ⟨rfl, .inl rfl⟩
  split
  · exact ⟨rfl, .inl rfl⟩
  · exact ⟨rfl, .inr ⟨_, rfl⟩⟩

variable (h : s.Orderly config)

include h

lemma Orderly.direct (submission : PlayerSubmission) (claim : Option ℕ)
    (initialized : Bool) : (s.direct config submission claim initialized).Orderly config := by
  unfold PlayerSystem.direct
  split
  · exact h
  rename_i command hcmd
  dsimp only
  split_ifs with hpresents
  · obtain ⟨hpresents, hchanged⟩ := hpresents
    obtain ⟨hexecs, hsame | ⟨commandId, hpushed⟩⟩ :=
      directs_directBegin command
    · exact absurd hsame hchanged
    refine h.act_directs (.directBegin command) ?_ (h.executions.trans hexecs.symm) h.claimed
      h.ordered
    show List.Forall₂ _ (s.actor.directBegin command).directs _
    rw [hpushed]
    refine .cons (fun n hn => ?_) h.directs
    subst hn
    exact hpresents
  · exact h

lemma Orderly.directValidated : (s.directValidated config).Orderly config := by
  unfold PlayerSystem.directValidated
  split
  · rename_i command commandId directs claim claims hactor hclaims
    have hcalls := h.directs
    rw [hactor, hclaims, forall₂_cons] at hcalls
    obtain ⟨hlease, hrest⟩ := hcalls
    have hexecs : ∀ valid,
        (s.actor.directValidated valid).executions = s.actor.executions := by
      intro valid
      unfold MediaActor.directValidated
      split <;> rfl
    split_ifs with hvalid
    · obtain ⟨hclaim, hordered⟩ := h.pass none hlease hvalid
      refine h.act_directs (.directValidated true) ?_ (h.executions.trans (hexecs true).symm)
        hclaim hordered
      show List.Forall₂ _ (s.actor.directValidated true).directs _
      simp only [MediaActor.directValidated, hactor, if_true]
      show List.Forall₂ _ _ s.directs
      rw [hclaims]
      exact .cons hlease hrest
    · refine h.act_directs (.directValidated false) ?_ (h.executions.trans (hexecs false).symm)
        h.claimed h.ordered
      show List.Forall₂ _ (s.actor.directValidated false).directs _
      simp only [MediaActor.directValidated, hactor, Bool.false_eq_true, if_false]
      exact hrest
  · exact h

lemma Orderly.execute (command : MediaActorCommand) (ok : Bool) :
    { s with ownership := (playerExecuteOnOwnership command ok s.ownership).2 }.Orderly config := by
  unfold playerExecuteOnOwnership
  split
  · exact h.withOwnership (h.ownership.release _) (drops_release _ _).extends
  · exact h

lemma Orderly.directDone (ok : Bool) : (s.directDone config ok).Orderly config := by
  unfold PlayerSystem.directDone
  split
  · rename_i command commandId directs claim claims hactor hclaim
    have hcalls := (h.execute command ok).directs
    rw [show ({ s with ownership := (playerExecuteOnOwnership command ok s.ownership).2 } :
      PlayerSystem).actor.directs = .executing command commandId :: directs from hactor,
      hclaim, forall₂_cons] at hcalls
    have hdone : s.actor.directDone = { s.actor with directs } := by
      unfold MediaActor.directDone
      rw [hactor]
    refine (h.execute command ok).act_directs .directDone ?_ ?_ (h.execute command ok).claimed
      (h.execute command ok).ordered
    · show List.Forall₂ _ s.actor.directDone.directs _
      rw [hdone]
      exact hcalls.2
    · show _ = s.actor.directDone.executions
      rw [hdone]
      exact h.executions
  · exact h

lemma Orderly.executed (ok : Bool) : (s.executed config ok).Orderly config := by
  have hcalls : ∀ ok, (actorStep config s.actor (.executed ok)).directs = s.actor.directs ∧
      (actorStep config s.actor (.executed ok)).executions = s.actor.executions := by
    intro ok
    simp only [actorStep, MediaActor.executed]
    split
    · split
      · exact ⟨rfl, rfl⟩
      · split <;> exact ⟨rfl, rfl⟩
    · exact ⟨rfl, rfl⟩
  unfold PlayerSystem.executed
  split
  · split
    · exact h.act _ (hcalls ok).1 (hcalls ok).2
    split
    · exact h
    · rename_i request hreq _
      exact (h.execute request.command ok).act _ (hcalls _).1 (hcalls _).2
  · exact h

lemma Orderly.validated : (s.validated config).Orderly config := by
  unfold PlayerSystem.validated
  split
  · rename_i key processed hwork
    split
    · rename_i hnone
      have hstep : s.actor.validated false = s.actor ∨
          s.actor.validated false = s.actor.touchFreed := by
        simp only [MediaActor.validated, hwork, hnone]
        split
        · exact .inl rfl
        · exact .inr rfl
      refine h.act _ ?_ ?_
      · show (s.actor.validated false).directs = _
        rcases hstep with hstep | hstep
        · rw [hstep]
        · rw [hstep]
          rfl
      · show (s.actor.validated false).executions = _
        rcases hstep with hstep | hstep
        · rw [hstep]
        · rw [hstep]
          rfl
    rename_i request hreq
    split
    · exact h
    rename_i hdirs
    obtain ⟨hcmd, -⟩ := h.actor.kept.recorded key request hreq
    have hlease : ∀ n, s.carried key = some n → s.leaseOf n = some request.command.lease := by
      intro n hn
      obtain ⟨-, command, hfound, hlease⟩ := h.carried key n hn
      rw [hcmd, Option.some.injEq] at hfound
      rw [hfound]
      exact hlease
    dsimp only
    split
    · rename_i hvalid
      obtain ⟨hclaim, hordered⟩ := h.pass (some key) hlease hvalid
      have hstep : s.actor.validated true = { s.actor with
          worker := .executing key processed
          executions := key :: s.actor.executions } := by
        simp only [MediaActor.validated, hwork, hreq, hdirs, ne_eq, not_true_eq_false,
          if_false, if_true]
      have hpassed := h.act_directs (.validated true) (by
          show List.Forall₂ _ (s.actor.validated true).directs _
          rw [hstep]
          exact h.directs) (by
          show _ = (s.actor.validated true).executions
          rw [hstep, ← h.executions]
          rfl) hclaim hordered
      refine { hpassed with judged := fun hstamp other hother => ?_ }
      refine hpassed.judged hstamp other ?_
      split_ifs at hother with hsuperseded
      · obtain ⟨n, hn, hnewer⟩ := hsuperseded
        have hlast := h.newest hstamp (hlease n hn) hvalid
        exact absurd hlast (Nat.ne_of_lt hnewer)
      · exact hother
    · have hstep : s.actor.validated false = { s.actor with
          worker := .completing key processed .stale } := by
        simp only [MediaActor.validated, hwork, hreq, hdirs, ne_eq, not_true_eq_false,
          if_false, Bool.false_eq_true]
      have hjudged := h.act (.validated false) (by
        show (s.actor.validated false).directs = _
        rw [hstep]) (by
        show (s.actor.validated false).executions = _
        rw [hstep])
      refine { hjudged with judged := fun hstamp other hother => ?_ }
      split at hother
      · obtain rfl | hother := mem_cons.mp hother
        · refine .inl ?_
          show (s.actor.validated false).worker.stage other = _
          rw [hstep]
          exact if_pos rfl
        · exact hjudged.judged hstamp other hother
      · exact hjudged.judged hstamp other hother
  · exact h

/-- **One step.** -/
lemma Orderly.step (step : PlayerStep) : (playerStep config s step).Orderly config := by
  cases step with
  | claim owner token =>
    exact h.withOwnership (h.ownership.claim owner token) (extends_claim _ _ _)
  | release lease =>
    exact h.withOwnership (h.ownership.release lease) (drops_release _ _).extends
  | releaseCurrent owner token =>
    exact h.withOwnership (h.ownership.releaseCurrent owner token)
      (drops_releaseCurrent _ _ _).extends
  | reset => exact h.withOwnership h.ownership.reset (drops_reset _).extends
  | submit submission claim initialized wait forever =>
    exact h.submit submission claim initialized wait forever
  | direct submission claim initialized => exact h.direct submission claim initialized
  | directValidated => exact h.directValidated
  | directDone ok => exact h.directDone ok
  | validated => exact h.validated
  | executed ok => exact h.executed ok
  | actor step =>
    simp only [playerStep]
    split_ifs with hinner
    · exact h.act step (inner_calls hinner).1 (inner_calls hinner).2
    · exact h

end PlayerSystem

lemma PlayerReachable.orderly {config : MediaActorConfig} {s : PlayerSystem}
    (h : PlayerReachable config s) : s.Orderly config :=
  Runs.Reachable.invariant (PlayerSystem.orderly_initial config) (fun _ step ih _ => ih.step step) h

lemma playerStep_extends (config : MediaActorConfig) (s : PlayerSystem) (step : PlayerStep) :
    s.ownership.Extends (playerStep config s step).ownership := by
  have hexecute : ∀ (command : MediaActorCommand) (ok : Bool), s.ownership.Extends
      (playerExecuteOnOwnership command ok s.ownership).2 := by
    intro command ok
    unfold playerExecuteOnOwnership
    split
    · exact (drops_release _ _).extends
    · exact .refl _
  cases step with
  | claim owner token => exact extends_claim _ _ _
  | release lease => exact (drops_release _ _).extends
  | releaseCurrent owner token => exact (drops_releaseCurrent _ _ _).extends
  | reset => exact (drops_reset _).extends
  | submit | direct =>
    simp only [playerStep, PlayerSystem.submit, PlayerSystem.direct]
    split
    · exact .refl _
    · split <;> exact .refl _
  | directValidated =>
    simp only [playerStep, PlayerSystem.directValidated]
    split
    · split <;> exact .refl _
    · exact .refl _
  | directDone ok =>
    simp only [playerStep, PlayerSystem.directDone]
    split
    · exact hexecute _ _
    · exact .refl _
  | validated =>
    simp only [playerStep, PlayerSystem.validated]
    split
    · split
      · exact .refl _
      split
      · exact .refl _
      · split <;> exact .refl _
    · exact .refl _
  | executed ok =>
    simp only [playerStep, PlayerSystem.executed]
    split
    · split
      · exact .refl _
      split
      · exact .refl _
      · exact hexecute _ _
    · exact .refl _
  | actor step =>
    simp only [playerStep]
    split <;> exact .refl _

open PlayerSystem in
/-- **No stale command overtakes a newer owner.**  Whatever claims, releases, resets and submissions are
made, and in whatever order, as long as fewer than 2³² claims and resets are made: what is executed is
what has passed the validation, the claims of the commands that pass follow one another, and a command
that was validated when a newer claim had been granted ends as stale and is never executed. -/
theorem player_leaseOrder {config : MediaActorConfig} {s : PlayerSystem}
    (h : PlayerReachable config s) (hstamps : s.ownership.stamps < 2 ^ 32) :
    s.passed.filterMap PassedCommand.request = s.actor.executions ∧ InClaimOrder s.passed ∧
      ∀ key ∈ s.judged, s.actor.EndsWith key .stale ∧ key ∉ s.actor.executions := by
  have horderly := h.orderly
  refine ⟨horderly.executions, horderly.ordered hstamps, fun key hkey => ?_⟩
  have hends := horderly.judged hstamps key hkey
  exact ⟨hends, hends.not_mem_executions horderly.actor.sound.1 rfl⟩

/-- A play of an owner with the lease of its claim. -/
def playWithLease (source : PlayerCommandSource) (lease : PlayerOwnershipLease) (claim : ℕ) :
    PlayerStep :=
  .submit (.request ⟨.play, source, lease, none, none, none, 0, false⟩) (some claim) true false false

/-- The worker takes a command and validates it. -/
def takeCommand : List PlayerStep := [.actor .workerTop, .validated]

/-- The actor comes up, and the renderer claims the player. -/
def claimedPlayer : List PlayerStep :=
  [.actor .start, .actor (.startThread true), .actor .startDone, .actor (.initialized true),
    .claim .dlna 7]

/-- Two plays of the renderer, the second of which the television overtakes. -/
def overtakenPlay : List PlayerStep :=
  claimedPlayer ++ [playWithLease .dlna ⟨.dlna, 7, 1⟩ 0, .actor (.submit 0)] ++ takeCommand ++
    [.executed true, .actor .completed, playWithLease .dlna ⟨.dlna, 7, 1⟩ 0, .actor (.submit 1),
      .claim .iptv 9] ++ takeCommand ++
    [.actor .completed, playWithLease .iptv ⟨.iptv, 9, 2⟩ 1, .actor (.submit 2)] ++ takeCommand

/-- The state behind them. -/
def overtakenPlayer : PlayerSystem := Runs.run (playerStep smallActorConfig) .initial overtakenPlay

theorem player_leaseOrder_overtaken :
    overtakenPlayer.passed = [⟨some 2, some 1⟩, ⟨some 0, some 0⟩] ∧
      PlayerSystem.InClaimOrder overtakenPlayer.passed ∧
      1 ∉ overtakenPlayer.actor.executions ∧ overtakenPlayer.actor.EndsWith 1 .stale := by
  have hreachable : PlayerReachable smallActorConfig overtakenPlayer :=
    Runs.Reachable.start.run overtakenPlay
  obtain ⟨-, hordered, hjudged⟩ := player_leaseOrder hreachable (by decide +kernel)
  obtain ⟨hends, hexecuted⟩ := hjudged 1 (by decide +kernel)
  exact ⟨by decide +kernel, hordered, hexecuted, hends⟩

lemma run_resets (config : MediaActorConfig) (n : ℕ) {s : PlayerSystem}
    (hcur : s.ownership.current = .zero)
    (hgen : s.ownership.nextGeneration.toNat = s.ownership.stamps)
    (hstamp : s.ownership.stamps + n < 2 ^ 32) :
    Runs.run (playerStep config) s (replicate n .reset) =
      { s with ownership := { s.ownership with
        nextGeneration := UInt32.ofNat (s.ownership.stamps + n)
        stamps := s.ownership.stamps + n } } := by
  induction n generalizing s with
  | zero =>
    have hsame : UInt32.ofNat (s.ownership.stamps + 0) = s.ownership.nextGeneration := by
      rw [Nat.add_zero, ← hgen, UInt32.ofNat_toNat]
    rw [hsame]
    rfl
  | succ n ih =>
    have hnext : (nextGeneration s.ownership.nextGeneration).toNat = s.ownership.stamps + 1 := by
      rw [toNat_nextGeneration (by omega), hgen]
    have hreset : playerStep config s .reset = { s with ownership := { s.ownership with
        nextGeneration := nextGeneration s.ownership.nextGeneration
        stamps := s.ownership.stamps + 1 } } := by
      show ({ s with ownership := playerOwnershipReset s.ownership } : PlayerSystem) = _
      rw [playerOwnershipReset, ← hcur]
    have hrest := ih (s := { s with ownership := { s.ownership with
        nextGeneration := nextGeneration s.ownership.nextGeneration
        stamps := s.ownership.stamps + 1 } }) hcur hnext
      (by show s.ownership.stamps + 1 + n < 2 ^ 32; omega)
    have hsum : s.ownership.stamps + 1 + n = s.ownership.stamps + (n + 1) := by omega
    show Runs.run (playerStep config) (playerStep config s .reset) (replicate n .reset) = _
    rw [hreset, hrest, ← hsum]

/-- A play of the renderer stands in front of the actor's lock, and the ownership is reset. -/
def resetPlay : List PlayerStep :=
  claimedPlayer ++ [playWithLease .dlna ⟨.dlna, 7, 1⟩ 0, .reset]

/-- The state behind them. -/
def resetPlayer : PlayerSystem := Runs.run (playerStep smallActorConfig) .initial resetPlay

/-- The renderer claims again, and its new play comes before the old one. -/
def laterPlay : List PlayerStep :=
  [.claim .dlna 7, playWithLease .dlna ⟨.dlna, 7, 1⟩ 1, .actor (.submit 1)] ++ takeCommand ++
    [.executed true, .actor .completed, .actor (.submit 0)] ++ takeCommand

/-- The state when the generations have come to their end. -/
def wrappedPlayer : PlayerSystem :=
  { resetPlayer with ownership := { resetPlayer.ownership with
      nextGeneration := UInt32.ofNat (2 + (2 ^ 32 - 3))
      stamps := 2 + (2 ^ 32 - 3) } }

lemma laterPlay_facts :
    ((Runs.run (playerStep smallActorConfig) wrappedPlayer laterPlay).passed,
      (Runs.run (playerStep smallActorConfig) wrappedPlayer laterPlay).ownership.claims.length) =
      ([⟨some 0, some 0⟩, ⟨some 1, some 1⟩], 2) := by
  decide +kernel

/-- The resets wrap the generations around: with two claims only, the play of the first is executed
behind that of the second, whose lease is the same. -/
theorem player_leaseOrder_resets :
    ¬ ∀ (config : MediaActorConfig) (s : PlayerSystem), PlayerReachable config s →
      s.ownership.claims.length < 2 ^ 32 - 1 → PlayerSystem.InClaimOrder s.passed := by
  intro hclaim
  have hreset : PlayerReachable smallActorConfig resetPlayer := Runs.Reachable.start.run resetPlay
  have hresets := run_resets smallActorConfig (2 ^ 32 - 3) (s := resetPlayer) (by decide +kernel)
    (by decide +kernel) (by decide +kernel)
  have hstamps : resetPlayer.ownership.stamps = 2 := by decide +kernel
  have hwrapped : PlayerReachable smallActorConfig wrappedPlayer := by
    have hreached := hreset.run (List.replicate (2 ^ 32 - 3) .reset)
    rw [hresets] at hreached
    exact hreached
  have hfacts := laterPlay_facts
  rw [Prod.mk.injEq] at hfacts
  have hordered := hclaim smallActorConfig _ (hwrapped.run laterPlay) (by rw [hfacts.2]; decide)
  exact absurd (List.rel_of_pairwise_cons hordered List.mem_cons_self 0 1 rfl rfl) (by decide)

end NXCast
