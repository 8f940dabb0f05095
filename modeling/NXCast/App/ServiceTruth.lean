import NXCast.App.ServicePairing

/-!
# What the snapshot shows of AirPlay

The state of AirPlay in the snapshot is written by the workers, who have just started or stopped it, and
by `protocol_coordinator_tick`, which has asked AirPlay itself.  It asks while a stop is owed, but
writes the answer in two later sections, and by then the resource worker may have stopped AirPlay.
The results are about the runs in which this does not happen.  `protocol_coordinator_stop`, which does
not clear the status, is not called in them.
-/

namespace NXCast

open Function ProtocolCoordinator ResourceStage ServiceSystem

/-- The resource worker has called AirPlay's `stop` and not yet written that it is stopped. -/
def ResourceStage.Stopping : ResourceStage → Prop
  | .turning turn .stopClearing | .turning turn .stopNoting => turn.service = .airplay
  | _ => False

/-- The resource worker has called AirPlay's `stop` and not yet cleared its status. -/
def ResourceStage.Hiding : ResourceStage → Prop
  | .turning turn .stopClearing | .turning turn .stopNoting | .turning turn .stopHiding =>
    turn.service = .airplay
  | _ => False

namespace ServiceSystem

/-- AirPlay has been started and not stopped since. -/
def AirplayOwed (s : ServiceSystem) : Prop := servicePhase .airplay s.history = .owed

/-- The snapshot shows AirPlay as running, by its state or by its status, only while a stop is owed
to it or is under way. -/
structure AirplayTrue (s : ServiceSystem) : Prop where
  state : s.coordinator.services .airplay = .running →
    s.AirplayOwed ∨ ∃ stage ∈ s.resource, stage.Stopping
  status : s.coordinator.airplay.running = true →
    s.AirplayOwed ∨ ∃ stage ∈ s.resource, stage.Hiding

/-- An answer that AirPlay is running is written while a stop is owed to it or under way. -/
def Fresh (s : ServiceSystem) : ServiceLabel → Prop
  | .stop => False
  | .main _ _ =>
    match s.main with
    | .writing status =>
      status.running = true → s.AirplayOwed ∨ ∃ stage ∈ s.resource, stage.Hiding
    | .showing status =>
      status.running = true → s.AirplayOwed ∨ ∃ stage ∈ s.resource, stage.Stopping
    | _ => True
  | _ => True

end ServiceSystem

/-! ## What the sections write of AirPlay -/

namespace ServiceCoordinator

/-- AirPlay is not newly shown as running. -/
structure Hides (c c' : ServiceCoordinator) : Prop where
  state : c'.services .airplay = .running → c.services .airplay = .running
  status : c'.airplay.running = true → c.airplay.running = true

variable {c : ServiceCoordinator}

lemma Hides.refl (c : ServiceCoordinator) : Hides c c := ⟨id, id⟩

/-- What the states of the services are behind `protocol_coordinator_set_service_state`. -/
lemma services_setServiceState (service : ProtocolService) (state : ProtocolServiceState) :
    (c.setServiceState service state).services =
      if c.lifecycle = .stopped then c.services else update c.services service state := by
  rw [ServiceCoordinator.setServiceState, ProtocolCoordinator.setServiceState]
  split
  · rfl
  split_ifs with hsame
  · obtain ⟨lifecycle, snapshot, heq, -⟩ := recomputeState_eq
      { c.toProtocolCoordinator with
        services := fun other => if other = service then state else c.services other }
    rw [heq]
    funext other
    simp only [bump, update_apply]
  · rw [← not_not.mp hsame, update_eq_self]

lemma hides_setServiceState {service : ProtocolService} {state : ProtocolServiceState}
    (h : service = .airplay → state ≠ .running) : Hides c (c.setServiceState service state) := by
  refine ⟨fun hrun => ?_, id⟩
  rw [services_setServiceState] at hrun
  split at hrun
  · exact hrun
  by_cases hsvc : service = .airplay
  · subst hsvc
    exact absurd hrun (h rfl)
  · rwa [update_of_ne (Ne.symm hsvc)] at hrun

lemma not_running_of_stopped (hlife : c.lifecycle ≠ .stopped) :
    (c.setServiceState .airplay .stopped).services .airplay ≠ .running := by
  rw [services_setServiceState, if_neg hlife, update_self]
  exact nofun

lemma not_running_clearAirplayRuntimeStatus :
    c.clearAirplayRuntimeStatus.airplay.running = false := by
  rw [clearAirplayRuntimeStatus]
  split_ifs with hshown
  · rfl
  · simp only [Bool.or_eq_true, not_or, Bool.not_eq_true] at hshown
    exact hshown.1.1

lemma services_clearAirplayRuntimeStatus : c.clearAirplayRuntimeStatus.services = c.services := by
  rw [clearAirplayRuntimeStatus]
  split
  all_goals rfl

lemma hides_clearAirplayRuntimeStatus : Hides c c.clearAirplayRuntimeStatus := by
  refine ⟨fun hstate => ?_, fun hstat => ?_⟩
  · rwa [services_clearAirplayRuntimeStatus] at hstate
  · rw [not_running_clearAirplayRuntimeStatus] at hstat
    cases hstat

lemma hides_desire (mode : ProtocolResourceMode) :
    Hides c
      { c with toProtocolCoordinator := setDesiredResourceMode mode c.toProtocolCoordinator } := by
  rw [ProtocolCoordinator.setDesiredResourceMode]
  generalize (if c.exclusiveMediaResources then mode else .home) = target
  split
  · exact ⟨id, id⟩
  · exact .refl c

lemma hides_finishResourceWorker (target : ProtocolResourceMode) (completed success result : Bool) :
    Hides c
      { c with
        toProtocolCoordinator :=
          finishResourceWorker target completed success c.toProtocolCoordinator
        resourceWorker := { c.resourceWorker with result, finished := true } } := by
  rw [ProtocolCoordinator.finishResourceWorker]
  split
  · exact ⟨id, id⟩
  · split
    all_goals exact ⟨id, id⟩

lemma hides_nextSerialService : Hides c c.nextSerialService.2 := by
  rw [nextSerialService]
  split
  · exact .refl c
  · split
    all_goals exact ⟨id, id⟩

/-- The states with which `protocol_coordinator_start` begins. -/
lemma hides_beginStart (config : ProtocolCoordinatorConfig) :
    Hides c { c with toProtocolCoordinator := (beginStart config c.toProtocolCoordinator).2 } := by
  rw [beginStart]
  split
  · exact .refl c
  refine ⟨fun hrun => ?_, id⟩
  obtain ⟨lifecycle, snapshot, heq, -⟩ := recomputeState_eq
    { c.toProtocolCoordinator with
      mediaSession := protocolMediaSessionInit
      activeMedia := .zero
      desiredResourceMode := .home
      appliedResourceMode := .home
      resourceTransitionActive := false
      resourceTransitionFailed := false
      exclusiveMediaResources := config.exclusiveMediaResources
      configuredEnabled := config.enabled
      discoverySuspended := false
      discoverySuspensionPolicy := config.discoverySuspensionPolicy
      services := fun service => if config.enabled service then .starting else .disabled
      lifecycle := .starting }
  rw [heq] at hrun
  simp only [bump] at hrun
  split at hrun <;> cases hrun

end ServiceCoordinator

/-! ## What the steps leave alone -/

/-- A worker that has noted a success has set the flag. -/
def ServiceWorkerStage.Noted (flag : Bool) : ServiceWorkerStage → Prop
  | .flagging started owed => started = true → owed = true
  | .noting started => started = true → flag = true
  | _ => True

/-- The same of the resource worker. -/
def ResourceStage.Noted (flags : ProtocolService → Bool) : ResourceStage → Prop
  | .turning turn (.startNoting started) => started = true → flags turn.service = true
  | _ => True

namespace ServiceSystem

open ServiceCoordinator

variable {s s' : ServiceSystem} {c : ServiceCoordinator} {service : ProtocolService}

/-- The invariant; without a call of `protocol_coordinator_stop` that function does nothing. -/
structure Truthful (s : ServiceSystem) : Prop where
  sound : s.Sound
  idle : s.stopper = .idle
  shown : s.AirplayTrue
  worker : ∀ stage ∈ s.workers .airplay, stage.Noted (s.coordinator.stopRequired .airplay)
  resource : ∀ stage ∈ s.resource, stage.Noted s.coordinator.stopRequired

/-- The events and flags stay, and a worker that is new begins. -/
structure MainKeeps (s s' : ServiceSystem) : Prop where
  history : s'.history = s.history
  stopper : s'.stopper = s.stopper
  required : s'.coordinator.stopRequired = s.coordinator.stopRequired
  resource : s'.resource = s.resource ∨ s.main = .creatingResource ∧ s'.resource = some .copying
  worker : ∀ service, s'.workers service = s.workers service ∨ s'.workers service = some .copying

lemma mainKeeps_mainOn {main : MainStage} (h : c.stopRequired = s.coordinator.stopRequired) :
    MainKeeps s (s.mainOn c main) :=
  ⟨rfl, rfl, h, .inl rfl, fun _ => .inl rfl⟩

lemma mainKeeps_refl : MainKeeps s s := ⟨rfl, rfl, rfl, .inl rfl, fun _ => .inl rfl⟩

lemma mainStep_keeps (ok : Bool) (status : Option ProtocolAirPlayStatus) :
    MainKeeps s (s.mainStep ok status) := by
  cases hmain : s.main with
  | checkingSerial next =>
    have hserial := (nextSerialService_spec (c := s.coordinator)).1.required
    simp only [mainStep, hmain]
    split
    all_goals
      rename_i heq
      rw [heq] at hserial
      exact mainKeeps_mainOn hserial
  | creating service next =>
    simp only [mainStep, hmain]
    split
    · refine ⟨rfl, rfl, rfl, .inl rfl, fun other => ?_⟩
      by_cases heq : other = service
      · exact .inr (heq ▸ update_self _ _ _)
      · exact .inl (update_of_ne heq _ _)
    · exact mainKeeps_mainOn rfl
  | creatingResource =>
    simp only [mainStep, hmain]
    split
    · exact ⟨rfl, rfl, rfl, .inr ⟨hmain, rfl⟩, fun _ => .inl rfl⟩
    · exact mainKeeps_mainOn rfl
  | idle =>
    simp only [mainStep, hmain]
    exact mainKeeps_refl
  | joining services =>
    cases services with
    | nil | cons =>
      simp only [mainStep, hmain]
      exact mainKeeps_mainOn rfl
  | waiting | waitingResource =>
    simp only [mainStep, hmain]
    split
    · exact mainKeeps_mainOn rfl
    · exact mainKeeps_refl
  | asking =>
    simp only [mainStep, hmain]
    split
    all_goals exact mainKeeps_mainOn rfl
  | writing status =>
    simp only [mainStep, hmain]
    exact mainKeeps_mainOn (sameServices_writeAirplayStatus status).required
  | _ =>
    simp only [mainStep, hmain]
    exact mainKeeps_mainOn rfl

lemma mainStep_hides (hwrites : ∀ status, s.main ≠ .writing status)
    (hshowing : ∀ status, s.main ≠ .showing status) (ok : Bool)
    (status : Option ProtocolAirPlayStatus) :
    Hides s.coordinator (s.mainStep ok status).coordinator := by
  cases hmain : s.main with
  | checkingSerial next =>
    have hserial := hides_nextSerialService (c := s.coordinator)
    simp only [mainStep, hmain]
    split
    all_goals
      rename_i heq
      rw [heq] at hserial
      exact hserial
  | creating service next =>
    simp only [mainStep, hmain]
    split
    all_goals exact ⟨id, id⟩
  | creatingResource | asking =>
    simp only [mainStep, hmain]
    split
    all_goals exact .refl _
  | failing service next =>
    simp only [mainStep, hmain]
    exact hides_setServiceState fun _ => by simp
  | joining services =>
    cases services with
    | nil | cons =>
      simp only [mainStep, hmain]
      exact .refl _
  | waiting | waitingResource =>
    simp only [mainStep, hmain]
    split
    · exact ⟨id, id⟩
    · exact .refl _
  | writing status => exact absurd hmain (hwrites status)
  | showing status => exact absurd hmain (hshowing status)
  | _ =>
    simp only [mainStep, hmain]
    exact ⟨id, id⟩

/-! ## Steps -/

lemma AirplayTrue.of_hides (h : s.AirplayTrue) (hhides : Hides s.coordinator s'.coordinator)
    (howed : s.AirplayOwed → s'.AirplayOwed)
    (hstage : ∀ stage ∈ s.resource, stage.Stopping ∨ stage.Hiding → stage ∈ s'.resource) :
    s'.AirplayTrue where
  state hrun := by
    refine (h.state (hhides.state hrun)).imp howed fun ⟨stage, hmem, hstop⟩ => ?_
    exact ⟨stage, hstage stage hmem (.inl hstop), hstop⟩
  status hrun := by
    refine (h.status (hhides.status hrun)).imp howed fun ⟨stage, hmem, hhiding⟩ => ?_
    exact ⟨stage, hstage stage hmem (.inr hhiding), hhiding⟩

lemma Truthful.mainStep (h : s.Truthful) {ok : Bool} {status : Option ProtocolAirPlayStatus}
    (hcalm : s.Calm (.main ok status)) (hfresh : s.Fresh (.main ok status)) :
    (s.mainStep ok status).Truthful := by
  have hkeeps := mainStep_keeps (s := s) ok status
  have howed : s.AirplayOwed → (s.mainStep ok status).AirplayOwed := by
    rw [AirplayOwed, AirplayOwed, hkeeps.history]
    exact id
  have hstage : ∀ stage ∈ s.resource, stage.Stopping ∨ stage.Hiding →
      stage ∈ (s.mainStep ok status).resource := by
    intro stage hmem _
    rcases hkeeps.resource with heq | ⟨hmain, -⟩
    · exact heq ▸ hmem
    have hgone := h.sound.launching
    rw [hmain] at hgone
    rw [hgone.1] at hmem
    cases hmem
  refine ⟨h.sound.mainStep hcalm, hkeeps.stopper.trans h.idle, ?_, fun stage hmem => ?_,
    fun stage hmem => ?_⟩
  · by_cases hwrites : ∃ status, s.main = .writing status
    · obtain ⟨status', hmain⟩ := hwrites
      rw [Fresh, hmain] at hfresh
      simp only [ServiceSystem.mainStep, hmain, writeAirplayStatus]
      split
      · exact ⟨h.shown.state, hfresh⟩
      · exact h.shown.of_hides (.refl _) id fun _ hmem _ => hmem
    by_cases hshowing : ∃ status, s.main = .showing status
    · obtain ⟨status', hmain⟩ := hshowing
      rw [Fresh, hmain] at hfresh
      simp only [ServiceSystem.mainStep, hmain]
      refine ⟨fun hrun => ?_, h.shown.status⟩
      by_cases hstat : status'.running = true
      · exact hfresh hstat
      refine h.shown.state ((hides_setServiceState fun _ => ?_).state hrun)
      rw [if_neg hstat]
      split
      all_goals simp
    · exact h.shown.of_hides (mainStep_hides (fun status hmain => hwrites ⟨status, hmain⟩)
          (fun status hmain => hshowing ⟨status, hmain⟩) ok status) howed hstage
  · rw [hkeeps.required]
    rcases hkeeps.worker .airplay with heq | heq
    · exact h.worker stage (heq ▸ hmem)
    rw [heq] at hmem
    cases hmem
    trivial
  · rw [hkeeps.required]
    rcases hkeeps.resource with heq | ⟨-, heq⟩
    · exact h.resource stage (heq ▸ hmem)
    rw [heq] at hmem
    cases hmem
    trivial

lemma AirplayTrue.hidden (h : s.AirplayTrue) (howed : ¬s.AirplayOwed)
    (hstage : ∀ stage ∈ s.resource, ¬stage.Stopping ∧ ¬stage.Hiding) :
    s.coordinator.services .airplay ≠ .running ∧ s.coordinator.airplay.running ≠ true := by
  constructor
  · intro hrun
    rcases h.state hrun with howed' | ⟨stage, hmem, hstop⟩
    · exact howed howed'
    · exact (hstage stage hmem).1 hstop
  · intro hrun
    rcases h.status hrun with howed' | ⟨stage, hmem, hhiding⟩
    · exact howed howed'
    · exact (hstage stage hmem).2 hhiding

lemma AirplayTrue.of_hidden
    (h : s.coordinator.services .airplay ≠ .running ∧ s.coordinator.airplay.running ≠ true)
    (hhides : Hides s.coordinator s'.coordinator) : s'.AirplayTrue :=
  ⟨fun hrun => absurd (hhides.state hrun) h.1, fun hrun => absurd (hhides.status hrun) h.2⟩

lemma AirplayTrue.of_owed (h : s.AirplayOwed) : s.AirplayTrue := ⟨fun _ => .inl h, fun _ => .inl h⟩

variable {events : List ServiceEvent}

lemma Truthful.worker_noted (h : s.Truthful) {next : Option ServiceWorkerStage}
    (hother : service ≠ .airplay →
      c.stopRequired .airplay = s.coordinator.stopRequired .airplay)
    (hnext : ∀ stage ∈ next, service = .airplay → stage.Noted (c.stopRequired .airplay)) :
    ∀ stage ∈ (s.workerOn service c next events).workers .airplay,
      stage.Noted ((s.workerOn service c next events).coordinator.stopRequired .airplay) := by
  intro stage hmem
  simp only [workerOn] at hmem ⊢
  by_cases hsvc : service = .airplay
  · rw [hsvc, update_self] at hmem
    exact hnext stage hmem hsvc
  · rw [update_of_ne (Ne.symm hsvc)] at hmem
    rw [hother hsvc]
    exact h.worker stage hmem

lemma workerStep_noted (h : s.Truthful) (service : ProtocolService) (ok : Bool) :
    ∀ stage ∈ (s.workerStep service ok).workers .airplay,
      stage.Noted ((s.workerStep service ok).coordinator.stopRequired .airplay) := by
  rw [workerStep]
  split
  · exact h.worker
  · exact h.worker_noted (fun _ => rfl) fun _ hmem _ => by cases hmem; trivial
  · exact h.worker_noted (fun _ => rfl) fun _ hmem _ => by cases hmem; trivial
  · refine h.worker_noted (fun _ => rfl) fun _ hmem _ => ?_
    cases hmem
    exact fun hstart => by rw [hstart, Bool.true_or]
  · rename_i hstage
    refine h.worker_noted (fun hsvc => update_of_ne (Ne.symm hsvc) _ _) fun _ hmem hsvc => ?_
    cases hmem
    subst hsvc
    exact fun hstart => (stopRequired_setStopRequired _ _).trans (h.worker _ hstage hstart)
  · exact h.worker_noted (fun _ => congrFun (sameServices_setServiceState _ _).required _)
      fun _ hmem _ => by cases hmem; trivial
  · exact h.worker_noted (fun _ => rfl) fun _ hmem _ => by cases hmem

lemma AirplayOwed.of_event {event : ServiceEvent}
    (hevent : ∀ phase, ServicePhase.after .airplay phase event = phase)
    (h : servicePhase .airplay events = .owed) :
    servicePhase .airplay (events ++ [event]) = .owed := by
  rw [servicePhase_concat, hevent, h]

/-- A service worker shows AirPlay as running only when it has started it. -/
lemma workerStep_shown (h : s.Truthful) (service : ProtocolService) (ok : Bool) :
    (s.workerStep service ok).AirplayTrue := by
  rw [workerStep]
  split
  · exact h.shown
  all_goals
    rename_i hstage
    have hres : s.resource = none := by
      by_contra hthere
      rw [h.sound.alone hthere service] at hstage
      cases hstage
    have hnone : ∀ stage ∈ s.resource, stage.Stopping ∨ stage.Hiding → stage ∈ s.resource :=
      fun _ hmem _ => hmem
    have hhidden : ∀ stage ∈ s.resource, ¬stage.Stopping ∧ ¬stage.Hiding := by
      intro stage hmem
      rw [hres] at hmem
      cases hmem
    have hacct := h.sound.accounted (by rw [h.idle]; rfl) service
    rw [Accounted, activity_of_worker hstage] at hacct
  · exact h.shown.of_hides (.refl _) (fun howed => by simpa [AirplayOwed, workerOn] using howed) hnone
  · by_cases hsvc : service = .airplay
    · subst hsvc
      refine .of_hidden (h.shown.hidden (fun howed => ?_) hhidden) (.refl _)
      rw [AirplayOwed, hacct.2] at howed
      cases howed
    · exact h.shown.of_hides (.refl _)
        (AirplayOwed.of_event fun phase => (after_of_ne (Ne.symm hsvc) false phase).1) hnone
  · by_cases hsvc : service = .airplay
    · subst hsvc
      refine .of_hidden (h.shown.hidden (fun howed => ?_) hhidden) (.refl _)
      rw [AirplayOwed, hacct.2] at howed
      cases howed
    · exact h.shown.of_hides (.refl _)
        (AirplayOwed.of_event fun phase => (after_of_ne (Ne.symm hsvc) _ phase).2.1) hnone
  · exact h.shown.of_hides ⟨id, id⟩ (fun howed => by simpa [AirplayOwed, workerOn] using howed) hnone
  · rename_i started
    by_cases hstart : service = .airplay ∧ started = true
    · obtain ⟨rfl, rfl⟩ := hstart
      apply AirplayTrue.of_owed
      have hflag := h.worker _ hstage rfl
      have hphase : servicePhase .airplay s.history = .ofOwed true := hflag ▸ hacct
      simpa [AirplayOwed, workerOn] using hphase
    · refine h.shown.of_hides (hides_setServiceState fun hsvc => ?_)
        (fun howed => by simpa [AirplayOwed, workerOn] using howed) hnone
      rw [if_neg fun htrue => hstart ⟨hsvc, htrue⟩]
      simp
  · exact h.shown.of_hides ⟨id, id⟩ (fun howed => by simpa [AirplayOwed, workerOn] using howed) hnone

lemma Truthful.workerStep (h : s.Truthful) (service : ProtocolService) (ok : Bool) :
    (s.workerStep service ok).Truthful := by
  refine ⟨h.sound.workerStep service ok, ?_, workerStep_shown h service ok,
    workerStep_noted h service ok, ?_⟩
  · rw [ServiceSystem.workerStep]
    split <;> exact h.idle
  cases hstage : s.workers service with
  | none =>
    rw [ServiceSystem.workerStep]
    simp only [hstage]
    exact h.resource
  | some stage =>
    have hres : s.resource = none := by
      by_contra hthere
      rw [h.sound.alone hthere service] at hstage
      cases hstage
    have hres' : (s.workerStep service ok).resource = none := by
      rw [ServiceSystem.workerStep]
      split <;> exact hres
    rw [hres']
    exact fun _ hmem => by cases hmem

lemma Truthful.resourceOn (h : s.Truthful) {next : Option ResourceStage}
    (hsound : (s.resourceOn c next events).Sound)
    (hthere : s.resource ≠ none) (hshown : (s.resourceOn c next events).AirplayTrue)
    (hnext : ∀ stage ∈ next, stage.Noted c.stopRequired) :
    (s.resourceOn c next events).Truthful := by
  refine ⟨hsound, h.idle, hshown, fun stage hmem => ?_, hnext⟩
  have hnone : s.workers .airplay = none := h.sound.alone hthere .airplay
  rw [ServiceSystem.resourceOn, hnone] at hmem
  cases hmem

lemma AirplayTrue.resource_goes (h : s.AirplayTrue) {stage : ResourceStage}
    (hstage : s.resource = some stage) (hwindow : ¬stage.Stopping ∧ ¬stage.Hiding)
    (hhides : Hides s.coordinator c) (next : Option ResourceStage) :
    (s.resourceOn c next []).AirplayTrue := by
  refine h.of_hides hhides (fun howed => by simpa [AirplayOwed, resourceOn] using howed) ?_
  intro stage' hmem hstop
  rw [hstage] at hmem
  cases hmem
  exact absurd hstop (not_or.mpr hwindow)

section Turn

variable {turn : ResourceTurn} {point : ResourcePoint}

lemma AirplayTrue.turn_other (h : s.AirplayTrue) (hsvc : turn.service ≠ .airplay)
    (hstage : s.resource = some (.turning turn point)) (hhides : Hides s.coordinator c)
    (next : Option ResourceStage)
    (hevs : servicePhase .airplay (s.history ++ events) = servicePhase .airplay s.history) :
    (s.resourceOn c next events).AirplayTrue := by
  refine h.of_hides hhides (hevs.trans) ?_
  intro stage' hmem hstop
  rw [hstage] at hmem
  cases hmem
  cases point <;> simp [ResourceStage.Stopping, ResourceStage.Hiding, hsvc] at hstop

lemma Truthful.turn_accounted (h : s.Truthful) (hstage : s.resource = some (.turning turn point)) :
    (point.activity (turn.job.stopAfter turn.service)).Accounts
      (s.coordinator.stopRequired turn.service) (servicePhase turn.service s.history) := by
  have hthere : s.resource ≠ none := by rw [hstage]; exact nofun
  have hacct := h.sound.accounted (by rw [h.idle]; rfl) turn.service
  rwa [Accounted, activity_of_resource (h.sound.alone hthere _) hstage, activity_of_turn] at hacct

lemma Truthful.turn_hidden (h : s.Truthful) (hsvc : turn.service = .airplay)
    (hstage : s.resource = some (.turning turn point))
    (hphase : servicePhase turn.service s.history ≠ .owed)
    (hwindow : ¬(turning turn point).Stopping ∧ ¬(turning turn point).Hiding) :
    s.coordinator.services .airplay ≠ .running ∧ s.coordinator.airplay.running ≠ true := by
  refine h.shown.hidden (fun howed => hphase ?_) fun stage hmem => ?_
  · rw [hsvc]
    exact howed
  · rw [hstage] at hmem
    cases hmem
    exact hwindow

lemma turnStep_shown_airplay (h : s.Truthful) (hsvc : turn.service = .airplay)
    (hstage : s.resource = some (.turning turn point)) (ok : Bool) :
    (s.turnStep turn ok point).AirplayTrue := by
  have hacct := h.turn_accounted hstage
  have hgoes (hwindow : ¬(turning turn point).Stopping ∧
      ¬(turning turn point).Hiding) {c : ServiceCoordinator}
      (hhides : Hides s.coordinator c) (next : Option ResourceStage) :
      (s.resourceOn c next []).AirplayTrue := h.shown.resource_goes hstage hwindow hhides next
  have hset (state : ProtocolServiceState) (hstate : state ≠ .running) :
      Hides s.coordinator (s.coordinator.setServiceState turn.service state) :=
    hides_setServiceState fun _ => hstate
  have hlife : s.coordinator.lifecycle ≠ .stopped := fun hstopped => by
    have hbare := h.sound.bare hstopped h.idle
    rw [hbare.1.1] at hstage
    cases hstage
  cases point with
  | stopCalling | stopClearing =>
    exact ⟨fun _ => .inr ⟨_, rfl, hsvc⟩, fun _ => .inr ⟨_, rfl, hsvc⟩⟩
  | stopNoting =>
    rw [turnStep, if_pos hsvc, hsvc]
    exact ⟨fun hrun => absurd hrun (not_running_of_stopped hlife), fun _ => .inr ⟨_, rfl, hsvc⟩⟩
  | stopHiding =>
    constructor
    · intro hrun
      refine .inl ?_
      have hrun' := hides_clearAirplayRuntimeStatus.state hrun
      rcases h.shown.state hrun' with howed | ⟨stage, hmem, hstop⟩
      · simpa [AirplayOwed, turnStep, resourceOn] using howed
      rw [hstage] at hmem
      cases hmem
      exact hstop.elim
    · intro hrun
      rw [turnStep] at hrun
      simp only [resourceOn, not_running_clearAirplayRuntimeStatus] at hrun
      cases hrun
  | startCalling | starting =>
    refine .of_hidden (h.turn_hidden hsvc hstage ?_ ⟨id, id⟩) (.refl _)
    rw [hacct.2]
    simp
  | flagging =>
    exact hgoes ⟨id, id⟩ (c := s.coordinator.setStopRequired turn.service _) ⟨id, id⟩ _
  | startAnnouncing => exact hgoes ⟨id, id⟩ (hset .starting (by simp)) _
  | startNoting started =>
    cases started with
    | true =>
      apply AirplayTrue.of_owed
      have hflag : s.coordinator.stopRequired turn.service = true := h.resource _ hstage rfl
      have hphase : servicePhase .airplay s.history = .ofOwed true := by
        rw [← hsvc, ← hflag]
        exact hacct
      simpa [AirplayOwed, turnStep, resourceOn] using hphase
    | false => exact hgoes ⟨id, id⟩ (hset .failed (by simp)) _
  | _ => exact hgoes ⟨id, id⟩ (.refl _) _

lemma turnStep_shown (h : s.Truthful) (hstage : s.resource = some (.turning turn point)) (ok : Bool) :
    (s.turnStep turn ok point).AirplayTrue := by
  by_cases hsvc : turn.service = .airplay
  · exact turnStep_shown_airplay h hsvc hstage ok
  have hother := after_of_ne (Ne.symm hsvc)
  have hset (state : ProtocolServiceState) :
      Hides s.coordinator (s.coordinator.setServiceState turn.service state) :=
    hides_setServiceState fun heq => absurd heq hsvc
  have hnone : servicePhase .airplay (s.history ++ []) = servicePhase .airplay s.history := by
    rw [List.append_nil]
  have hgoes {c : ServiceCoordinator} (hhides : Hides s.coordinator c)
      (next : Option ResourceStage) : (s.resourceOn c next []).AirplayTrue :=
    h.shown.turn_other hsvc hstage hhides next hnone
  have hevent {event : ServiceEvent} (next : Option ResourceStage)
      (hevent : ∀ phase, ServicePhase.after .airplay phase event = phase) :
      (s.resourceOn s.coordinator next [event]).AirplayTrue :=
    h.shown.turn_other hsvc hstage (.refl _) next ((servicePhase_concat _).trans (hevent _))
  cases point with
  | stopCalling required =>
    cases required with
    | true => exact hevent _ fun phase => (hother false phase).2.2
    | false => exact hgoes (.refl _) _
  | stopClearing =>
    exact hgoes (c := s.coordinator.setStopRequired turn.service false) ⟨id, id⟩ _
  | stopNoting | startAnnouncing | startNoting => exact hgoes (hset _) _
  | stopHiding => exact hgoes hides_clearAirplayRuntimeStatus _
  | startCalling => exact hevent _ fun phase => (hother false phase).1
  | starting => exact hevent _ fun phase => (hother _ phase).2.1
  | flagging => exact hgoes (c := s.coordinator.setStopRequired turn.service _) ⟨id, id⟩ _
  | _ => exact hgoes (.refl _) _

lemma noted_turns (job : ResourceJob) (starts : Bool) (services : List ProtocolService)
    (flags : ProtocolService → Bool) : (job.turns starts services).Noted flags := by
  cases services with
  | cons => trivial
  | nil =>
    cases starts with
    | true | false => trivial

lemma noted_afterStop (flags : ProtocolService → Bool) : turn.afterStop.Noted flags := by
  rw [ResourceTurn.afterStop]
  split
  · trivial
  · exact noted_turns _ _ _ _

lemma Truthful.turnStep (h : s.Truthful) (hstage : s.resource = some (.turning turn point))
    (ok : Bool) : (s.turnStep turn ok point).Truthful := by
  have hthere : s.resource ≠ none := by rw [hstage]; exact nofun
  have hsound := h.sound.turnStep hstage ok
  have hshown := turnStep_shown h hstage ok
  have hsome {c : ServiceCoordinator} {next : ResourceStage} (hnext : next.Noted c.stopRequired) :
      ∀ stage ∈ some next, stage.Noted c.stopRequired := by
    intro stage hmem
    cases hmem
    exact hnext
  cases point with
  | reading | stopReading | stopCalling | stopClearing | startAnnouncing | startCalling
  | starting => exact h.resourceOn hsound hthere hshown (hsome trivial)
  | permitting | startReading =>
    refine h.resourceOn hsound hthere hshown (hsome ?_)
    split <;> trivial
  | aiming =>
    refine h.resourceOn hsound hthere hshown (hsome ?_)
    split
    · trivial
    split
    all_goals
      split
      · exact noted_turns _ _ _ _
      · trivial
  | stopNoting =>
    refine h.resourceOn hsound hthere hshown (hsome ?_)
    split
    · trivial
    · exact noted_afterStop _
  | stopHiding => exact h.resourceOn hsound hthere hshown (hsome (noted_afterStop _))
  | startPermitting =>
    refine h.resourceOn hsound hthere hshown (hsome ?_)
    split
    · trivial
    · exact noted_turns _ _ _ _
  | flagging started =>
    refine h.resourceOn hsound hthere hshown (hsome fun hstart => ?_)
    rw [stopRequired_setStopRequired, hstart, Bool.true_or]
  | startNoting => exact h.resourceOn hsound hthere hshown (hsome (noted_turns _ _ _ _))

end Turn

lemma Truthful.resourceStep (h : s.Truthful) (ok : Bool) : (s.resourceStep ok).Truthful := by
  have hsound := h.sound.resourceStep ok
  rw [ServiceSystem.resourceStep] at hsound ⊢
  have hgoes {stage : ResourceStage} (hstage : s.resource = some stage)
      (hwindow : ¬stage.Stopping ∧ ¬stage.Hiding) {c : ServiceCoordinator}
      {next : Option ResourceStage} (hhides : Hides s.coordinator c)
      (hnext : ∀ stage ∈ next, stage.Noted c.stopRequired)
      (hsound : (s.resourceOn c next []).Sound) : (s.resourceOn c next []).Truthful :=
    h.resourceOn hsound (by simp [hstage])
      (h.shown.resource_goes hstage hwindow hhides next) hnext
  split at hsound
  · exact h
  · rename_i hstage
    refine hgoes hstage ⟨id, id⟩ (.refl _) (fun _ hmem => ?_) hsound
    cases hmem
    trivial
  · rename_i job hstage
    split_ifs at hsound with htgt
    · rw [if_pos htgt]
      refine hgoes hstage ⟨id, id⟩ ⟨id, id⟩ (fun _ hmem => ?_) hsound
      cases hmem
      exact noted_turns _ _ _ _
    · rw [if_neg htgt]
      refine hgoes hstage ⟨id, id⟩ (.refl _) (fun _ hmem => ?_) hsound
      cases hmem
      exact noted_turns _ _ _ _
  · rename_i hstage
    exact h.turnStep hstage ok
  · rename_i job hstage
    refine hgoes hstage ⟨id, id⟩ (.refl _) (fun _ hmem => ?_) hsound
    cases hmem
    split <;> trivial
  · rename_i job hstage
    split_ifs at hsound with htgt
    · rw [if_pos htgt]
      refine hgoes hstage ⟨id, id⟩ ⟨id, id⟩ (fun _ hmem => ?_) hsound
      cases hmem
      trivial
    · rw [if_neg htgt]
      refine hgoes hstage ⟨id, id⟩ (.refl _) (fun _ hmem => ?_) hsound
      cases hmem
      trivial
  · rename_i job completed hstage
    exact hgoes hstage ⟨id, id⟩ (hides_finishResourceWorker _ _ _ _)
      (fun _ hmem => by cases hmem) hsound

/-! ## Runs -/

lemma Truthful.start (h : s.Truthful) (start : ProtocolServicesStart) :
    (s.start start).Truthful := by
  have hsound := h.sound.start start
  have hhides := hides_beginStart (c := s.coordinator) start.config
  rw [ServiceSystem.start] at hsound ⊢
  split at hsound
  · split at hsound
    · rename_i heq
      rw [heq] at hhides
      exact ⟨hsound, h.idle, h.shown.of_hides hhides id fun _ hmem _ => hmem, h.worker, h.resource⟩
    · exact h
  · exact h

lemma Truthful.desire (h : s.Truthful) (mode : ProtocolResourceMode) :
    (s.desire mode).Truthful := by
  have hsame := (sameServices_desire (c := s.coordinator) mode).required
  refine ⟨h.sound.same (sameServices_desire mode), h.idle,
    h.shown.of_hides (hides_desire mode) id fun _ hmem _ => hmem, fun stage hmem => ?_,
    fun stage hmem => ?_⟩
  · rw [ServiceSystem.desire, hsame]
    exact h.worker stage hmem
  · rw [ServiceSystem.desire, hsame]
    exact h.resource stage hmem

lemma Truthful.step (h : s.Truthful) {label : ServiceLabel} (hcalm : s.Calm label)
    (hfresh : s.Fresh label) : (s.step label).Truthful := by
  cases label with
  | start start => exact h.start start
  | tick =>
    have hsound := h.sound.step hcalm
    rw [ServiceSystem.step, ServiceSystem.tick] at hsound ⊢
    split at hsound
    · exact ⟨hsound, h.idle, h.shown.of_hides (.refl _) id fun _ hmem _ => hmem, h.worker,
        h.resource⟩
    · exact h
  | stop => exact hfresh.elim
  | desire mode => exact h.desire mode
  | main ok status => exact h.mainStep hcalm hfresh
  | stopper =>
    rw [ServiceSystem.step, ServiceSystem.stopperStep]
    simp only [h.idle]
    exact h
  | resource ok => exact h.resourceStep ok
  | worker service ok => exact h.workerStep service ok

end ServiceSystem

end NXCast
