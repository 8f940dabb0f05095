import NXCast.App.ServiceActivity

/-!
# Starts and stops of the services are paired

A service worker is to be created while no resource worker is there and no stop of the service is
owed, a resource worker while no service worker is there.
`coordinator_launch_resource_worker` looks for service workers;
`coordinator_launch_next_serial_worker` looks neither for the resource worker nor at
`stop_required`, and nothing keeps `protocol_coordinator_stop` from looking for workers while the
main thread is about to create one.  The results are about the runs in which this does not happen.
-/

namespace NXCast

open Function ProtocolCoordinator List ServiceSystem

/-- `protocol_coordinator_stop` has still to look at the worker of a service. -/
def StopStage.ahead (service : ProtocolService) : StopStage → Prop
  | .idle | .joiningResource | .waitingResource => True
  | .joining services | .waiting _ services => service ∈ services
  | _ => False

namespace ServiceSystem

/-- A service worker is created while nothing else acts on the service and no stop of it is owed.
`protocol_coordinator_stop` has still to look at any worker that is created, and by the time it
looks, the worker's flag is set. -/
def Calm (s : ServiceSystem) : ServiceLabel → Prop
  | .main true _ =>
    match s.main with
    | .creating service _ =>
      s.resource.isNone ∧ s.coordinator.stopRequired service = false ∧
        s.coordinator.lifecycle ≠ .stopped ∧ s.stopper.ahead service
    | .creatingResource =>
      s.coordinator.lifecycle ≠ .stopped ∧ (s.stopper = .idle ∨ s.stopper = .joiningResource)
    | _ => True
  | .stopper =>
    match s.stopper, s.main with
    | .joiningResource, .notingResource => False
    | .joining (service :: _), .noting other _ => other ≠ service
    | _, _ => True
  | _ => True

open ServiceCoordinator

variable {s s' : ServiceSystem} {c : ServiceCoordinator} {service : ProtocolService}

/-! ## The main thread -/

lemma Sound.mainOn (h : s.Sound) {main : MainStage}
    (hneed : c.stopRequired = s.coordinator.stopRequired)
    (hstop : c.lifecycle = .stopped ↔ s.coordinator.lifecycle = .stopped)
    (hstopping : c.lifecycle = .stopping ↔ s.coordinator.lifecycle = .stopping)
    (hflagged : ∀ service, s.workers service ≠ none → (c.workers service).threadStarted ∨ ∃ next, main = .noting service next)
    (hres : s.resource ≠ none → c.resourceWorker.threadStarted ∨ main = .notingResource)
    (hlive : c.lifecycle ≠ .stopped → c.runtimeActive ∨ ∃ start, main = .activating start)
    (hlaunch : s.Launching main) : (s.mainOn c main).Sound where
  paired := h.paired
  accounted hcoll service :=
    (h.accounted hcoll service).congr rfl (congrFun hneed service) rfl
  collected := h.collected
  alone := h.alone
  flagged := hflagged
  resourceFlagged := hres
  launching := hlaunch.mono (fun _ hnone => hnone) (fun hnone => hnone) fun hbare =>
    ⟨hbare.1, fun service => (congrFun hneed service).trans (hbare.2 service)⟩
  joined := h.joined.mono (fun _ hnone => hnone) (fun hnone => hnone) hstop hstopping
  live := hlive
  bare hlife hidle := by
    have hbare := h.bare (hstop.mp hlife) hidle
    exact ⟨hbare.1, fun service => (congrFun hneed service).trans (hbare.2 service)⟩

/-- The main thread neither has a thread to note nor is to become active. -/
def Plain : MainStage → Prop
  | .activating _ | .noting _ _ | .notingResource => False
  | _ => True

lemma Sound.started (h : s.Sound) (hplain : Plain s.main) (hwork : s.workers service ≠ none) :
    (s.coordinator.workers service).threadStarted := by
  rcases h.flagged service hwork with hstart | ⟨next, hmain⟩
  · exact hstart
  · rw [hmain] at hplain
    exact hplain.elim

lemma Sound.resourceStarted (h : s.Sound) (hplain : Plain s.main) (hres : s.resource ≠ none) :
    s.coordinator.resourceWorker.threadStarted := by
  rcases h.resourceFlagged hres with hstart | hmain
  · exact hstart
  · rw [hmain] at hplain
    exact hplain.elim

lemma Sound.active (h : s.Sound) (hplain : Plain s.main)
    (hlife : s.coordinator.lifecycle ≠ .stopped) : s.coordinator.runtimeActive := by
  rcases h.live hlife with hact | ⟨start, hmain⟩
  · exact hact
  · rw [hmain] at hplain
    exact hplain.elim

lemma Sound.main_goes (h : s.Sound) {main : MainStage} (hplain : Plain s.main)
    (hsame : SameServices s.coordinator c) (hlaunch : s.Launching main) :
    (s.mainOn c main).Sound := by
  refine h.mainOn hsame.required hsame.stopped hsame.stopping (fun service hwork => ?_)
    (fun hres => ?_) (fun hlife => ?_) hlaunch
  · exact .inl ((hsame.started service).trans (h.started hplain hwork))
  · exact .inl (hsame.resourceStarted.trans (h.resourceStarted hplain hres))
  · have hact := h.active hplain fun hstop => hlife (hsame.stopped.mpr hstop)
    exact .inl (hsame.active.trans hact)

variable {next : MainNext}

lemma launching_stage (h : s.Unlaunched next.services) : s.Launching next.stage := by
  cases next with
  | resources => trivial
  | launch services =>
    cases services with
    | nil => trivial
    | cons service rest => exact h

lemma unlaunched_nil : s.Unlaunched [] := ⟨nodup_nil, nofun⟩

lemma Sound.gone_of_inactive (h : s.Sound) (hplain : Plain s.main)
    (hidle : s.coordinator.serviceWorkerActive = false) (service : ProtocolService) :
    s.workers service = none := by
  by_contra hwork
  have hstart := h.started hplain hwork
  rw [not_started_of_inactive hidle service] at hstart
  cases hstart

variable {ok : Bool} {status : Option ProtocolAirPlayStatus}

section

variable (h : s.Sound)

include h

/-- `coordinator_launch_service_worker`, its thread created. -/
lemma Sound.create (hmain : s.main = .creating service next)
    (hcalm : s.Calm (.main true status)) : (s.mainStep true status).Sound := by
  rw [Calm, hmain] at hcalm
  obtain ⟨hres, hneed, hlife, hahead⟩ := hcalm
  rw [Option.isNone_iff_eq_none] at hres
  have hlaunch := h.launching
  rw [hmain] at hlaunch
  obtain ⟨hnodup, hnone⟩ := hlaunch
  rw [nodup_cons] at hnodup
  have hplain : Plain s.main := by rw [hmain]; trivial
  have hother {other : ProtocolService} (hne : other ≠ service) :
      update s.workers service (some .copying) other = s.workers other := update_of_ne hne _ _
  simp only [ServiceSystem.mainStep, hmain]
  rw [if_pos trivial]
  constructor
  · exact h.paired
  · intro hcoll other
    have hacct := h.accounted hcoll other
    by_cases heq : other = service
    · subst heq
      rw [Accounted, activity_of_gone (hnone other mem_cons_self) hres] at hacct
      rw [Accounted, activity_of_worker (update_self _ _ _)]
      exact ⟨hneed, hacct.trans (congrArg _ hneed)⟩
    · exact hacct.congr (activity_congr (hother heq) rfl) rfl rfl
  · exact h.collected
  · exact absurd hres
  · intro other hwork
    by_cases heq : other = service
    · exact .inr ⟨next, by rw [heq]; rfl⟩
    have hstart := h.started hplain fun hnone => hwork ((hother heq).trans hnone)
    refine .inl ?_
    simp only [ServiceSystem.mainOn]
    rw [update_of_ne heq]
    exact hstart
  · exact absurd hres
  · refine ⟨hnodup.2, fun other hmem => ?_⟩
    have hne : other ≠ service := fun heq => hnodup.1 (heq ▸ hmem)
    exact (hother hne).trans (hnone other (.tail _ hmem))
  · have hjoin := h.joined
    revert hahead hjoin
    simp only [ServiceSystem.mainOn]
    cases s.stopper with
    | idle => exact fun _ _ => trivial
    | joiningResource | waitingResource => exact fun _ hjoin => hjoin
    | joining services =>
      intro hahead hjoin
      refine ⟨hjoin.1, hjoin.2.1, fun other hmem => ?_⟩
      have hne : other ≠ service := fun heq => hmem (heq ▸ hahead)
      exact (hother hne).trans (hjoin.2.2 other hmem)
    | waiting first services =>
      intro hahead hjoin
      refine ⟨hjoin.1, hjoin.2.1, fun other hfirst hmem => ?_⟩
      have hne : other ≠ service := fun heq => hmem (heq ▸ hahead)
      exact (hother hne).trans (hjoin.2.2 other hfirst hmem)
    | _ => exact (·.elim)
  · exact fun _ => .inl (h.active hplain hlife)
  · exact fun hstop => absurd hstop hlife

/-- `coordinator_launch_resource_worker`, its thread created. -/
lemma Sound.createResource (hmain : s.main = .creatingResource)
    (hcalm : s.Calm (.main true status)) : (s.mainStep true status).Sound := by
  rw [Calm, hmain] at hcalm
  obtain ⟨hlife, hstop⟩ := hcalm
  have hgone := h.launching
  rw [hmain] at hgone
  have hplain : Plain s.main := by rw [hmain]; trivial
  simp only [mainStep, hmain]
  constructor
  · exact h.paired
  · intro hcoll service
    refine (h.accounted hcoll service).congr ?_ rfl rfl
    have hcopying : ResourceStage.copying.activity service = .settled := rfl
    rw [activity_of_gone (hgone.2 service) hgone.1, ← hcopying]
    exact activity_of_resource (hgone.2 service) rfl
  · exact h.collected
  · exact fun _ => hgone.2
  · exact fun service hwork => absurd (hgone.2 service) hwork
  · exact fun _ => .inr rfl
  · trivial
  · have hjoin := h.joined
    simp only [ServiceSystem.mainOn]
    rcases hstop with hstop | hstop
    · rw [hstop]
      trivial
    · rw [hstop] at hjoin ⊢
      exact hjoin
  · exact fun _ => .inl (h.active hplain hlife)
  · exact fun hstopped => absurd hstopped hlife

/-- The second section of `protocol_coordinator_start`. -/
lemma Sound.activate {start : ProtocolServicesStart} (hmain : s.main = .activating start) :
    (s.mainStep ok status).Sound := by
  have hbare := h.launching
  rw [hmain] at hbare
  have hgone := hbare.1
  simp only [mainStep, hmain]
  refine h.mainOn rfl .rfl .rfl (fun service hwork => absurd (hgone.2 service) hwork)
    (absurd hgone.1) (fun _ => .inl rfl) ?_
  split
  · rfl
  · apply launching_stage
    exact ⟨List.Nodup.filter _ (by decide), fun service _ => hgone.2 service⟩

/-- `coordinator_launch_next_serial_worker` finds a service only where no worker is active. -/
lemma Sound.checkSerial (hmain : s.main = .checkingSerial next) : (s.mainStep ok status).Sound := by
  have hplain : Plain s.main := by rw [hmain]; trivial
  have hlaunch := h.launching
  rw [hmain] at hlaunch
  obtain ⟨hserial, hidle⟩ := nextSerialService_spec (c := s.coordinator)
  simp only [mainStep, hmain]
  split
  · rename_i service c heq
    rw [heq] at hserial hidle
    refine h.main_goes hplain hserial ?_
    have hnone := h.gone_of_inactive hplain (hidle nofun)
    show s.Unlaunched (service :: next.services)
    rw [hlaunch]
    exact ⟨nodup_singleton service, fun other _ => hnone other⟩
  · rename_i c heq
    rw [heq] at hserial
    refine h.main_goes hplain hserial (launching_stage ?_)
    rw [hlaunch]
    exact unlaunched_nil

/-- `coordinator_launch_service_worker`, its thread not created. -/
lemma Sound.createFailed (hmain : s.main = .creating service next) :
    (s.mainStep false status).Sound := by
  have hplain : Plain s.main := by rw [hmain]; trivial
  have hlaunch := h.launching
  rw [hmain] at hlaunch
  obtain ⟨hnodup, hnone⟩ := hlaunch
  simp only [mainStep, hmain]
  refine h.mainOn rfl .rfl .rfl (fun other hwork => .inl ?_)
    (fun hres => .inl (h.resourceStarted hplain hres))
    (fun hlife => .inl (h.active hplain hlife)) ?_
  · have hne : other ≠ service := by
      rintro rfl
      exact hwork (hnone other mem_cons_self)
    dsimp only
    rw [update_of_ne hne]
    exact h.started hplain hwork
  · exact ⟨(nodup_cons.mp hnodup).2, fun other hmem =>
      hnone other (.tail _ hmem)⟩

lemma Sound.note (hmain : s.main = .noting service next) : (s.mainStep ok status).Sound := by
  have hlaunch := h.launching
  rw [hmain] at hlaunch
  simp only [mainStep, hmain]
  refine h.mainOn rfl .rfl .rfl (fun other hwork => .inl ?_) (fun hres => .inl ?_)
    (fun hlife => .inl ?_) (launching_stage hlaunch)
  · dsimp only
    by_cases heq : other = service
    · rw [heq, update_self]
    rw [update_of_ne heq]
    rcases h.flagged other hwork with hstart | ⟨next', hnoting⟩
    · exact hstart
    · rw [hmain] at hnoting
      exact absurd (MainStage.noting.inj hnoting).1.symm heq
  · exact (h.resourceFlagged hres).resolve_right (by rw [hmain]; exact nofun)
  · exact (h.live hlife).resolve_right (by rw [hmain]; exact nofun)

lemma Sound.noteResource (hmain : s.main = .notingResource) : (s.mainStep ok status).Sound := by
  simp only [mainStep, hmain]
  refine h.mainOn rfl .rfl .rfl (fun other hwork => .inl ?_) (fun _ => .inl rfl)
    (fun hlife => .inl ?_) trivial
  · exact (h.flagged other hwork).resolve_right (by rw [hmain]; exact nofun)
  · exact (h.live hlife).resolve_right (by rw [hmain]; exact nofun)

lemma Sound.joinWorker {rest : List ProtocolService} (hmain : s.main = .waiting service rest) :
    (s.mainStep ok status).Sound := by
  have hplain : Plain s.main := by rw [hmain]; trivial
  simp only [mainStep, hmain]
  split_ifs with hnone
  · refine h.mainOn rfl .rfl .rfl (fun other hwork => .inl ?_)
      (fun hres => .inl (h.resourceStarted hplain hres))
      (fun hlife => .inl (h.active hplain hlife)) trivial
    have hne : other ≠ service := by
      rintro rfl
      exact hwork hnone
    dsimp only
    rw [update_of_ne hne]
    exact h.started hplain hwork
  · exact h

lemma Sound.joinResource (hmain : s.main = .waitingResource) : (s.mainStep ok status).Sound := by
  have hplain : Plain s.main := by rw [hmain]; trivial
  simp only [mainStep, hmain]
  split_ifs with hnone
  · rw [Option.isNone_iff_eq_none] at hnone
    exact h.mainOn rfl .rfl .rfl (fun other hwork => .inl (h.started hplain hwork)) (absurd hnone)
      (fun hlife => .inl (h.active hplain hlife)) rfl
  · exact h

/-- `coordinator_launch_resource_worker` goes on only where no resource worker is there. -/
lemma Sound.checkResources (hmain : s.main = .checkingResources) :
    (s.mainStep ok status).Sound := by
  have hplain : Plain s.main := by rw [hmain]; trivial
  simp only [mainStep, hmain]
  refine h.main_goes hplain (.refl _) ?_
  split_ifs with hneeds
  · show s.resource = none
    by_contra hres
    have hstart := h.resourceStarted hplain hres
    simp [needsResourceWorker, hstart] at hneeds
  · trivial

lemma Sound.checkWorkers {target : ProtocolResourceMode}
    (hmain : s.main = .checkingWorkers target) : (s.mainStep ok status).Sound := by
  have hplain : Plain s.main := by rw [hmain]; trivial
  have hlaunch := h.launching
  rw [hmain] at hlaunch
  simp only [mainStep, hmain]
  refine h.main_goes hplain (.refl _) ?_
  split_ifs with hidle
  · trivial
  · rw [Bool.not_eq_true] at hidle
    exact ⟨hlaunch, h.gone_of_inactive hplain hidle⟩

lemma Sound.prepare {target : ProtocolResourceMode} (hmain : s.main = .preparing target) :
    (s.mainStep ok status).Sound := by
  have hplain : Plain s.main := by rw [hmain]; trivial
  have hlaunch := h.launching
  rw [hmain] at hlaunch
  simp only [mainStep, hmain]
  exact h.mainOn rfl .rfl .rfl (fun other hwork => .inl (h.started hplain hwork)) (absurd hlaunch.1)
    (fun hlife => .inl (h.active hplain hlife)) hlaunch

lemma Sound.mainStep (hcalm : s.Calm (.main ok status)) :
    (s.mainStep ok status).Sound := by
  have hsame := SameServices.refl s.coordinator
  have hlaunch := h.launching
  by_cases hplain : Plain s.main
  · cases hmain : s.main with
    | idle =>
      simp only [ServiceSystem.mainStep, hmain]
      exact h
    | checkingSerial next => exact h.checkSerial hmain
    | creating service next =>
      cases ok with
      | true => exact h.create hmain hcalm
      | false => exact h.createFailed hmain
    | failing service next =>
      rw [hmain] at hlaunch
      simp only [ServiceSystem.mainStep, hmain]
      exact h.main_goes hplain (sameServices_setServiceState _ _) (launching_stage hlaunch)
    | joining services =>
      cases services with
      | nil =>
        simp only [ServiceSystem.mainStep, hmain]
        exact h.main_goes hplain hsame trivial
      | cons service rest =>
        simp only [ServiceSystem.mainStep, hmain]
        refine h.main_goes hplain hsame ?_
        split
        all_goals trivial
    | waiting service rest => exact h.joinWorker hmain
    | reapingResource | joiningResource =>
      simp only [ServiceSystem.mainStep, hmain]
      refine h.main_goes hplain hsame ?_
      split
      · trivial
      · rfl
    | waitingResource => exact h.joinResource hmain
    | checkingResources => exact h.checkResources hmain
    | checkingWorkers target => exact h.checkWorkers hmain
    | preparing target => exact h.prepare hmain
    | creatingResource =>
      cases ok with
      | true => exact h.createResource hmain hcalm
      | false =>
        simp only [ServiceSystem.mainStep, hmain]
        exact h.main_goes hplain hsame trivial
    | failingResource =>
      simp only [ServiceSystem.mainStep, hmain]
      exact h.main_goes hplain ⟨⟨fun _ => rfl, rfl, rfl, .rfl, .rfl⟩, rfl⟩ trivial
    | reaping =>
      simp only [ServiceSystem.mainStep, hmain]
      exact h.main_goes hplain hsame trivial
    | polling =>
      simp only [ServiceSystem.mainStep, hmain]
      refine h.main_goes hplain hsame ?_
      split
      all_goals trivial
    | asking =>
      simp only [ServiceSystem.mainStep, hmain]
      split
      all_goals exact h.main_goes hplain hsame trivial
    | writing status =>
      simp only [ServiceSystem.mainStep, hmain]
      exact h.main_goes hplain (sameServices_writeAirplayStatus status) trivial
    | showing status =>
      simp only [ServiceSystem.mainStep, hmain]
      exact h.main_goes hplain (sameServices_setServiceState _ _) trivial
    | _ =>
      rw [hmain] at hplain
      exact hplain.elim
  · cases hmain : s.main with
    | activating start => exact h.activate hmain
    | noting service next => exact h.note hmain
    | notingResource => exact h.noteResource hmain
    | _ =>
      rw [hmain] at hplain
      exact absurd trivial hplain

/-! ## `protocol_coordinator_stop` -/

/-- `protocol_coordinator_stop` waits for the workers. -/
lemma Sound.stopper_waits {stopper : StopStage}
    (hneed : c.stopRequired = s.coordinator.stopRequired)
    (hlife : c.lifecycle = s.coordinator.lifecycle)
    (hact : c.runtimeActive = s.coordinator.runtimeActive)
    (hflagged : ∀ service, s.workers service ≠ none → (c.workers service).threadStarted = (s.coordinator.workers service).threadStarted)
    (hres : s.resource ≠ none → c.resourceWorker.threadStarted = s.coordinator.resourceWorker.threadStarted)
    (hold : s.stopper.collected = none) (hnew : stopper.collected = none) (hstop : stopper ≠ .idle)
    (hjoin : s.Joined stopper) :
    (s.stopperOn c stopper []).Sound where
  paired := by simpa [stopperOn] using h.paired
  accounted _ service :=
    (h.accounted hold service).congr rfl (congrFun hneed service) (congrArg _ (append_nil _))
  collected services hcoll := by
    rw [stopperOn, hnew] at hcoll
    cases hcoll
  alone := h.alone
  flagged service hwork := (h.flagged service hwork).imp_left (hflagged service hwork).trans
  resourceFlagged hthere := (h.resourceFlagged hthere).imp_left (hres hthere).trans
  launching := h.launching.mono (fun _ hnone => hnone) (fun hnone => hnone) fun hbare =>
    ⟨hbare.1, fun service => (congrFun hneed service).trans (hbare.2 service)⟩
  joined := hjoin.mono (fun _ hnone => hnone) (fun hnone => hnone)
    (by rw [stopperOn, hlife]) (by rw [stopperOn, hlife])
  live hrun := by
    rw [stopperOn, hlife] at hrun
    exact (h.live hrun).imp_left hact.trans
  bare _ hidle := absurd hidle hstop

/-- `protocol_coordinator_stop` has collected what it has to stop. -/
lemma Sound.stopper_stops (hgone : s.Gone) {stopper : StopStage}
    {events : List ServiceEvent} {services : List ProtocolService}
    (hneed : c.stopRequired = s.coordinator.stopRequired)
    (hpaired : Trace.Each ServicePaired (s.history ++ events))
    (hcoll : stopper.collected = some services)
    (hphases : ∀ service, servicePhase service (s.history ++ events) = .ofOwed (decide (service ∈ services)))
    (hjoin : (s.stopperOn c stopper events).Joined stopper)
    (hlive : c.lifecycle ≠ .stopped → c.runtimeActive ∨ ∃ start, s.main = .activating start) :
    (s.stopperOn c stopper events).Sound where
  paired := hpaired
  accounted hnone := by
    rw [stopperOn, hcoll] at hnone
    cases hnone
  collected services' hcoll' := by
    rw [stopperOn, hcoll, Option.some_inj] at hcoll'
    exact hcoll' ▸ hphases
  alone _ := hgone.2
  flagged service hwork := absurd (hgone.2 service) hwork
  resourceFlagged hthere := absurd hgone.1 hthere
  launching := h.launching.mono (fun _ hnone => hnone) (fun hnone => hnone) fun hbare =>
    ⟨hbare.1, fun service => (congrFun hneed service).trans (hbare.2 service)⟩
  joined := hjoin
  live := hlive
  bare _ hidle := by
    change stopper = .idle at hidle
    rw [hidle] at hcoll
    cases hcoll

lemma Sound.collect (hstop : s.stopper = .collecting) (service : ProtocolService) :
    servicePhase service s.history = .ofOwed (decide (service ∈
        if s.coordinator.runtimeActive then
          protocolServices.reverse.filter s.coordinator.stopRequired
        else [])) := by
  have hjoin := h.joined
  rw [hstop] at hjoin
  obtain ⟨hlife, hgone⟩ := hjoin
  have hacct := h.accounted (by rw [hstop]; rfl) service
  rw [Accounted, activity_of_gone (hgone.2 service) hgone.1] at hacct
  refine hacct.trans (congrArg _ ?_)
  rcases h.live (by simp [hlife]) with hact | ⟨start, hmain⟩
  · have hmem : service ∈ protocolServices.reverse := by cases service <;> decide
    rw [if_pos hact]
    simp only [mem_filter, hmem, true_and, Bool.decide_eq_true]
  · have hbare := h.launching
    rw [hmain] at hbare
    simp only [mem_ite_nil_right, mem_filter, hbare.2, Bool.false_eq_true, and_false, decide_false]

/-- The first part of `protocol_coordinator_stop`. -/
lemma Sound.joinStep (hcalm : s.Calm .stopper)
    (hstage : s.stopper.collected = none) (hcollecting : s.stopper ≠ .collecting) :
    s.stopperStep.Sound := by
  have hjoin := h.joined
  cases hstop : s.stopper with
  | idle =>
    simp only [stopperStep, hstop]
    exact h
  | joiningResource =>
    rw [hstop] at hjoin
    simp only [stopperStep, hstop]
    refine h.stopper_waits rfl rfl rfl (fun _ _ => rfl) (fun _ => rfl) hstage ?_ ?_ ?_
    · split <;> rfl
    · split <;> exact nofun
    split_ifs with hstart
    · exact hjoin
    refine ⟨hjoin, ?_, fun service hmem => absurd (by cases service <;> decide) hmem⟩
    by_contra hres
    have hmain : s.main = .notingResource :=
      (h.resourceFlagged hres).resolve_left hstart
    rw [Calm, hstop, hmain] at hcalm
    exact hcalm
  | waitingResource =>
    rw [hstop] at hjoin
    simp only [stopperStep, hstop]
    split_ifs with hnone
    · rw [Option.isNone_iff_eq_none] at hnone
      exact h.stopper_waits rfl rfl rfl (fun _ _ => rfl) (absurd hnone) hstage rfl nofun
        ⟨hjoin, hnone, fun service hmem => absurd (by cases service <;> decide) hmem⟩
    · exact h
  | joining services =>
    rw [hstop] at hjoin
    cases services with
    | nil =>
      simp only [stopperStep, hstop]
      exact h.stopper_waits rfl rfl rfl (fun _ _ => rfl) (fun _ => rfl) hstage rfl nofun
        ⟨hjoin.1, hjoin.2.1, fun service => hjoin.2.2 service not_mem_nil⟩
    | cons first rest =>
      simp only [stopperStep, hstop]
      refine h.stopper_waits rfl rfl rfl (fun _ _ => rfl) (fun _ => rfl) hstage ?_ ?_ ?_
      · split <;> rfl
      · split <;> exact nofun
      split_ifs with hstart
      · refine ⟨hjoin.1, hjoin.2.1, fun service hfirst hmem => hjoin.2.2 service ?_⟩
        exact not_mem_cons_of_ne_of_not_mem hfirst hmem
      refine ⟨hjoin.1, hjoin.2.1, fun service hmem => ?_⟩
      by_cases hfirst : service = first
      · subst hfirst
        by_contra hwork
        obtain ⟨next, hmain⟩ := (h.flagged service hwork).resolve_left hstart
        rw [Calm, hstop, hmain] at hcalm
        exact hcalm rfl
      · exact hjoin.2.2 service (not_mem_cons_of_ne_of_not_mem hfirst hmem)
  | waiting first rest =>
    rw [hstop] at hjoin
    simp only [stopperStep, hstop]
    split_ifs with hnone
    · refine h.stopper_waits rfl rfl rfl (fun service hwork => ?_) (fun _ => rfl) hstage rfl
        nofun ⟨hjoin.1, hjoin.2.1, fun service hmem => ?_⟩
      · have hne : service ≠ first := by
          rintro rfl
          exact hwork hnone
        dsimp only
        rw [update_of_ne hne]
      · by_cases hfirst : service = first
        · exact hfirst ▸ hnone
        · exact hjoin.2.2 service hfirst hmem
    · exact h
  | collecting => exact absurd hstop hcollecting
  | _ =>
    rw [hstop] at hstage
    cases hstage

/-- The second part of `protocol_coordinator_stop`. -/
lemma Sound.stopStep (hstage : s.stopper.collected ≠ none ∨ s.stopper = .collecting) : s.stopperStep.Sound := by
  have hjoin := h.joined
  cases hstop : s.stopper with
  | collecting =>
    rw [hstop] at hjoin
    simp only [stopperStep, hstop]
    refine h.stopper_stops hjoin.2 rfl (by simpa using h.paired) rfl ?_ ?_ h.live
    · rw [append_nil]
      exact h.collect hstop
    refine ⟨hjoin.1, hjoin.2, ?_⟩
    split
    · exact List.Nodup.filter _ (by decide)
    · exact nodup_nil
  | calling services =>
    rw [hstop] at hjoin
    have hphases := h.collected services (by rw [hstop]; rfl)
    cases services with
    | nil =>
      simp only [stopperStep, hstop]
      refine h.stopper_stops hjoin.2.1 rfl (by simpa using h.paired) rfl ?_
        ⟨hjoin.1, hjoin.2.1⟩ h.live
      rw [append_nil]
      exact hphases
    | cons first rest =>
      simp only [stopperStep, hstop]
      have hnodup := nodup_cons.mp hjoin.2.2
      refine h.stopper_stops hjoin.2.1 rfl (Trace.each_concat.mpr ⟨h.paired, ?_⟩) rfl
        (fun service => ?_) hjoin h.live
      · exact (hphases first).trans (by simp)
      rw [servicePhase_concat]
      by_cases heq : first = service
      · subst heq
        simp [ServicePhase.after, hnodup.1]
      · rw [hphases service]
        simp [ServicePhase.after, heq, Ne.symm heq]
  | noting rest service =>
    rw [hstop] at hjoin
    have hphases := h.collected rest (by rw [hstop]; rfl)
    have hset := sameServices_setServiceState (c := s.coordinator) service .stopped
    simp only [stopperStep, hstop]
    refine h.stopper_stops hjoin.2.1 hset.required (by simpa using h.paired) rfl ?_
      ⟨hset.stopping.mpr hjoin.1, hjoin.2.1, (nodup_cons.mp hjoin.2.2).2⟩
      fun hlife => ?_
    · rw [append_nil]
      exact hphases
    · rw [hset.active]
      exact h.live fun hstopped => hlife (hset.stopped.mpr hstopped)
  | finishing =>
    rw [hstop] at hjoin
    have hphases := h.collected [] (by rw [hstop]; rfl)
    have hstopped : (finishStop s.coordinator.toProtocolCoordinator).lifecycle = .stopped :=
      (finishStop_spec _).2.1
    simp only [stopperStep, hstop]
    refine h.stopper_stops hjoin.2 rfl (by simpa using h.paired) rfl ?_ ⟨hstopped, hjoin.2⟩
      fun hlife => absurd hstopped hlife
    rw [append_nil]
    exact hphases
  | resuming =>
    rw [hstop] at hjoin
    have hphases := h.collected [] (by rw [hstop]; rfl)
    simp only [stopperStep, hstop]
    refine h.stopper_stops hjoin.2 rfl (by simpa using h.paired) rfl ?_ hjoin h.live
    rw [append_nil]
    exact hphases
  | clearing =>
    rw [hstop] at hjoin
    obtain ⟨hstopped, hgone⟩ := hjoin
    have hphases := h.collected [] (by rw [hstop]; rfl)
    simp only [stopperStep, hstop]
    constructor
    · exact Trace.each_concat.mpr ⟨h.paired, hphases⟩
    · intro _ service
      have hactivity :
          (s.stopperOn s.coordinator.clearServices .idle [.returned]).activity service = .settled :=
        activity_of_gone (hgone.2 service) hgone.1
      rw [Accounted, hactivity]
      exact (servicePhase_concat _).trans (hphases service)
    · exact fun services hcoll => by cases hcoll
    · exact fun _ => hgone.2
    · exact fun service hwork => absurd (hgone.2 service) hwork
    · exact absurd hgone.1
    · exact h.launching.mono (fun _ hnone => hnone) (fun hnone => hnone) fun _ =>
        ⟨hgone, fun _ => rfl⟩
    · trivial
    · exact absurd hstopped
    · exact fun _ _ => ⟨hgone, fun _ => rfl⟩
  | _ =>
    rw [hstop] at hstage
    rcases hstage with hcoll | hcollecting
    · exact absurd rfl hcoll
    · cases hcollecting

/-! ## Calls -/

lemma Sound.start (start : ProtocolServicesStart) : (s.start start).Sound := by
  rw [ServiceSystem.start]
  split
  · rename_i hmain hstop
    rw [beginStart]
    split
    · rename_i heq
      split_ifs at heq with hstopped
      · cases heq
      have hbare := h.bare (not_not.mp hstopped) hstop
      cases heq
      constructor
      · exact h.paired
      · exact h.accounted
      · exact h.collected
      · exact h.alone
      · exact fun service hwork => absurd (hbare.1.2 service) hwork
      · exact absurd hbare.1.1
      · exact hbare
      · simp only [ServiceSystem.mainOn]
        rw [hstop]
        trivial
      · exact fun _ => .inr ⟨start, rfl⟩
      · exact fun _ _ => hbare
    · exact h
  · exact h

lemma Sound.stop : s.stop.Sound := by
  rw [ServiceSystem.stop]
  split
  · rename_i hstop
    have hcoll : s.stopper.collected = none := by rw [hstop]; rfl
    rw [beginStop]
    split
    · rename_i heq
      split_ifs at heq with hrun
      · cases heq
      rw [not_or] at hrun
      cases heq
      constructor
      · simpa [stopperOn] using h.paired
      · exact fun _ service => (h.accounted hcoll service).congr rfl rfl (congrArg _ (append_nil _))
      · exact fun services hsome => by cases hsome
      · exact h.alone
      · exact h.flagged
      · exact h.resourceFlagged
      · exact h.launching.mono (fun _ hnone => hnone) (fun hnone => hnone) fun hbare => hbare
      · rfl
      · exact fun _ => h.live hrun.1
      · exact fun _ hidle => by cases hidle
    · exact h
  · exact h

lemma Sound.same (hsame : SameServices s.coordinator c) :
    ({ s with coordinator := c } : ServiceSystem).Sound where
  paired := h.paired
  accounted hcoll service :=
    (h.accounted hcoll service).congr rfl (congrFun hsame.required service) rfl
  collected := h.collected
  alone := h.alone
  flagged service hwork := (h.flagged service hwork).imp_left (hsame.started service).trans
  resourceFlagged hres := (h.resourceFlagged hres).imp_left hsame.resourceStarted.trans
  launching := h.launching.mono (fun _ hnone => hnone) (fun hnone => hnone) fun hbare =>
    ⟨hbare.1, fun service => (congrFun hsame.required service).trans (hbare.2 service)⟩
  joined := h.joined.mono (fun _ hnone => hnone) (fun hnone => hnone) hsame.stopped hsame.stopping
  live hlife :=
    (h.live fun hstop => hlife (hsame.stopped.mpr hstop)).imp_left hsame.active.trans
  bare hlife hidle :=
    have hbare := h.bare (hsame.stopped.mp hlife) hidle
    ⟨hbare.1, fun service => (congrFun hsame.required service).trans (hbare.2 service)⟩

end

/-! ## Runs -/

lemma sound_initial : initial.Sound where
  paired := Trace.each_nil
  accounted _ _ := rfl
  collected services hcoll := by cases hcoll
  alone hres := absurd rfl hres
  flagged _ hwork := absurd rfl hwork
  resourceFlagged hres := absurd rfl hres
  launching := trivial
  joined := trivial
  live hlife := absurd rfl hlife
  bare _ _ := ⟨⟨rfl, fun _ => rfl⟩, fun _ => rfl⟩

lemma Sound.step (h : s.Sound) {label : ServiceLabel} (hcalm : s.Calm label) :
    (s.step label).Sound := by
  cases label with
  | start start => exact h.start start
  | tick =>
    rw [ServiceSystem.step, ServiceSystem.tick]
    split
    · rename_i hmain
      exact h.main_goes (by rw [hmain]; trivial) (.refl _) trivial
    · exact h
  | stop => exact h.stop
  | desire mode => exact h.same (sameServices_desire mode)
  | main ok status => exact h.mainStep hcalm
  | stopper =>
    by_cases hstage : s.stopper.collected ≠ none ∨ s.stopper = .collecting
    · exact h.stopStep hstage
    · rw [not_or, not_not] at hstage
      exact h.joinStep hcalm hstage.1 hstage.2
  | resource ok => exact h.resourceStep ok
  | worker service ok => exact h.workerStep service ok

lemma Sound.of_reachable (hrun : s.Reachable Calm) : s.Sound := by
  induction hrun with
  | initial => exact sound_initial
  | step label _ hcalm ih => exact ih.step hcalm

/-- **Every start is paired with a stop.**  In a run in which every service worker is created while
nothing else acts on the service and no stop of it is owed, and while `protocol_coordinator_stop`
has still to look for it, an attempt that succeeded, or is to be stopped, is followed by one stop
before the next start of the service and before `protocol_coordinator_stop` returns, and there are
no other stops. -/
theorem services_paired (hrun : s.Reachable Calm) : Trace.Each ServicePaired s.history :=
  (Sound.of_reachable hrun).paired

/-- AirPlay alone, without serial startup. -/
def airplayStart : ServiceLabel :=
  .start ⟨⟨(· = .airplay), false, .none⟩, false, fun _ => false, false, false⟩

/-- AirPlay is started and stopped: its worker is created, notes that it has been started and ends,
and `protocol_coordinator_stop` runs to its end. -/
theorem services_paired_stopped :
    ∃ s : ServiceSystem, s.history =
        [.starting .airplay, .started .airplay true, .stopped .airplay, .returned] ∧
      Trace.Each ServicePaired s.history := by
  have hactive : ((initial.step airplayStart).step (.main false none)).Reachable Calm :=
    .step _ (.step _ .initial trivial) trivial
  have hnoted := (hactive.step (.main true none) ⟨rfl, rfl, nofun, trivial⟩).step
    (.main false none) trivial
  have hstarted := ((((((hnoted.step (.worker .airplay true) trivial).step
    (.worker .airplay true) trivial).step (.worker .airplay true) trivial).step
    (.worker .airplay true) trivial).step (.worker .airplay true) trivial).step
    (.worker .airplay true) trivial)
  have hjoined := (((((((hstarted.step .stop trivial).step .stopper trivial).step .stopper
    trivial).step .stopper trivial).step .stopper trivial).step .stopper trivial).step .stopper
    trivial)
  have hreturned := (((((((hjoined.step .stopper trivial).step .stopper trivial).step .stopper
    trivial).step .stopper trivial).step .stopper trivial).step .stopper trivial).step .stopper
    trivial)
  exact ⟨_, by decide +kernel, services_paired hreturned⟩

/-- All services one after the other, and a resource worker.  The threads of IPTV and DLNA cannot be
created; the resource worker, launched by the tick that fails to create the second, starts all
three; the next tick launches the worker of AirPlay. -/
def serialStart : List ServiceLabel :=
  [.start ⟨⟨fun _ => true, true, .none⟩, true, fun _ => false, true, true⟩] ++
    List.replicate 4 (.main false none) ++
    [.tick] ++ List.replicate 9 (.main false none) ++ List.replicate 3 (.main true none) ++
    List.replicate 44 (.resource true) ++
    [.tick] ++ List.replicate 7 (.main true none) ++ List.replicate 2 (.worker .airplay true)

/-- `protocol_coordinator_stop` runs to its end while `protocol_coordinator_start` is about to create
the worker of AirPlay, and `protocol_coordinator_start` is called again. -/
def lateStart : List ServiceLabel :=
  [airplayStart, .main true none, .stop] ++ List.replicate 10 .stopper ++
    List.replicate 2 (.main true none) ++ List.replicate 6 (.worker .airplay true) ++
    [airplayStart] ++ List.replicate 2 (.main true none) ++ List.replicate 2 (.worker .airplay true)

/-- **A service that is started twice.**  Its first start, by the resource worker, has succeeded and
not been stopped when its own worker starts it again.  The other run gets there on two threads: the
service is started behind `protocol_coordinator_stop`, and again by the next start. -/
theorem started_twice :
    (∃ s : ServiceSystem, s.Reachable (fun _ _ => True) ∧ s.history =
        [.starting .iptv, .started .iptv true, .starting .dlna, .started .dlna true,
          .starting .airplay, .started .airplay true, .starting .airplay] ∧
      ¬Trace.Each ServicePaired s.history) ∧
      ∃ s : ServiceSystem, s.Reachable (fun _ _ => True) ∧ s.history =
        [.returned, .starting .airplay, .started .airplay true, .starting .airplay] ∧
      ¬Trace.Each ServicePaired s.history := by
  constructor
  · have hhistory : (initial.run serialStart).history =
        [.starting .iptv, .started .iptv true, .starting .dlna, .started .dlna true,
          .starting .airplay, .started .airplay true] ++ [.starting .airplay] := by decide +kernel
    refine ⟨_, .run .initial serialStart, hhistory, fun hpaired => ?_⟩
    rw [hhistory, Trace.each_concat] at hpaired
    have hidle : ServicePhase.owed = .idle := hpaired.2
    cases hidle
  · have hhistory : (initial.run lateStart).history =
        [.returned, .starting .airplay, .started .airplay true] ++ [.starting .airplay] := by
      decide +kernel
    refine ⟨_, .run .initial lateStart, hhistory, fun hpaired => ?_⟩
    rw [hhistory, Trace.each_concat] at hpaired
    have hidle : ServicePhase.owed = .idle := hpaired.2
    cases hidle

end ServiceSystem

end NXCast
