import NXCast.App.ServiceWorkers
import NXCast.Framework.Trace
import Mathlib.Data.List.Nodup
import Mathlib.Tactic.Tauto

/-!
# What the workers do with the services

A service is idle, or its `start` is being called, or a `stop` is owed to it.  The flag in
`stop_required` says which, except while a worker acts on the service, and then the point where
that worker stands says it.  At most one worker acts on a service, and a step of it keeps flag
and phase in agreement.
-/

namespace NXCast

open Function ProtocolCoordinator List ResourceStage ResourceTurn

/-! ## Phases -/

/-- How it stands with a service. -/
inductive ServicePhase where
  | idle
  | starting
  | owed
deriving DecidableEq

/-- A stop is owed or not. -/
def ServicePhase.ofOwed (required : Bool) : ServicePhase := if required then .owed else .idle

/-- What an event makes of the phase of a service. -/
def ServicePhase.after (service : ProtocolService) (phase : ServicePhase) :
    ServiceEvent → ServicePhase
  | .starting other => if other = service then .starting else phase
  | .started other required => if other = service then .ofOwed required else phase
  | .stopped other => if other = service then .idle else phase
  | .returned => phase

/-- The phase that a service is in after the events. -/
def servicePhase (service : ProtocolService) (events : List ServiceEvent) : ServicePhase :=
  events.foldl (ServicePhase.after service) .idle

/-- An event in its place: a start finds the service idle, a stop finds that it is owed, and
`protocol_coordinator_stop` leaves all services idle. -/
def ServicePaired (before : List ServiceEvent) : ServiceEvent → Prop
  | .starting service => servicePhase service before = .idle
  | .started service _ => servicePhase service before = .starting
  | .stopped service => servicePhase service before = .owed
  | .returned => ∀ service, servicePhase service before = .idle

section Phases

variable {service other : ProtocolService} {events : List ServiceEvent} {owed : Bool}

@[simp] lemma servicePhase_nil : servicePhase service [] = .idle := rfl

@[simp] lemma servicePhase_concat (event : ServiceEvent) :
    servicePhase service (events ++ [event]) = (servicePhase service events).after service event := by
  rw [servicePhase, servicePhase, foldl_concat]

@[simp] lemma ServicePhase.ofOwed_true : ServicePhase.ofOwed true = .owed := rfl

@[simp] lemma ServicePhase.ofOwed_false : ServicePhase.ofOwed false = .idle := rfl

end Phases

/-! ## Who acts on a service -/

/-- What a thread does with a service: nothing, it is about to start it, it starts it, it is
about to note that, it is about to stop it, or it is about to note that. -/
inductive ServiceActivity where
  | settled
  | quiet
  | starting
  | flagging (owed : Bool)
  | stopCalling (required : Bool)
  | stopClearing

/-- What the flag and the phase of a service are meanwhile. -/
def ServiceActivity.Accounts (flag : Bool) (phase : ServicePhase) : ServiceActivity → Prop
  | .settled => phase = .ofOwed flag
  | .quiet => flag = false ∧ phase = .idle
  | .starting => flag = false ∧ phase = .starting
  | .flagging owed => flag = false ∧ phase = .ofOwed owed
  | .stopCalling required => flag = required ∧ phase = .ofOwed required
  | .stopClearing => phase = .idle

def ServiceWorkerStage.activity : ServiceWorkerStage → ServiceActivity
  | .copying | .calling _ => .quiet
  | .starting _ => .starting
  | .flagging _ owed => .flagging owed
  | .noting _ | .finishing _ => .settled

def ResourcePoint.activity (stopAfter : Bool) : ResourcePoint → ServiceActivity
  | .reading | .permitting _ | .aiming _ | .stopReading | .startReading | .startNoting _ => .settled
  | .stopCalling required => .stopCalling required
  | .stopClearing => .stopClearing
  | .stopNoting | .stopHiding | .startPermitting | .startAnnouncing | .startCalling => .quiet
  | .starting => .starting
  | .flagging started => .flagging (started || stopAfter)

def ResourceStage.activity (service : ProtocolService) : ResourceStage → ServiceActivity
  | .turning turn point =>
    if turn.service = service then point.activity (turn.job.stopAfter service) else .settled
  | _ => .settled

/-- The resource worker does nothing with any service. -/
def ResourceStage.Settled (stage : ResourceStage) : Prop :=
  ∀ service, stage.activity service = .settled

/-- The services that `protocol_coordinator_stop` has still to stop, once it has collected them. -/
def StopStage.collected : StopStage → Option (List ProtocolService)
  | .calling services | .noting services _ => some services
  | .finishing | .resuming | .clearing => some []
  | _ => none

/-- The services whose workers come next. -/
def MainNext.services : MainNext → List ProtocolService
  | .launch services => services
  | .resources => []

namespace ServiceSystem

/-- What is being done with a service. -/
def activity (s : ServiceSystem) (service : ProtocolService) : ServiceActivity :=
  match s.workers service, s.resource with
  | some stage, _ => stage.activity
  | none, some stage => stage.activity service
  | none, none => .settled

variable (s : ServiceSystem)

/-- No worker is there. -/
def Gone : Prop := s.resource = none ∧ ∀ service, s.workers service = none

/-- No worker is there and no stop is owed. -/
def Bare : Prop :=
  s.Gone ∧ ∀ service, s.coordinator.stopRequired service = false

/-- Services without workers, each once. -/
def Unlaunched (services : List ProtocolService) : Prop :=
  services.Nodup ∧ ∀ service ∈ services, s.workers service = none

/-- What the main thread has found out about the workers. -/
def Launching : MainStage → Prop
  | .activating _ => s.Bare
  | .checkingSerial rest => rest.services = []
  | .creating service rest => s.Unlaunched (service :: rest.services)
  | .noting _ rest | .failing _ rest => s.Unlaunched rest.services
  | .checkingWorkers _ => s.resource = none
  | .preparing _ | .creatingResource => s.Gone
  | _ => True

/-- What `protocol_coordinator_stop` has found out about the workers. -/
def Joined : StopStage → Prop
  | .idle => True
  | .joiningResource | .waitingResource => s.coordinator.lifecycle = .stopping
  | .joining services =>
    s.coordinator.lifecycle = .stopping ∧ s.resource = none ∧
      ∀ service, service ∉ services → s.workers service = none
  | .waiting first services =>
    s.coordinator.lifecycle = .stopping ∧ s.resource = none ∧
      ∀ service, service ≠ first → service ∉ services → s.workers service = none
  | .collecting | .finishing => s.coordinator.lifecycle = .stopping ∧ s.Gone
  | .calling services => s.coordinator.lifecycle = .stopping ∧ s.Gone ∧ services.Nodup
  | .noting services service =>
    s.coordinator.lifecycle = .stopping ∧ s.Gone ∧ (service :: services).Nodup
  | .resuming | .clearing => s.coordinator.lifecycle = .stopped ∧ s.Gone

/-- The flag and the phase of a service agree with what is being done with it. -/
def Accounted (service : ProtocolService) : Prop :=
  (s.activity service).Accounts (s.coordinator.stopRequired service)
    (servicePhase service s.history)

/-- The invariant. -/
structure Sound (s : ServiceSystem) : Prop where
  paired : Trace.Each ServicePaired s.history
  accounted : s.stopper.collected = none → ∀ service, s.Accounted service
  collected : ∀ services, s.stopper.collected = some services → ∀ service,
    servicePhase service s.history = .ofOwed (decide (service ∈ services))
  alone : s.resource ≠ none → ∀ service, s.workers service = none
  flagged : ∀ service, s.workers service ≠ none →
    (s.coordinator.workers service).threadStarted = true ∨ ∃ next, s.main = .noting service next
  resourceFlagged : s.resource ≠ none →
    s.coordinator.resourceWorker.threadStarted = true ∨ s.main = .notingResource
  launching : s.Launching s.main
  joined : s.Joined s.stopper
  live : s.coordinator.lifecycle ≠ .stopped →
    s.coordinator.runtimeActive = true ∨ ∃ start, s.main = .activating start
  bare : s.coordinator.lifecycle = .stopped → s.stopper = .idle → s.Bare

end ServiceSystem

/-! ## Sections that start and stop nothing -/

namespace ServiceCoordinator

/-- What the threads are told by the coordinator stays as it is. -/
structure SameRuntime (c c' : ServiceCoordinator) : Prop where
  started : ∀ service, (c'.workers service).threadStarted = (c.workers service).threadStarted
  resourceStarted : c'.resourceWorker.threadStarted = c.resourceWorker.threadStarted
  active : c'.runtimeActive = c.runtimeActive
  stopped : c'.lifecycle = .stopped ↔ c.lifecycle = .stopped
  stopping : c'.lifecycle = .stopping ↔ c.lifecycle = .stopping

/-- Nor do the flags change. -/
structure SameServices (c c' : ServiceCoordinator) : Prop extends SameRuntime c c' where
  required : c'.stopRequired = c.stopRequired

variable {c : ServiceCoordinator}

lemma SameServices.refl (c : ServiceCoordinator) : SameServices c c :=
  ⟨⟨fun _ => rfl, rfl, rfl, .rfl, .rfl⟩, rfl⟩

lemma sameServices_setServiceState (service : ProtocolService) (state : ProtocolServiceState) :
    SameServices c (c.setServiceState service state) := by
  obtain ⟨services, lifecycle, snapshot, revision, heq, hstopped, hstop⟩ :=
    setServiceState_eq service state c.toProtocolCoordinator
  rw [ServiceCoordinator.setServiceState, heq]
  exact ⟨⟨fun _ => rfl, rfl, rfl, hstopped, hstop⟩, rfl⟩

@[simp] lemma stopRequired_setStopRequired (service : ProtocolService) (required : Bool) :
    (c.setStopRequired service required).stopRequired service = required :=
  update_self _ _ _

lemma sameServices_desire (mode : ProtocolResourceMode) :
    SameServices c
      { c with toProtocolCoordinator := setDesiredResourceMode mode c.toProtocolCoordinator } := by
  rw [ProtocolCoordinator.setDesiredResourceMode]
  generalize (if c.exclusiveMediaResources then mode else .home) = target
  split
  · exact ⟨⟨fun _ => rfl, rfl, rfl, .rfl, .rfl⟩, rfl⟩
  · exact .refl c

lemma sameServices_clearAirplayRuntimeStatus : SameServices c c.clearAirplayRuntimeStatus := by
  rw [clearAirplayRuntimeStatus]
  split
  · exact ⟨⟨fun _ => rfl, rfl, rfl, .rfl, .rfl⟩, rfl⟩
  · exact .refl c

lemma sameServices_writeAirplayStatus (status : ProtocolAirPlayStatus) :
    SameServices c (c.writeAirplayStatus status) := by
  rw [writeAirplayStatus]
  split
  · exact ⟨⟨fun _ => rfl, rfl, rfl, .rfl, .rfl⟩, rfl⟩
  · exact .refl c

lemma sameServices_finishResourceWorker (target : ProtocolResourceMode)
    (completed success result : Bool) :
    SameServices c
      { c with
        toProtocolCoordinator :=
          finishResourceWorker target completed success c.toProtocolCoordinator
        resourceWorker := { c.resourceWorker with result, finished := true } } := by
  rw [ProtocolCoordinator.finishResourceWorker]
  split
  · exact ⟨⟨fun _ => rfl, rfl, rfl, .rfl, .rfl⟩, rfl⟩
  · split
    all_goals exact ⟨⟨fun _ => rfl, rfl, rfl, .rfl, .rfl⟩, rfl⟩

lemma nextSerialService_spec :
    SameServices c c.nextSerialService.2 ∧
      (c.nextSerialService.1 ≠ none → c.serviceWorkerActive = false) := by
  rw [nextSerialService]
  split_ifs with hnext
  · exact ⟨.refl c, absurd rfl⟩
  split
  · exact ⟨⟨⟨fun _ => rfl, rfl, rfl, .rfl, .rfl⟩, rfl⟩, absurd rfl⟩
  refine ⟨⟨⟨fun _ => rfl, rfl, rfl, .rfl, .rfl⟩, rfl⟩, fun _ => ?_⟩
  simp only [Bool.or_eq_true, not_or, Bool.not_eq_true] at hnext
  exact hnext.2

lemma not_started_of_inactive (h : c.serviceWorkerActive = false) (service : ProtocolService) :
    (c.workers service).threadStarted = false := by
  simp only [serviceWorkerActive, protocolServices, any_cons, any_nil, Bool.or_false,
    Bool.or_eq_false_iff] at h
  cases service with
  | iptv => exact h.1
  | dlna => exact h.2.1
  | airplay => exact h.2.2

end ServiceCoordinator

/-! ## One step of each thread -/

namespace ServiceSystem

open ServiceCoordinator

variable {s s' : ServiceSystem} {c : ServiceCoordinator} {service : ProtocolService}

lemma Launching.mono {main : MainStage} (h : s.Launching main)
    (hworkers : ∀ service, s.workers service = none → s'.workers service = none)
    (hres : s.resource = none → s'.resource = none) (hbare : s.Bare → s'.Bare) :
    s'.Launching main := by
  have hunlaunched {services} (h : s.Unlaunched services) : s'.Unlaunched services :=
    ⟨h.1, fun service hsvc => hworkers service (h.2 service hsvc)⟩
  cases main with
  | activating => exact hbare h
  | creating | noting | failing => exact hunlaunched h
  | checkingWorkers => exact hres h
  | preparing | creatingResource => exact ⟨hres h.1, fun service => hworkers service (h.2 service)⟩
  | _ => exact h

lemma Joined.mono {stopper : StopStage} (h : s.Joined stopper)
    (hworkers : ∀ service, s.workers service = none → s'.workers service = none)
    (hres : s.resource = none → s'.resource = none)
    (hstopped : s'.coordinator.lifecycle = .stopped ↔ s.coordinator.lifecycle = .stopped)
    (hstop : s'.coordinator.lifecycle = .stopping ↔ s.coordinator.lifecycle = .stopping) :
    s'.Joined stopper := by
  have hgone (h : s.Gone) : s'.Gone :=
    ⟨hres h.1, fun service => hworkers service (h.2 service)⟩
  cases stopper with
  | idle => trivial
  | joiningResource | waitingResource => exact hstop.mpr h
  | joining =>
    exact ⟨hstop.mpr h.1, hres h.2.1, fun service hsvc =>
      hworkers service (h.2.2 service hsvc)⟩
  | waiting =>
    exact ⟨hstop.mpr h.1, hres h.2.1, fun service hfirst hsvc =>
      hworkers service (h.2.2 service hfirst hsvc)⟩
  | collecting | finishing => exact ⟨hstop.mpr h.1, hgone h.2⟩
  | calling | noting => exact ⟨hstop.mpr h.1, hgone h.2.1, h.2.2⟩
  | resuming | clearing => exact ⟨hstopped.mpr h.1, hgone h.2⟩

lemma Joined.gone {stopper : StopStage} (h : s.Joined stopper) (hcoll : stopper.collected ≠ none) :
    s.Gone := by
  cases stopper with
  | calling | noting => exact h.2.1
  | finishing | resuming | clearing => exact h.2
  | _ => exact absurd rfl hcoll

lemma Sound.collected_of_alive (h : s.Sound) (halive : ¬s.Gone) : s.stopper.collected = none := by
  by_contra hcoll
  exact halive (h.joined.gone hcoll)

/-! ### The workers -/

lemma Sound.act (h : s.Sound) (halive : ¬s.Gone) (hmain : s'.main = s.main)
    (hstop : s'.stopper = s.stopper)
    (hworkers : ∀ service, s.workers service = none → s'.workers service = none)
    (hres : s.resource = none → s'.resource = none)
    (hruntime : SameRuntime s.coordinator s'.coordinator)
    (hpaired : Trace.Each ServicePaired s'.history) (hacct : ∀ service, s'.Accounted service) :
    s'.Sound where
  paired := hpaired
  accounted _ := hacct
  collected services hcoll := by
    rw [hstop, h.collected_of_alive halive] at hcoll
    cases hcoll
  alone hthere service := hworkers service (h.alone (fun hnone => hthere (hres hnone)) service)
  flagged service hthere := by
    rw [hmain, hruntime.started]
    exact h.flagged service fun hnone => hthere (hworkers service hnone)
  resourceFlagged hthere := by
    rw [hmain, hruntime.resourceStarted]
    exact h.resourceFlagged fun hnone => hthere (hres hnone)
  launching := hmain ▸ h.launching.mono hworkers hres fun hbare => absurd hbare.1 halive
  joined := hstop ▸ h.joined.mono hworkers hres hruntime.stopped hruntime.stopping
  live hlife := by
    rw [hmain, hruntime.active]
    exact h.live fun hstopped => hlife (hruntime.stopped.mpr hstopped)
  bare hlife hidle :=
    absurd (h.bare (hruntime.stopped.mp hlife) (hstop ▸ hidle)).1 halive

lemma activity_of_worker {stage : ServiceWorkerStage} (h : s.workers service = some stage) :
    s.activity service = stage.activity := by
  rw [activity, h]

lemma activity_of_resource {stage : ResourceStage} (h : s.workers service = none)
    (hres : s.resource = some stage) : s.activity service = stage.activity service := by
  rw [activity, h, hres]

lemma activity_of_gone (h : s.workers service = none) (hres : s.resource = none) :
    s.activity service = .settled := by
  rw [activity, h, hres]

lemma activity_congr (hwork : s'.workers service = s.workers service)
    (hres : s'.resource = s.resource) : s'.activity service = s.activity service := by
  rw [activity, activity, hwork, hres]

lemma Accounted.congr (h : s.Accounted service)
    (hactivity : s'.activity service = s.activity service)
    (hneed : s'.coordinator.stopRequired service = s.coordinator.stopRequired service)
    (hphase : servicePhase service s'.history = servicePhase service s.history) :
    s'.Accounted service := by
  rw [Accounted, hactivity, hneed, hphase]
  exact h

/-- Neither the flag nor the phase of the other services changes. -/
def LeavesOthers (s : ServiceSystem) (service : ProtocolService) (c : ServiceCoordinator)
    (events : List ServiceEvent) : Prop :=
  ∀ other, other ≠ service → c.stopRequired other = s.coordinator.stopRequired other ∧
    servicePhase other (s.history ++ events) = servicePhase other s.history

lemma LeavesOthers.of_same (hneed : c.stopRequired = s.coordinator.stopRequired) :
    s.LeavesOthers service c [] :=
  fun _ _ => ⟨by rw [hneed], by rw [append_nil]⟩

/-- What a service worker does next. -/
def workerActivity : Option ServiceWorkerStage → ServiceActivity
  | some stage => stage.activity
  | none => .settled

lemma Sound.workerOn (h : s.Sound) {stage : ServiceWorkerStage}
    (hstage : s.workers service = some stage) {next : Option ServiceWorkerStage}
    {events : List ServiceEvent} (hruntime : SameRuntime s.coordinator c)
    (hothers : s.LeavesOthers service c events)
    (hpaired : Trace.Each ServicePaired (s.history ++ events))
    (hsvc : (workerActivity next).Accounts (c.stopRequired service) (servicePhase service (s.history ++ events))) :
    (s.workerOn service c next events).Sound := by
  have halive : ¬s.Gone := fun hgone => by
    rw [hgone.2 service] at hstage
    cases hstage
  have hres : s.resource = none := by
    by_contra hthere
    rw [h.alone hthere service] at hstage
    cases hstage
  refine h.act halive rfl rfl (fun other hnone => ?_) (fun hnone => hnone) hruntime hpaired
    fun other => ?_
  · have hne : other ≠ service := by
      rintro rfl
      rw [hnone] at hstage
      cases hstage
    exact (update_of_ne hne _ _).trans hnone
  by_cases heq : other = service
  · subst heq
    have hactivity : (s.workerOn other c next events).activity other = workerActivity next := by
      cases next with
      | some stage => exact activity_of_worker (update_self _ _ _)
      | none => exact activity_of_gone (update_self _ _ _) hres
    rw [Accounted, hactivity]
    exact hsvc
  · have hwork : (s.workerOn service c next events).workers other = s.workers other :=
      update_of_ne heq _ _
    exact (h.accounted (h.collected_of_alive halive) other).congr (activity_congr hwork rfl)
      (hothers other heq).1 (hothers other heq).2

lemma leavesOthers_event {event : ServiceEvent}
    (hevent : ∀ other ≠ service, ∀ phase, ServicePhase.after other phase event = phase) :
    s.LeavesOthers service s.coordinator [event] :=
  fun other hne => ⟨rfl, by rw [servicePhase_concat, hevent other hne]⟩

lemma leavesOthers_flag {required : Bool} :
    s.LeavesOthers service (s.coordinator.setStopRequired service required) [] :=
  fun _ hne => ⟨update_of_ne hne _ _, by rw [append_nil]⟩

lemma after_of_ne {other : ProtocolService} (hne : other ≠ service) (required : Bool)
    (phase : ServicePhase) :
    phase.after other (.starting service) = phase ∧
      phase.after other (.started service required) = phase ∧
      phase.after other (.stopped service) = phase := by
  simp [ServicePhase.after, hne.symm]

lemma Sound.workerStep (h : s.Sound) (service : ProtocolService) (ok : Bool) :
    (s.workerStep service ok).Sound := by
  have hsame := SameServices.refl s.coordinator
  rw [ServiceSystem.workerStep]
  split
  · exact h
  all_goals
    rename_i hstage
    have hcoll : s.stopper.collected = none := h.collected_of_alive fun hgone => by
      rw [hgone.2 service] at hstage
      cases hstage
    have hacct := h.accounted hcoll service
    rw [Accounted, activity_of_worker hstage] at hacct
  · refine h.workerOn hstage hsame.toSameRuntime (.of_same rfl) (by simpa using h.paired) ?_
    rw [append_nil]
    exact hacct
  · refine h.workerOn hstage hsame.toSameRuntime
      (leavesOthers_event fun other hne phase => (after_of_ne hne false phase).1) ?_ ?_
    · exact Trace.each_concat.mpr ⟨h.paired, hacct.2⟩
    · exact ⟨hacct.1, by simp [ServicePhase.after]⟩
  · refine h.workerOn hstage hsame.toSameRuntime
      (leavesOthers_event fun other hne phase => (after_of_ne hne _ phase).2.1) ?_ ?_
    · exact Trace.each_concat.mpr ⟨h.paired, hacct.2⟩
    · exact ⟨hacct.1, by simp [ServicePhase.after]⟩
  · refine h.workerOn hstage ⟨fun _ => rfl, rfl, rfl, .rfl, .rfl⟩ leavesOthers_flag
      (by simpa using h.paired) ?_
    rw [append_nil, stopRequired_setStopRequired]
    exact hacct.2
  · have hset := sameServices_setServiceState (c := s.coordinator) service
    refine h.workerOn hstage (hset _).toSameRuntime (.of_same (hset _).required)
      (by simpa using h.paired) ?_
    rw [append_nil, (hset _).required]
    exact hacct
  refine h.workerOn hstage ⟨fun other => ?_, rfl, rfl, .rfl, .rfl⟩ (.of_same rfl)
    (by simpa using h.paired) ?_
  · dsimp only
    by_cases heq : other = service
    · rw [heq, update_self]
    · rw [update_of_ne heq]
  · rw [append_nil]
    exact hacct

/-! ### The resource worker -/

lemma settled_turns (job : ResourceJob) (starts : Bool) (services : List ProtocolService) :
    (job.turns starts services).Settled := by
  intro service
  cases services with
  | cons => exact ite_self _
  | nil =>
    cases starts with
    | true => rfl
    | false => exact ite_self _

lemma settled_finishing (job : ResourceJob) (completed : Bool) :
    (finishing job completed).Settled :=
  fun _ => rfl

lemma activity_of_other {turn : ResourceTurn} (point : ResourcePoint) {other : ProtocolService}
    (h : other ≠ turn.service) : (turning turn point).activity other = .settled :=
  if_neg h.symm

lemma activity_of_turn (turn : ResourceTurn) (point : ResourcePoint) :
    (turning turn point).activity turn.service = point.activity (turn.job.stopAfter turn.service) :=
  if_pos rfl

/-- What the resource worker does next with a service. -/
def resourceActivity (service : ProtocolService) : Option ResourceStage → ServiceActivity
  | some stage => stage.activity service
  | none => .settled

lemma Sound.resourceOn (h : s.Sound) {stage : ResourceStage} (hstage : s.resource = some stage)
    {next : Option ResourceStage} {events : List ServiceEvent}
    (hruntime : SameRuntime s.coordinator c) (hothers : s.LeavesOthers service c events)
    (hpaired : Trace.Each ServicePaired (s.history ++ events))
    (hrest : ∀ other ≠ service, stage.activity other = .settled ∧ resourceActivity other next = .settled)
    (hsvc : (resourceActivity service next).Accounts (c.stopRequired service) (servicePhase service (s.history ++ events))) :
    (s.resourceOn c next events).Sound := by
  have hthere : s.resource ≠ none := by rw [hstage]; exact nofun
  have halive : ¬s.Gone := fun hgone => hthere hgone.1
  have hactivity (other : ProtocolService) :
      (s.resourceOn c next events).activity other = resourceActivity other next := by
    rw [activity, ServiceSystem.resourceOn]
    rw [h.alone hthere other]
    cases next with
    | some | none => rfl
  refine h.act halive rfl rfl (fun _ hnone => hnone) (fun hnone => absurd hnone hthere) hruntime
    hpaired fun other => ?_
  rw [Accounted, hactivity]
  by_cases heq : other = service
  · subst heq
    exact hsvc
  have hacct := h.accounted (h.collected_of_alive halive) other
  rw [Accounted, activity_of_resource (h.alone hthere other) hstage, (hrest other heq).1,
    ← (hothers other heq).1, ← (hothers other heq).2] at hacct
  rw [(hrest other heq).2]
  exact hacct

lemma Sound.resource_settled (h : s.Sound) {stage : ResourceStage}
    (hstage : s.resource = some stage) {next : Option ResourceStage}
    (hsame : SameServices s.coordinator c) (hold : stage.Settled)
    (hnext : ∀ service, resourceActivity service next = .settled) :
    (s.resourceOn c next []).Sound := by
  have hthere : s.resource ≠ none := by rw [hstage]; exact nofun
  have hothers : s.LeavesOthers .iptv c [] := .of_same hsame.required
  refine h.resourceOn hstage hsame.toSameRuntime hothers (by simpa using h.paired)
    (fun other _ => ⟨hold other, hnext other⟩) ?_
  have hacct := h.accounted (h.collected_of_alive fun hgone => hthere hgone.1) .iptv
  rw [Accounted, activity_of_resource (h.alone hthere _) hstage, hold] at hacct
  rw [hnext, append_nil, hsame.required]
  exact hacct

section Turn

variable {turn : ResourceTurn} {point : ResourcePoint} {next : ResourceStage}

lemma Sound.turn_goes (h : s.Sound) (hstage : s.resource = some (.turning turn point))
    (hsame : SameServices s.coordinator c)
    (hnext : next.Settled ∨ ∃ point', next = .turning turn point')
    (himp : ∀ flag phase, flag = s.coordinator.stopRequired turn.service →
      (point.activity (turn.job.stopAfter turn.service)).Accounts flag phase →
      (next.activity turn.service).Accounts flag phase) :
    (s.resourceOn c (some next) []).Sound := by
  have hthere : s.resource ≠ none := by rw [hstage]; exact nofun
  refine h.resourceOn hstage hsame.toSameRuntime (.of_same hsame.required)
    (by simpa using h.paired) (fun other hne => ⟨activity_of_other point hne, ?_⟩) ?_
  · rcases hnext with hnext | ⟨point', rfl⟩
    · exact hnext other
    · exact activity_of_other point' hne
  · have hacct := h.accounted (h.collected_of_alive fun hgone => hthere hgone.1) turn.service
    rw [Accounted, activity_of_resource (h.alone hthere _) hstage, activity_of_turn] at hacct
    rw [append_nil, hsame.required]
    exact himp _ _ rfl hacct

lemma Sound.turn_acts (h : s.Sound) (hstage : s.resource = some (.turning turn point))
    {point' : ResourcePoint} {event : ServiceEvent}
    (hevent : ∀ other ≠ turn.service, ∀ phase, ServicePhase.after other phase event = phase)
    (hpaired : ServicePaired s.history event)
    (hsvc : (point'.activity (turn.job.stopAfter turn.service)).Accounts (s.coordinator.stopRequired turn.service) ((servicePhase turn.service s.history).after turn.service event)) :
    (s.resourceOn s.coordinator (some (.turning turn point')) [event]).Sound := by
  refine h.resourceOn hstage (SameServices.refl _).toSameRuntime (leavesOthers_event hevent)
    (Trace.each_concat.mpr ⟨h.paired, hpaired⟩) (fun other hne => ?_) ?_
  · exact ⟨activity_of_other point hne, activity_of_other point' hne⟩
  · rw [resourceActivity, activity_of_turn, servicePhase_concat]
    exact hsvc

lemma Sound.turn_flags (h : s.Sound) (hstage : s.resource = some (.turning turn point))
    {point' : ResourcePoint} {required : Bool}
    (hsvc : (point'.activity (turn.job.stopAfter turn.service)).Accounts required (servicePhase turn.service s.history)) :
    (s.resourceOn (s.coordinator.setStopRequired turn.service required)
      (some (.turning turn point')) []).Sound := by
  refine h.resourceOn hstage ⟨fun _ => rfl, rfl, rfl, .rfl, .rfl⟩ leavesOthers_flag
    (by simpa using h.paired) (fun other hne => ?_) ?_
  · exact ⟨activity_of_other point hne, activity_of_other point' hne⟩
  · rw [resourceActivity, activity_of_turn, append_nil, stopRequired_setStopRequired]
    exact hsvc

lemma settled_of_quiet {flag : Bool} {phase : ServicePhase}
    (h : ServiceActivity.quiet.Accounts flag phase) : ServiceActivity.settled.Accounts flag phase :=
  h.2.trans (congrArg ServicePhase.ofOwed h.1).symm

lemma Sound.turn_stopped (h : s.Sound) (hstage : s.resource = some (.turning turn point))
    (hpoint : ∀ stopAfter, point.activity stopAfter = .quiet)
    (hsame : SameServices s.coordinator c) : (s.resourceOn c (some turn.afterStop) []).Sound := by
  rw [afterStop]
  split
  · refine h.turn_goes hstage hsame (.inr ⟨_, rfl⟩) fun flag phase _ hacct => ?_
    rw [hpoint] at hacct
    rw [activity_of_turn]
    exact hacct
  · refine h.turn_goes hstage hsame (.inl (settled_turns _ _ _)) fun flag phase _ hacct => ?_
    rw [hpoint] at hacct
    rw [ResourceTurn.next, settled_turns]
    exact settled_of_quiet hacct

lemma Sound.turn_settled (h : s.Sound) (hstage : s.resource = some (.turning turn point))
    (hpoint : ∀ stopAfter, point.activity stopAfter = .settled)
    (hnext : next.Settled ∨ ∃ point', next = .turning turn point' ∧
      ∀ stopAfter, point'.activity stopAfter = .settled)
    (hsame : SameServices s.coordinator c) : (s.resourceOn c (some next) []).Sound := by
  refine h.turn_goes hstage hsame (hnext.imp id fun ⟨point', heq, _⟩ => ⟨point', heq⟩)
    fun flag phase _ hacct => ?_
  rw [hpoint] at hacct
  rcases hnext with hnext | ⟨point', rfl, hpoint'⟩
  · rw [hnext]
    exact hacct
  · rw [activity_of_turn, hpoint']
    exact hacct

lemma Sound.turnStep (h : s.Sound) (hstage : s.resource = some (.turning turn point)) (ok : Bool) :
    (s.turnStep turn ok point).Sound := by
  have hsame := SameServices.refl s.coordinator
  have hset := sameServices_setServiceState (c := s.coordinator) turn.service
  have hthere : s.resource ≠ none := by rw [hstage]; exact nofun
  have haccounted := h.accounted (h.collected_of_alive fun hgone => hthere hgone.1) turn.service
  rw [Accounted, activity_of_resource (h.alone hthere _) hstage, activity_of_turn] at haccounted
  cases point with
  | reading => exact h.turn_settled hstage (fun _ => rfl) (.inr ⟨_, rfl, fun _ => rfl⟩) hsame
  | permitting =>
    refine h.turn_settled hstage (fun _ => rfl) ?_ hsame
    split
    · exact .inr ⟨_, rfl, fun _ => rfl⟩
    · exact .inl (settled_finishing _ _)
  | aiming =>
    refine h.turn_settled hstage (fun _ => rfl) ?_ hsame
    split
    · exact .inl (settled_finishing _ _)
    split
    all_goals
      split
      · exact .inl (settled_turns _ _ _)
      · exact .inr ⟨_, rfl, fun _ => rfl⟩
  | stopReading =>
    refine h.turn_goes hstage hsame (.inr ⟨_, rfl⟩) fun flag phase hflag hacct => ?_
    rw [activity_of_turn]
    exact ⟨hflag, hacct.trans (congrArg _ hflag)⟩
  | stopCalling required =>
    cases required with
    | true =>
      exact h.turn_acts hstage (fun other hne phase => (after_of_ne hne false phase).2.2)
        haccounted.2 (if_pos rfl)
    | false =>
      refine h.turn_goes hstage hsame (.inr ⟨_, rfl⟩) fun flag phase _ hacct => ?_
      rw [activity_of_turn]
      exact hacct.2
  | stopClearing => exact h.turn_flags hstage ⟨rfl, haccounted⟩
  | stopNoting =>
    rw [ServiceSystem.turnStep]
    split
    · refine h.turn_goes hstage (hset _) (.inr ⟨_, rfl⟩) fun flag phase _ hacct => ?_
      rw [activity_of_turn]
      exact hacct
    · exact h.turn_stopped hstage (fun _ => rfl) (hset _)
  | stopHiding =>
    exact h.turn_stopped hstage (fun _ => rfl) sameServices_clearAirplayRuntimeStatus
  | startReading =>
    refine h.turn_goes hstage hsame (.inr ⟨_, rfl⟩) fun flag phase hflag hacct => ?_
    rw [activity_of_turn]
    split_ifs with hneed
    · exact hacct
    rw [Bool.not_eq_true] at hneed
    rw [hneed] at hflag
    exact ⟨hflag, hacct.trans (congrArg _ hflag)⟩
  | startPermitting =>
    rw [ServiceSystem.turnStep]
    split
    · refine h.turn_goes hstage hsame (.inr ⟨_, rfl⟩) fun flag phase _ hacct => ?_
      rw [activity_of_turn]
      exact hacct
    · refine h.turn_goes hstage hsame (.inl (settled_turns _ _ _)) fun flag phase _ hacct => ?_
      rw [nextAfterStart, settled_turns]
      exact settled_of_quiet hacct
  | startAnnouncing =>
    refine h.turn_goes hstage (hset _) (.inr ⟨_, rfl⟩) fun flag phase _ hacct => ?_
    rw [activity_of_turn]
    exact hacct
  | startCalling =>
    exact h.turn_acts hstage (fun other hne phase => (after_of_ne hne false phase).1)
      haccounted.2 ⟨haccounted.1, if_pos rfl⟩
  | starting =>
    exact h.turn_acts hstage (fun other hne phase => (after_of_ne hne _ phase).2.1)
      haccounted.2 ⟨haccounted.1, if_pos rfl⟩
  | flagging started => exact h.turn_flags hstage haccounted.2
  | startNoting started =>
    exact h.turn_settled hstage (fun _ => rfl) (.inl (settled_turns _ _ _)) (hset _)

end Turn

lemma Sound.resourceStep (h : s.Sound) (ok : Bool) : (s.resourceStep ok).Sound := by
  have hsame := SameServices.refl s.coordinator
  have hnetwork (suspended : Bool) : SameServices s.coordinator
        { s.coordinator with backgroundNetworkSuspended := suspended } :=
    ⟨⟨fun _ => rfl, rfl, rfl, .rfl, .rfl⟩, rfl⟩
  rw [ServiceSystem.resourceStep]
  split
  · exact h
  · rename_i hstage
    exact h.resource_settled hstage hsame (fun _ => rfl) fun _ => rfl
  · rename_i job hstage
    split
    · exact h.resource_settled hstage (hnetwork true) (fun _ => rfl) fun _ => by
        rw [resourceActivity, settled_turns]
    · exact h.resource_settled hstage hsame (fun _ => rfl) fun _ => by
        rw [resourceActivity, settled_turns]
  · rename_i turn point hstage
    exact h.turnStep hstage ok
  · rename_i job hstage
    refine h.resource_settled hstage hsame (fun _ => rfl) fun _ => ?_
    split
    all_goals rfl
  · rename_i job hstage
    split
    · exact h.resource_settled hstage (hnetwork false) (fun _ => rfl) fun _ => rfl
    · exact h.resource_settled hstage hsame (fun _ => rfl) fun _ => rfl
  · rename_i job completed hstage
    exact h.resource_settled hstage (sameServices_finishResourceWorker _ _ _ _) (fun _ => rfl)
      fun _ => rfl

end ServiceSystem

end NXCast
