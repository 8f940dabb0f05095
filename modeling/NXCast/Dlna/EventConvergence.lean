import NXCast.Dlna.EventBodies
import NXCast.Dlna.EventDuties

/-!
# What the subscribers have been told

The event thread tells a subscription the state as it reads it.  The delivery of a player's event
marks the service of what it has written; a SOAP action does not, so what it writes is told only if
the event thread has yet to read it for another reason.  Where every write of an action is of that
kind, or changes nothing, the subscriptions have been told the current state once the threads rest.
-/

namespace NXCast

open EventServer hiding onRendererEvent

open List ProtocolState ProtocolWrite DlnaSystem

/-! ## The property -/

/-- What was read for a notification, its body, and whether it has been sent. -/
structure EventNotification where
  seen : ProtocolState
  body : Option (List UInt8)
  sent : Bool

/-- The notification for a subscription that an event is. -/
def DlnaEvent.notification (stamp : ℕ) : DlnaEvent → Option EventNotification
  | .attempted target seen body sent => if target.stamp = stamp then some ⟨seen, body, sent⟩ else none
  | _ => none

/-- The last notification for a subscription. -/
def lastNotification (stamp : ℕ) (events : List DlnaEvent) : Option EventNotification :=
  (events.filterMap (DlnaEvent.notification stamp)).getLast?

namespace DlnaSystem

/-- The delivery of an event goes on that marks the service at its end. -/
def WillMark (s : DlnaSystem) (service : EventService) : Prop :=
  match s.handler with
  | .idle => False
  | .writing _ event => EventServer.markedService event.type = some service

/-- The targets for which the event thread has read nothing yet. -/
def unstartedTargets (s : DlnaSystem) : List EventNotifyTarget :=
  match s.worker with
  | .waiting | .exited => []
  | .sending left | .building _ _ _ left | .delivering _ _ left => left

/-- What the event thread is still to read for a subscription, and what it has read. -/
def reading (s : DlnaSystem) (stamp : ℕ) : Option (List ProtocolVariable × ProtocolState) :=
  match s.worker with
  | .building target unread seen _ => if target.stamp = stamp then some (unread, seen) else none
  | .delivering target seen _ => if target.stamp = stamp then some ([], seen) else none
  | _ => none

/-- A notification is to come for which nothing has been read. -/
def Coming (s : DlnaSystem) (stamp : ℕ) (service : EventService) : Prop :=
  s.server.dirty service = true ∨ s.WillMark service ∨
    HasTarget s.unstartedTargets stamp service

/-- A notification is to come for which the variable has not been read. -/
def ToRead (s : DlnaSystem) (stamp : ℕ) (service : EventService) (name : ProtocolVariable) : Prop :=
  s.Coming stamp service ∨ ∃ unread seen, s.reading stamp = some (unread, seen) ∧ name ∈ unread

/-- What a subscription has been told is the state, once the event thread waits with nothing dirty
and what it has sent last to the subscription has arrived; unless an event of the service is being
delivered, which is to mark it. -/
def Converged (s : DlnaSystem) : Prop :=
  s.Idle → s.stopRequested = false → ∀ i entry, s.server.subscriptions i = some entry →
    ¬s.WillMark entry.service →
      ∃ last, lastNotification entry.stamp s.history = some last ∧
        (last.sent = true → last.body = eventBuildPropertyset entry.service s.state ∧
          ∀ name ∈ eventVariables entry.service, last.seen.value name = s.state.value name)

/-- A SOAP action's write changes nothing, or for each subscription of the service the variable is
yet to be read. -/
def ToldOf (s : DlnaSystem) : DlnaLabel → Prop
  | .soap =>
    match s.soap with
    | .writing (write :: _) => s.stopRequested = false → s.state.value write.name ≠ write →
        ∀ i entry, s.server.subscriptions i = some entry →
          write.name ∈ eventVariables entry.service →
            s.ToRead entry.stamp entry.service write.name
    | _ => True
  | _ => True

/-! ## The invariant -/

/-- The variable, as the event thread has read it for a subscription, or as it was told last. -/
def Shown (s : DlnaSystem) (stamp : ℕ) (name : ProtocolVariable) : Prop :=
  match s.reading stamp with
  | some (unread, seen) => name ∈ unread ∨ seen.value name = s.state.value name
  | none => ∃ last, lastNotification stamp s.history = some last ∧
      last.seen.value name = s.state.value name

/-- What every run keeps whose actions write as they may. -/
structure ConvergenceSound (s : DlnaSystem) : Prop where
  one : ∀ stamp service other, .subscribed stamp service ∈ s.history →
    .subscribed stamp other ∈ s.history → service = other
  marks : ∀ write ∈ s.handlerLeft, ∀ service, write.name ∈ eventVariables service →
    s.WillMark service
  shown : s.stopRequested = false → ∀ i entry, s.server.subscriptions i = some entry →
    ∀ name ∈ eventVariables entry.service,
      s.Coming entry.stamp entry.service ∨ s.Shown entry.stamp name

variable {s t : DlnaSystem}

end DlnaSystem

/-! ## Histories -/

section Histories

variable {events more : List DlnaEvent} {stamp : ℕ}

lemma lastNotification_append (hmore : ∀ event ∈ more, event.notification stamp = none) :
    lastNotification stamp (events ++ more) = lastNotification stamp events := by
  rw [lastNotification, filterMap_append, filterMap_eq_nil_iff.mpr hmore, append_nil]
  rfl

lemma lastNotification_attempted (target : EventNotifyTarget) (seen : ProtocolState)
    (body : Option (List UInt8)) (sent : Bool) :
    lastNotification stamp (events ++ [.attempted target seen body sent]) =
      if target.stamp = stamp then some ⟨seen, body, sent⟩ else lastNotification stamp events := by
  by_cases hstamp : target.stamp = stamp
  · have hlast : (DlnaEvent.attempted target seen body sent).notification stamp =
        some ⟨seen, body, sent⟩ := if_pos hstamp
    rw [if_pos hstamp, lastNotification, filterMap_append, filterMap_cons_some hlast]
    exact getLast?_concat
  · rw [if_neg hstamp]
    refine lastNotification_append fun event hevent => ?_
    rw [mem_singleton.mp hevent]
    exact if_neg hstamp

lemma exists_of_lastNotification {last : EventNotification}
    (h : lastNotification stamp events = some last) :
    ∃ target, .attempted target last.seen last.body last.sent ∈ events ∧ target.stamp = stamp := by
  obtain ⟨event, hevent, hnotification⟩ :=
    mem_filterMap.mp (mem_of_getLast? h)
  cases event with
  | attempted target seen body sent =>
    rw [DlnaEvent.notification] at hnotification
    split at hnotification
    · rename_i hstamp
      cases hnotification
      exact ⟨target, hevent, hstamp⟩
    · cases hnotification
  | _ => cases hnotification

end Histories

lemma markedService_of_write {event : RendererEvent} {write : ProtocolWrite}
    (hwrite : write ∈ onRendererEvent event) {service : EventService}
    (hsvc : write.name ∈ eventVariables service) :
    EventServer.markedService event.type = some service := by
  cases htype : event.type <;> simp only [onRendererEvent, htype] at hwrite
  case stateChanged =>
    split at hwrite
    · rcases mem_pair.mp hwrite with rfl | rfl <;> simp only [name] at hsvc <;>
        revert hsvc <;> cases service <;> decide
    · cases hwrite
  case uriChanged => cases hwrite
  case volumeChanged | muteChanged =>
    cases mem_singleton.mp hwrite
    simp only [name] at hsvc
    revert hsvc
    cases service <;> decide
  all_goals
    rcases mem_pair.mp hwrite with rfl | rfl <;> simp only [name] at hsvc <;>
      revert hsvc <;> cases service <;> decide

namespace DlnaSystem

variable {s t : DlnaSystem}

/-! ## The other threads -/

variable {more : List DlnaEvent}

lemma Shown.quiet {stamp : ℕ} {name : ProtocolVariable} (h : s.Shown stamp name)
    (hquiet : s.Quiet t more) (hvalue : t.state.value name = s.state.value name) :
    t.Shown stamp name := by
  have hreading : t.reading stamp = s.reading stamp := by rw [reading, hquiet.worker, reading]
  have hlast : lastNotification stamp t.history = lastNotification stamp s.history := by
    rw [hquiet.history]
    refine lastNotification_append fun event hevent => ?_
    rcases hquiet.plain event hevent with hplain | ⟨_, _, rfl⟩
    · cases event with
      | attempted => exact hplain.elim
      | _ => rfl
    · rfl
  rw [Shown, hreading, hlast, hvalue]
  exact h

lemma Coming.quiet {stamp : ℕ} {service : EventService} (h : s.Coming stamp service)
    (hquiet : s.Quiet t more)
    (hmark : s.WillMark service → t.WillMark service ∨ t.server.dirty service) :
    t.Coming stamp service := by
  rcases h with hdirty | hwill | htgt
  · exact .inl (hquiet.dirty service hdirty)
  · rcases hmark hwill with hwill | hdirty
    · exact .inr (.inl hwill)
    · exact .inl hdirty
  · refine .inr (.inr ?_)
    rwa [unstartedTargets, hquiet.worker, ← unstartedTargets]

section

variable (h : s.ConvergenceSound)

include h

section

variable (hnums : s.NumbersSound)

include hnums

/-- **A step of another thread**, which changes a variable only where it is yet to be read. -/
lemma ConvergenceSound.quiet (hnums' : t.NumbersSound) (hquiet : s.Quiet t more)
    (hmark : ∀ service, s.WillMark service → t.WillMark service ∨ t.server.dirty service)
    (hmarks : ∀ write ∈ t.handlerLeft, ∀ service, write.name ∈ eventVariables service → t.WillMark service)
    (hvalue : t.stopRequested = false → ∀ i entry, s.server.subscriptions i = some entry → ∀ name ∈ eventVariables entry.service, t.state.value name = s.state.value name ∨ s.ToRead entry.stamp entry.service name) :
    t.ConvergenceSound := by
  refine ⟨?_, hmarks, ?_⟩
  · intro stamp service other hsvc hother
    rw [hquiet.history, mem_append] at hsvc hother
    rcases hsvc with hsvc | hsvc <;> rcases hother with hother | hother
    · exact h.one stamp service other hsvc hother
    · exact absurd (hnums.subscribed _ _ hsvc) ((hquiet.subscribed _ _ hother).1 ▸ lt_irrefl _)
    · exact absurd (hnums.subscribed _ _ hother) ((hquiet.subscribed _ _ hsvc).1 ▸ lt_irrefl _)
    · exact hquiet.one stamp service other hsvc hother
  intro hrun i entry hentry name hname
  rcases hquiet.entries i entry hentry with ⟨old, hold, hstamp, hsvc⟩ | hstamp
  · rw [← hstamp, ← hsvc]
    rw [← hsvc] at hname
    have hcoming : s.Coming old.stamp old.service → t.Coming old.stamp old.service :=
      fun hcoming => hcoming.quiet hquiet (hmark _)
    rcases hvalue hrun i old hold name hname with hsame | hread | hunread
    · exact (h.shown (hquiet.stop hrun) i old hold name hname).imp hcoming
        fun hshown => hshown.quiet hquiet hsame
    · exact .inl (hcoming hread)
    obtain ⟨unread, seen, hreading, hmem⟩ := hunread
    refine .inr ?_
    rw [Shown, reading, hquiet.worker, ← reading, hreading]
    exact .inl hmem
  · -- the subscription is a new one, whose service is dirty
    refine .inl (.inl ?_)
    have hknown := hnums'.known i entry hentry
    rw [hquiet.history, mem_append] at hknown
    rcases hknown with hknown | hknown
    · exact absurd (hnums.subscribed _ _ hknown) (hstamp ▸ lt_irrefl _)
    · exact (hquiet.subscribed _ _ hknown).2

lemma ConvergenceSound.delivers (hnums' : s.handlerStep.NumbersSound) (hquiet : s.Quiet s.handlerStep more) :
    s.handlerStep.ConvergenceSound := by
  have hmarks := h.marks
  have hdirty (service : EventService) (event : RendererEvent)
      (hhand : s.handler = .writing [] event) (hwill : s.WillMark service) :
      s.handlerStep.server.dirty service := by
    rw [WillMark, hhand] at hwill
    rw [handlerStep, hhand]
    exact (dirty_onRendererEvent ..).trans (if_pos hwill)
  cases hhand : s.handler with
  | idle =>
    have hstep : s.handlerStep = s := by rw [handlerStep, hhand]
    rw [hstep]
    exact h
  | writing left event =>
    cases left with
    | nil =>
      refine h.quiet hnums hnums' hquiet
        (fun service hwill => .inr (hdirty service event hhand hwill)) ?_ ?_
      · rw [handlerStep, hhand]
        rintro _ ⟨⟩
      · rw [handlerStep, hhand]
        exact fun _ _ _ _ _ _ => .inl rfl
    | cons write left =>
      have hwill (service : EventService) : s.handlerStep.WillMark service ↔ s.WillMark service := by
        rw [WillMark, WillMark, handlerStep, hhand]
      refine h.quiet hnums hnums' hquiet
        (fun service hmark => .inl ((hwill service).mpr hmark)) ?_ ?_
      · intro later hlater service hsvc
        refine (hwill service).mpr (hmarks later ?_ service hsvc)
        rw [handlerLeft, handlerStep, hhand] at hlater
        rw [handlerLeft, hhand]
        exact mem_cons_of_mem write hlater
      intro _ i entry _ name hname
      rw [handlerStep, hhand]
      simp only [wrote, value_write]
      by_cases hsame : write.name = name
      · refine .inr (.inl (.inr (.inl (hmarks write ?_ entry.service (hsame ▸ hname)))))
        rw [handlerLeft, hhand]
        exact .head _
      · exact .inl (if_neg hsame)

lemma ConvergenceSound.soapStep (hnums' : s.soapStep.NumbersSound) (hquiet : s.Quiet s.soapStep more) (htold : s.ToldOf .soap) :
    s.soapStep.ConvergenceSound := by
  have hhand : s.soapStep.handler = s.handler := by
    rw [DlnaSystem.soapStep]
    split <;> rfl
  have hwill (service : EventService) : s.soapStep.WillMark service ↔ s.WillMark service := by
    rw [WillMark, WillMark, hhand]
  refine h.quiet hnums hnums' hquiet (fun service hmark => .inl ((hwill service).mpr hmark)) ?_ ?_
  · intro write hwrite service hsvc
    rw [handlerLeft, hhand, ← handlerLeft] at hwrite
    exact (hwill service).mpr (h.marks write hwrite service hsvc)
  intro hrun i entry hentry name hname
  have hstop := hquiet.stop hrun
  rw [DlnaSystem.soapStep]
  split
  · rename_i write left hsoap
    simp only [ToldOf, hsoap] at htold
    simp only [wrote, value_write]
    by_cases hsame : write.name = name
    · rw [if_pos hsame]
      by_cases hchg : s.state.value name = write
      · exact .inl hchg.symm
      · subst hsame
        exact .inr (htold hstop hchg i entry hentry hname)
    · exact .inl (if_neg hsame)
  all_goals exact .inl rfl

/-- **A step of another thread.** -/
lemma ConvergenceSound.quiet_step {label : DlnaLabel} (hlabel : ∀ now sent, label ≠ .worker now sent) (htold : s.ToldOf label) :
    (s.step label).ConvergenceSound := by
  have hnums' := hnums.step label
  obtain ⟨more, hquiet⟩ := s.quiet_step hlabel
  have hframe (hhand : (s.step label).handler = s.handler)
      (hstate : (s.step label).state = s.state) : (s.step label).ConvergenceSound := by
    have hwill (service : EventService) : (s.step label).WillMark service ↔ s.WillMark service := by
      rw [WillMark, WillMark, hhand]
    refine h.quiet hnums hnums' hquiet (fun service hmark => .inl ((hwill service).mpr hmark)) ?_ ?_
    · intro write hwrite service hsvc
      rw [handlerLeft, hhand, ← handlerLeft] at hwrite
      exact (hwill service).mpr (h.marks write hwrite service hsvc)
    · exact fun _ _ _ _ _ _ => .inl (by rw [hstate])
  cases label with
  | action action =>
    refine hframe ?_ ?_ <;> rw [step, callAction] <;> split <;> try rfl
    all_goals split <;> rfl
  | answered succeeded =>
    refine hframe ?_ ?_ <;> rw [step, answerAction] <;> split <;> rfl
  | soap => exact h.soapStep hnums hnums' hquiet htold
  | opened => refine hframe ?_ ?_ <;> rw [step, openMedia] <;> split <;> rfl
  | rendererEvent owner event =>
    cases hhand : s.handler with
    | writing left current =>
      have hstep : s.step (.rendererEvent owner event) = s := by
        rw [step, callHandler, hhand]
      rw [hstep]
      exact h
    | idle =>
      by_cases hpasses : rendererEventPasses owner = true
      · have hstep : (s.step (.rendererEvent owner event)).handler =
            .writing (onRendererEvent event) event := by
          rw [step, callHandler, hhand]
          simp only [if_pos hpasses]
        refine h.quiet hnums hnums' hquiet ?_ ?_ ?_
        · intro service hwill
          rw [WillMark, hhand] at hwill
          exact hwill.elim
        · intro write hwrite service hsvc
          rw [handlerLeft, hstep] at hwrite
          rw [WillMark, hstep]
          exact markedService_of_write hwrite hsvc
        · refine fun _ _ _ _ name _ => .inl ?_
          rw [step, callHandler, hhand]
          simp only [if_pos hpasses]
      · have hstep : s.step (.rendererEvent owner event) = s := by
          rw [step, callHandler, hhand]
          exact if_neg hpasses
        rw [hstep]
        exact h
  | handler => exact h.delivers hnums hnums' hquiet
  | request | stop => exact hframe rfl rfl
  | worker now sent => exact absurd rfl (hlabel now sent)

/-! ## The event thread -/

/-- What is to come for a subscription, or has been shown to it, while the event thread has targets. -/
lemma ConvergenceSound.shown_worker (hrun : s.stopRequested = false) (hbusy : s.worker ≠ .waiting) {i : Fin eventMaxSubscriptions}
    {entry : EventSubscription} (hentry : s.server.subscriptions i = some entry)
    {name : ProtocolVariable} (hname : name ∈ eventVariables entry.service)
    (now : EventService → UInt64) (sent : Bool) :
    (s.workerStep now sent).Coming entry.stamp entry.service ∨
      (s.workerStep now sent).Shown entry.stamp name := by
  have hknown := hnums.known i entry hentry
  have hpend := hnums.pendingKnown
  have hshown := h.shown hrun i entry hentry name hname
  cases hwork : s.worker with
  | waiting => exact absurd hwork hbusy
  | exited =>
    have hstep : s.workerStep now sent = s := by rw [workerStep, hwork]
    rw [hstep]
    exact hshown
  | sending left =>
    cases left with
    | nil =>
      simp only [Coming, WillMark, unstartedTargets, Shown, reading, hwork, workerStep] at hshown ⊢
      exact hshown
    | cons target left =>
      simp only [Coming, WillMark, unstartedTargets, Shown, reading, hwork,
        workerStep, hrun, Bool.false_eq_true, if_false] at hshown ⊢
      by_cases hstamp : target.stamp = entry.stamp
      · -- the variables of the subscription are about to be read
        have hsvc : target.service = entry.service := by
          refine h.one entry.stamp _ _ (hstamp ▸ hpend target ?_) hknown
          rw [pendingTargets, hwork]
          exact .head _
        rw [if_pos hstamp]
        exact .inr (.inl (hsvc ▸ hname))
      · rw [if_neg hstamp]
        refine hshown.imp_left fun hcoming => hcoming.imp_right fun hcoming =>
          hcoming.imp_right fun htgt => ?_
        exact htgt.of_cons.resolve_left fun hfirst => hstamp hfirst.1
  | building target unread seen left =>
    cases unread with
    | nil =>
      simp only [Coming, WillMark, unstartedTargets, Shown, reading, hwork, workerStep] at hshown ⊢
      refine hshown.imp_right fun hshown => ?_
      by_cases hstamp : target.stamp = entry.stamp
      · rw [if_pos hstamp] at hshown ⊢
        exact hshown
      · rw [if_neg hstamp] at hshown ⊢
        exact hshown
    | cons first unread =>
      simp only [Coming, WillMark, unstartedTargets, Shown, reading, hwork, workerStep] at hshown ⊢
      refine hshown.imp_right fun hshown => ?_
      by_cases hstamp : target.stamp = entry.stamp
      · rw [if_pos hstamp] at hshown ⊢
        simp only [value_write, value_name]
        by_cases hfirst : first = name
        · rw [if_pos hfirst, hfirst]
          exact .inr rfl
        · rw [if_neg hfirst]
          exact hshown.imp_left fun hmem => (mem_cons.mp hmem).resolve_left (Ne.symm hfirst)
      · rw [if_neg hstamp] at hshown ⊢
        exact hshown
  | delivering target seen left =>
    simp only [Coming, WillMark, unstartedTargets, Shown, reading, hwork,
      workerStep, lastNotification_attempted] at hshown ⊢
    refine hshown.imp_right fun hshown => ?_
    by_cases hstamp : target.stamp = entry.stamp
    · rw [if_pos hstamp] at hshown ⊢
      exact ⟨_, rfl, hshown.resolve_left not_mem_nil⟩
    · rw [if_neg hstamp] at hshown ⊢
      exact hshown

end

lemma ConvergenceSound.collects (hwait : s.worker = .waiting) (now : EventService → UInt64) :
    ({ s with server := (s.server.collect now).2, worker := .sending (s.server.collect now).1 } :
      DlnaSystem).ConvergenceSound := by
  refine ⟨h.one, h.marks, fun hrun i entry hentry name hname => ?_⟩
  obtain ⟨old, hold, hcollect⟩ := entry_collect hentry
  rcases hcollect with ⟨-, rfl, htgt⟩ | ⟨hclean, rfl⟩
  · exact .inl (.inr (.inr ⟨_, htgt, rfl, rfl⟩))
  have hshown := h.shown hrun i entry hold name hname
  simp only [Coming, WillMark, unstartedTargets, Shown, reading, hwait] at hshown ⊢
  rcases hshown with (hdirty | hwill | htgt) | hshown
  · exact nomatch hclean.symm.trans hdirty
  · exact .inl (.inr (.inl hwill))
  · obtain ⟨_, hnone, -⟩ := htgt
    cases hnone
  · exact .inr hshown

/-- **The event thread.** -/
lemma ConvergenceSound.workerStep (hnums : s.NumbersSound)
    (now : EventService → UInt64) (sent : Bool) : (s.workerStep now sent).ConvergenceSound := by
  by_cases hwork : s.worker = .waiting
  · simp only [DlnaSystem.workerStep, hwork]
    split
    · exact ⟨h.one, h.marks, by simp⟩
    split
    · exact h.collects hwork now
    · exact h
  obtain ⟨more, hrecord, hmore, hstate, hstop⟩ := s.record_workerStep now sent
  have hold {stamp : ℕ} {service : EventService}
      (hmem : .subscribed stamp service ∈ (s.workerStep now sent).history) :
      .subscribed stamp service ∈ s.history := by
    rw [hrecord] at hmem
    refine (mem_append.mp hmem).resolve_right fun hnew => ?_
    obtain ⟨_, _, _, _, heq⟩ := hmore _ hnew
    cases heq
  refine ⟨fun stamp service other hsvc hother =>
    h.one stamp service other (hold hsvc) (hold hother), ?_, ?_⟩
  · have hhand : (s.workerStep now sent).handler = s.handler := by
      rw [DlnaSystem.workerStep]
      split <;> try rfl
      all_goals split <;> try rfl
      split <;> rfl
    intro write hwrite service hsvc
    rw [handlerLeft, hhand, ← handlerLeft] at hwrite
    rw [WillMark, hhand, ← WillMark]
    exact h.marks write hwrite service hsvc
  · intro hrun i entry hentry name hname
    rw [hstop] at hrun
    rw [server_workerStep hwork] at hentry
    exact h.shown_worker hnums hrun hwork hentry hname now sent

end

lemma ConvergenceSound.of_reachable (hrun : Runs.Reachable step initial ToldOf s) :
    s.ConvergenceSound := by
  have hboth : s.ConvergenceSound ∧ s.NumbersSound := by
    refine hrun.invariant (P := fun s => s.ConvergenceSound ∧ s.NumbersSound) ⟨⟨nofun, nofun,
        nofun⟩,
        .of_reachable (.start : Runs.Reachable step initial ToldOf initial)⟩ ?_
    rintro s label ⟨h, hnums⟩ htold
    refine ⟨?_, hnums.step label⟩
    by_cases hlabel : ∃ now sent, label = .worker now sent
    · obtain ⟨now, sent, rfl⟩ := hlabel
      exact h.workerStep hnums now sent
    · exact h.quiet_step hnums (fun now sent heq => hlabel ⟨now, sent, heq⟩) htold
  exact hboth.1

/-! ## The result -/

/-- **Subscribers converge.** -/
theorem subscribers_converge (hrun : Runs.Reachable step initial ToldOf s) : s.Converged := by
  have hsound := ConvergenceSound.of_reachable hrun
  have hnumbers := NumbersSound.of_reachable hrun
  intro hidle hrunning i entry hentry hmark
  obtain ⟨hworker, hclean⟩ := hidle
  have hwaiting : s.worker = .waiting := by
    cases hcase : s.worker <;> rw [hcase] at hworker
    all_goals exact hworker.elim
  have hcoming : ¬s.Coming entry.stamp entry.service := by
    rintro (hdirty | hwill | ⟨target, htarget, -⟩)
    · exact absurd ((hclean _).symm.trans hdirty) Bool.false_ne_true
    · exact hmark hwill
    · rw [unstartedTargets, hwaiting] at htarget
      cases htarget
  have hshown {name : ProtocolVariable} (hname : name ∈ eventVariables entry.service) :
      ∃ last, lastNotification entry.stamp s.history = some last ∧
        last.seen.value name = s.state.value name := by
    have hname := (hsound.shown hrunning i entry hentry name hname).resolve_left hcoming
    rw [Shown, reading, hwaiting] at hname
    exact hname
  obtain ⟨first, hfirst⟩ : ∃ name, name ∈ eventVariables entry.service := by
    cases entry.service <;> exact ⟨_, List.mem_cons_self⟩
  obtain ⟨last, hlast, -⟩ := hshown hfirst
  have hvalues : ∀ name ∈ eventVariables entry.service,
      last.seen.value name = s.state.value name := by
    intro name hname
    obtain ⟨other, hother, hvalue⟩ := hshown hname
    cases hlast.symm.trans hother
    exact hvalue
  refine ⟨last, hlast, fun _ => ⟨?_, hvalues⟩⟩
  obtain ⟨target, hattempted, hstamp⟩ := exists_of_lastNotification hlast
  obtain ⟨before, after, hhistory⟩ := List.append_of_mem hattempted
  obtain ⟨hsubscribed, hbody, -⟩ := hnumbers.events before _ after hhistory
  have hservice : target.service = entry.service := by
    refine hsound.one entry.stamp _ _ ?_ (hnumbers.known i entry hentry)
    rw [hhistory, ← hstamp]
    exact List.mem_append_left _ hsubscribed
  rw [hbody, hservice]
  exact eventBuildPropertyset_congr hvalues

/-- A `SUBSCRIBE` of the transport for a minute. -/
def transportSubscribe : List UInt8 :=
  asciiBytes "SUBSCRIBE /upnp/event/AVTransport HTTP/1.1\r\nCALLBACK: <http://10.0.0.2:80/>\r\n"
    ++ asciiBytes "NT: upnp:event\r\nTIMEOUT: Second-60\r\n\r\n"

lemma eventRequest_transport :
    eventRequest (asciiBytes "SUBSCRIBE") (asciiBytes "/upnp/event/AVTransport")
      transportSubscribe = .subscribe .avTransport volumeCallback 60 := by
  decide +kernel

/-- The transport has a subscription, which has got nothing yet. -/
def transportSubscribed : DlnaSystem :=
  { initial with
    server := (initial.server.answer 0 (.subscribe .avTransport EventServer.volumeCallback 60)).2
    history := [.subscribed 0 .avTransport] }

lemma reachable_transportSubscribed {ok : DlnaSystem → DlnaLabel → Prop}
    (hok : ∀ method path request now, ok initial (.request method path request now)) :
    Runs.Reachable step initial ok transportSubscribed := by
  have hstep : initial.step (.request (asciiBytes "SUBSCRIBE")
      (asciiBytes "/upnp/event/AVTransport") transportSubscribe 0) = transportSubscribed := by
    have hpath : eventServiceFromPath (asciiBytes "/upnp/event/AVTransport") =
        some .avTransport := by
      decide +kernel
    rw [step, answerRequest, tryHandleHttp_eq, eventRequest_transport, hpath]
    rfl
  exact hstep ▸ .step _ .start (hok _ _ _ _)

/-- The event thread tells the subscription of the transport all it has to tell. -/
def notifyTransport : List DlnaLabel := List.replicate 11 (.worker (fun _ => 0) true)

/-- A `Stop` that changes nothing, and an event of the player. -/
def toldLabels : List DlnaLabel :=
  notifyTransport ++ [.action .stop, .answered true, .soap, .soap, .soap] ++
    deliverState .playing ++ notifyTransport

theorem subscribers_converge_told :
    (Runs.run step transportSubscribed toldLabels).Converged ∧
      (Runs.run step transportSubscribed toldLabels).Idle := by
  have htold : Runs.Along step ToldOf transportSubscribed toldLabels := by
    and_intros
    all_goals first | exact trivial | exact fun _ => absurd rfl
  have hstart : Runs.Reachable step initial ToldOf transportSubscribed :=
    reachable_transportSubscribed fun _ _ _ _ => trivial
  refine ⟨subscribers_converge (hstart.along htold), trivial, fun service => ?_⟩
  cases service <;> rfl

/-- A media is loaded, and the event of it told, before the action goes on. -/
def staleLabels : List DlnaLabel :=
  notifyTransport ++ [.action (.setUri (asciiBytes "http://a/") []), .opened] ++
    [.rendererEvent none (stateEvent .loading), .handler] ++ notifyTransport ++
    [.answered true] ++ List.replicate 13 .soap

/-- What the event thread reads of the transport at first. -/
def transportSeen : ProtocolState :=
  (eventVariables .avTransport).foldl
    (fun seen name => seen.write (ProtocolState.initial.value name)) .initial

lemma isSome_transportSeen : (eventBuildPropertyset .avTransport transportSeen).isSome := by
  refine isSome_eventBuildPropertyset .avTransport (fun name => ?_) fun name => ?_
  · cases name <;> decide
  · cases name <;> decide +kernel

lemma lastNotification_stale :
    lastNotification 0 (Runs.run step transportSubscribed staleLabels).history =
      some ⟨transportSeen, eventBuildPropertyset .avTransport transportSeen,
        true && !false && (eventBuildPropertyset .avTransport transportSeen).isSome⟩ := rfl

/-- The action's `PAUSED_PLAYBACK` is told to nobody. -/
theorem subscribers_converge_stale :
    ¬∀ s, Runs.Reachable step initial (fun _ _ => True) s → s.Converged := by
  intro h
  have hrun := (reachable_transportSubscribed fun _ _ _ _ => trivial).run staleLabels
  have hidle : (Runs.run step transportSubscribed staleLabels).Idle := by
    refine ⟨trivial, fun service => ?_⟩
    cases service <;> rfl
  obtain ⟨last, hlast, hvalues⟩ := h _ hrun hidle rfl ⟨0, by decide⟩ _ rfl not_false
  cases lastNotification_stale.symm.trans hlast
  rw [isSome_transportSeen] at hvalues
  have hstate := (hvalues rfl).2 (.text .transportState) List.mem_cons_self
  exact absurd (ProtocolWrite.text.inj hstate).2 (by decide)

end DlnaSystem

end NXCast
