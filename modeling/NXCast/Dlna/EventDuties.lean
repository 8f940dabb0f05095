import NXCast.Dlna.EventNotifications

/-!
# What the event thread owes

After a mark of its service, or its grant, a subscription is owed a notification: the flag stands,
or the event thread has its target, and what it has read for it so far is no older than the mark.
Each step keeps this until the notification has been tried, and the event thread by itself gets there.
-/

namespace NXCast

open List EventServer DlnaSystem

/-! ## Histories -/

variable {stamp : ℕ} {left : List EventNotifyTarget} {target : EventNotifyTarget}

lemma HasTarget.of_cons {service : EventService} (h : HasTarget (target :: left) stamp service) :
    (target.stamp = stamp ∧ target.service = service) ∨ HasTarget left stamp service := by
  obtain ⟨found, hfound, hstamp, hsvc⟩ := h
  rcases mem_cons.mp hfound with rfl | hfound
  · exact .inl ⟨hstamp, hsvc⟩
  · exact .inr ⟨found, hfound, hstamp, hsvc⟩

variable {events : List DlnaEvent}

variable {more : List DlnaEvent}

lemma split_append {before after : List DlnaEvent} {event : DlnaEvent}
    (h : events ++ more = before ++ event :: after) :
    (∃ rest, events = before ++ event :: rest) ∨ event ∈ more ∧ events <+: before := by
  induction more generalizing events with
  | nil =>
    rw [append_nil] at h
    exact .inl ⟨after, h⟩
  | cons first more ih =>
    rw [append_cons] at h
    rcases ih h with ⟨rest, hrest⟩ | ⟨hmem, hpfx⟩
    · rcases Trace.split_concat.mp hrest with ⟨rfl, rfl, rfl⟩ | ⟨after', rfl, hevs⟩
      · exact .inr ⟨.head _, prefix_refl _⟩
      · exact .inl ⟨after', hevs⟩
    · exact .inr ⟨mem_cons_of_mem first hmem, (prefix_append _ _).trans hpfx⟩

lemma ReadSince.now {base : List DlnaEvent} (hbase : base <+: events) (name : ProtocolVariable) :
    ReadSince base events name ((stateAfter events).value name) := by
  obtain ⟨more, rfl⟩ := hbase
  exact ⟨more, prefix_refl _, rfl⟩

lemma stateAfter_append_of_attempted
    (hmore : ∀ event ∈ more, ∃ target seen body sent, event = .attempted target seen body sent) :
    stateAfter (events ++ more) = stateAfter events := by
  induction more using reverseRecOn with
  | nil => rw [append_nil]
  | append_singleton more last ih =>
    obtain ⟨_, _, _, _, rfl⟩ := hmore last (mem_append_right _ (mem_singleton_self _))
    rw [← append_assoc, stateAfter_concat]
    exact ih fun event hevent => hmore event (mem_append_left _ hevent)

namespace DlnaSystem

variable {s t : DlnaSystem}

/-! ## Duties -/

/-- The event thread has a target, and what it has read for it is not from before the end of
`base`. -/
def Working (s : DlnaSystem) (stamp : ℕ) (service : EventService) (base : List DlnaEvent) : Prop :=
  match s.worker with
  | .waiting | .exited => False
  | .sending left => HasTarget left stamp service
  | .building target unread seen left =>
    (target.stamp = stamp ∧ target.service = service ∧ ∀ name ∈ eventVariables service,
      name ∈ unread ∨ ReadSince base s.history name (seen.value name)) ∨
      HasTarget left stamp service
  | .delivering target seen left =>
    (target.stamp = stamp ∧ target.service = service ∧ ∀ name ∈ eventVariables service,
      ReadSince base s.history name (seen.value name)) ∨ HasTarget left stamp service

/-- A notification is owed, or has been tried. -/
def Owed (s : DlnaSystem) (stamp : ℕ) (service : EventService) (base : List DlnaEvent) : Prop :=
  s.server.dirty service = true ∨ s.Working stamp service base ∨
    NotifiedSince base s.history stamp service

/-- What every run keeps of the duties. -/
structure DutySound (s : DlnaSystem) : Prop where
  state : s.state = stateAfter s.history
  owed : s.stopRequested = false → ∀ i entry, s.server.subscriptions i = some entry →
    ∀ before event after, s.history = before ++ event :: after → Obliges before event entry →
      s.Owed entry.stamp entry.service (before ++ [event])

variable {service : EventService} {base : List DlnaEvent}

lemma Working.hasTarget (h : s.Working stamp service base) :
    HasTarget s.pendingTargets stamp service := by
  cases hwork : s.worker <;> simp only [Working, hwork] at h <;>
    simp only [pendingTargets, hwork]
  case sending => exact h
  all_goals
    rcases h with ⟨hstamp, hsvc, -⟩ | ⟨found, hfound, hrest⟩
    · exact ⟨_, .head _, hstamp, hsvc⟩
    · exact ⟨found, .tail _ hfound, hrest⟩

lemma Owed.quiet (h : s.Owed stamp service base)
    (hquiet : s.Quiet t more) : t.Owed stamp service base := by
  have hpfx : s.history <+: t.history := hquiet.history ▸ prefix_append _ _
  rcases h with hdirty | hworking | hnotified
  · exact .inl (hquiet.dirty service hdirty)
  · refine .inr (.inl ?_)
    rw [Working, hquiet.worker]
    rw [Working] at hworking
    split at hworking
    · exact hworking
    · exact hworking
    · exact hworking
    · refine hworking.imp_left fun ⟨hstamp, hsvc, hread⟩ => ⟨hstamp, hsvc, ?_⟩
      exact fun name hname => (hread name hname).imp_right fun hread => hread.mono hpfx
    · refine hworking.imp_left fun ⟨hstamp, hsvc, hread⟩ => ⟨hstamp, hsvc, ?_⟩
      exact fun name hname => (hread name hname).mono hpfx
  · exact .inr (.inr (hnotified.mono hpfx))

/-- **The other threads.** -/
lemma DutySound.quiet (h : s.DutySound) (hnums : s.NumbersSound)
    (hquiet : s.Quiet t more) (hstate : t.state = stateAfter t.history) : t.DutySound := by
  refine ⟨hstate, fun hrun i entry hentry before event after hhist hobliges => ?_⟩
  rw [hquiet.history] at hhist
  rcases split_append hhist with ⟨rest, hold⟩ | ⟨hnew, hpfx⟩
  · -- the event is an old one, and so is the entry
    rcases hquiet.entries i entry hentry with ⟨old, hsame, hstamp, hsvc⟩ | hstamp
    · have hobliges' : Obliges before event old := by
        rw [Obliges, hstamp, hsvc]
        exact hobliges
      have howed := h.owed (hquiet.stop hrun) i old hsame before event rest hold hobliges'
      rw [hstamp, hsvc] at howed
      exact howed.quiet hquiet
    · have hsub : .subscribed entry.stamp entry.service ∈ s.history := by
        rw [hold]
        rcases hobliges with rfl | ⟨rfl, hpre⟩
        · exact mem_append_right _ mem_cons_self
        · exact mem_append_left _ hpre
      exact absurd (hnums.subscribed _ _ hsub) (hstamp ▸ lt_irrefl _)
  · refine .inl ?_
    rcases hobliges with rfl | ⟨rfl, -⟩
    · exact (hquiet.subscribed _ _ hnew).2
    · exact hquiet.marked _ hnew

/-! ## The event thread -/

/-- The event thread records notifications, and neither writes nor stops. -/
lemma record_workerStep (now : EventService → UInt64) (sent : Bool) :
    ∃ more, (s.workerStep now sent).history = s.history ++ more ∧
      (∀ event ∈ more, ∃ target seen body sent, event = .attempted target seen body sent) ∧
      (s.workerStep now sent).state = s.state ∧
      (s.workerStep now sent).stopRequested = s.stopRequested := by
  have hnone : ∀ event ∈ ([] : List DlnaEvent),
      ∃ target seen body sent, event = .attempted target seen body sent := by
    exact nofun
  rw [workerStep]
  split
  · split
    · exact ⟨[], (append_nil _).symm, hnone, rfl, rfl⟩
    · split <;> exact ⟨[], (append_nil _).symm, hnone, rfl, rfl⟩
  · exact ⟨[], (append_nil _).symm, hnone, rfl, rfl⟩
  · split <;> exact ⟨[], (append_nil _).symm, hnone, rfl, rfl⟩
  · exact ⟨[], (append_nil _).symm, hnone, rfl, rfl⟩
  · exact ⟨[], (append_nil _).symm, hnone, rfl, rfl⟩
  · exact ⟨_, rfl, fun event hevent => ⟨_, _, _, _, mem_singleton.mp hevent⟩, rfl, rfl⟩
  · exact ⟨[], (append_nil _).symm, hnone, rfl, rfl⟩

lemma history_workerStep (now : EventService → UInt64) (sent : Bool) :
    s.history <+: (s.workerStep now sent).history := by
  obtain ⟨more, hhist, -⟩ := s.record_workerStep now sent
  exact hhist ▸ prefix_append _ _

lemma server_workerStep (hbusy : s.worker ≠ .waiting) (now : EventService → UInt64) (sent : Bool) :
    (s.workerStep now sent).server = s.server := by
  rw [workerStep]
  split
  · rename_i hwork
    exact absurd hwork hbusy
  · rfl
  · split <;> rfl
  all_goals rfl

lemma Working.worker (h : s.Working stamp service base)
    (hstate : s.state = stateAfter s.history) (hbase : base <+: s.history)
    (hrun : s.stopRequested = false) (now : EventService → UInt64) (sent : Bool) :
    (s.workerStep now sent).Working stamp service base ∨
      NotifiedSince base (s.workerStep now sent).history stamp service := by
  cases hwork : s.worker <;> simp only [Working, hwork] at h
  case sending left =>
    cases left with
    | nil =>
      obtain ⟨_, hnone, -⟩ := h
      cases hnone
    | cons target left =>
      simp only [workerStep, hwork, hrun, Bool.false_eq_true, if_false]
      refine .inl (h.of_cons.imp_left (And.imp_right fun hsvc => ⟨hsvc, ?_⟩))
      exact fun name hname => .inl (hsvc.symm ▸ hname)
  case building target unread seen left =>
    cases unread with
    | nil =>
      simp only [workerStep, hwork]
      refine .inl (h.imp_left (And.imp_right (And.imp_right fun hread => ?_)))
      exact fun name hname => (hread name hname).resolve_left not_mem_nil
    | cons first unread =>
      simp only [workerStep, hwork]
      refine .inl (h.imp_left (And.imp_right (And.imp_right fun hread => ?_)))
      intro name hname
      rw [ProtocolState.value_write, ProtocolState.value_name]
      by_cases hfirst : first = name
      · rw [if_pos hfirst, hfirst, hstate]
        exact .inr (.now hbase name)
      · rw [if_neg hfirst]
        refine (hread name hname).imp_left fun hmem => ?_
        exact (mem_cons.mp hmem).resolve_left (Ne.symm hfirst)
  case delivering target seen left =>
    simp only [workerStep, hwork]
    rcases h with ⟨hstamp, -, hread⟩ | hleft
    · exact .inr ⟨s.history, target, seen, _, _, [], rfl, hbase, hstamp, hread⟩
    · exact .inl hleft

lemma Owed.worker (h : s.Owed stamp service base)
    (hstate : s.state = stateAfter s.history) (hbase : base <+: s.history)
    (hrun : s.stopRequested = false) (hbusy : s.worker ≠ .waiting) (now : EventService → UInt64)
    (sent : Bool) : (s.workerStep now sent).Owed stamp service base := by
  rcases h with hdirty | hworking | hnotified
  · exact .inl (server_workerStep hbusy now sent ▸ hdirty)
  · exact .inr (hworking.worker hstate hbase hrun now sent)
  · exact .inr (.inr (hnotified.mono (history_workerStep now sent)))

lemma DutySound.collects (h : s.DutySound) (hwait : s.worker = .waiting)
    (hrun : s.stopRequested = false) (now : EventService → UInt64) :
    ({ s with server := (s.server.collect now).2, worker := .sending (s.server.collect now).1 } :
      DlnaSystem).DutySound := by
  refine ⟨h.state, fun _ i entry hentry before event after hhist hobliges => ?_⟩
  obtain ⟨old, hold, hentry⟩ := entry_collect hentry
  have hsame : old.stamp = entry.stamp ∧ old.service = entry.service := by
    rcases hentry with ⟨-, rfl, -⟩ | ⟨-, rfl⟩ <;> exact ⟨rfl, rfl⟩
  have hobliges' : Obliges before event old := by
    rw [Obliges, hsame.1, hsame.2]
    exact hobliges
  rw [← hsame.1, ← hsame.2]
  rcases h.owed hrun i old hold before event after hhist hobliges' with
    hdirty | hworking | hnotified
  · rcases hentry with ⟨-, -, htgt⟩ | ⟨hclean, -⟩
    · exact .inr (.inl ⟨_, htgt, rfl, rfl⟩)
    · exact nomatch hclean.symm.trans hdirty
  · rw [Working, hwait] at hworking
    exact hworking.elim
  · exact .inr (.inr hnotified)

lemma DutySound.workerStep (h : s.DutySound) (now : EventService → UInt64) (sent : Bool) :
    (s.workerStep now sent).DutySound := by
  by_cases hwork : s.worker = .waiting
  · simp only [DlnaSystem.workerStep, hwork]
    split
    · rename_i hstop
      refine ⟨h.state, fun hrun => ?_⟩
      exact absurd (hstop.symm.trans hrun).symm Bool.false_ne_true
    · rename_i hrun
      split
      · exact h.collects hwork (eq_false_of_ne_true hrun) now
      · exact h
  · obtain ⟨more, hrecord, hmore, hstate, hstop⟩ := s.record_workerStep now sent
    refine ⟨?_, fun hrun i entry hentry before event after hhist hobliges => ?_⟩
    · rw [hstate, hrecord, stateAfter_append_of_attempted hmore]
      exact h.state
    rw [hstop] at hrun
    rw [server_workerStep hwork] at hentry
    rw [hrecord] at hhist
    rcases split_append hhist with ⟨rest, hold⟩ | ⟨hnew, -⟩
    · have howed := h.owed hrun i entry hentry before event rest hold hobliges
      refine howed.worker h.state ?_ hrun hwork now sent
      exact hold ▸ ⟨rest, (append_cons before event rest).symm⟩
    · obtain ⟨_, _, _, _, rfl⟩ := hmore event hnew
      rcases hobliges with heq | ⟨heq, -⟩ <;> cases heq

lemma state_step (h : s.state = stateAfter s.history) {label : DlnaLabel}
    (hlabel : ∀ now sent, label ≠ .worker now sent) :
    (s.step label).state = stateAfter (s.step label).history := by
  cases label with
  | action action =>
    rw [step, callAction]
    split
    · split <;> exact h
    · exact h
  | answered succeeded =>
    rw [step, answerAction]
    split <;> exact h
  | soap =>
    rw [step, soapStep]
    split
    · simp only [wrote, stateAfter_concat, DlnaEvent.apply, h]
    all_goals exact h
  | opened =>
    rw [step, openMedia]
    split <;> exact h
  | rendererEvent owner event =>
    rw [step, callHandler]
    split
    · split <;> exact h
    · exact h
  | handler =>
    rw [step, handlerStep]
    split
    · exact h
    · simp only [wrote, stateAfter_concat, DlnaEvent.apply, h]
    rename_i event _
    simp only [markEvents]
    cases markedService event.type with
    | none =>
      simp only [Option.map_none, Option.toList_none, append_nil]
      exact h
    | some service =>
      simp only [Option.map_some, Option.toList_some, stateAfter_concat]
      exact h
  | request method path request now =>
    rw [step, answerRequest, tryHandleHttp_eq]
    rcases s.grantEvents_eq now method path request with ⟨-, heq⟩ | ⟨_, _, _, -, -, -, heq⟩ <;>
      simp only [heq]
    · rw [append_nil]
      exact h
    · rw [stateAfter_concat]
      exact h
  | worker now sent => exact absurd rfl (hlabel now sent)
  | stop => exact h

lemma DutySound.step (h : s.DutySound) (hnums : s.NumbersSound) (label : DlnaLabel) :
    (s.step label).DutySound := by
  by_cases hlabel : ∃ now sent, label = .worker now sent
  · obtain ⟨now, sent, rfl⟩ := hlabel
    exact h.workerStep now sent
  have hlabel (now : EventService → UInt64) (sent : Bool) : label ≠ .worker now sent :=
    fun heq => hlabel ⟨now, sent, heq⟩
  obtain ⟨more, hquiet⟩ := s.quiet_step hlabel
  exact h.quiet hnums hquiet (state_step h.state hlabel)

variable {ok : DlnaSystem → DlnaLabel → Prop}

lemma DutySound.of_reachable
    (hrun : Runs.Reachable DlnaSystem.step initial ok s) : s.DutySound := by
  have hboth : s.DutySound ∧ s.NumbersSound := by
    refine hrun.invariant (P := fun s => s.DutySound ∧ s.NumbersSound) ⟨⟨rfl, nofun⟩,
        .of_reachable (.start : Runs.Reachable DlnaSystem.step initial ok initial)⟩ ?_
    exact fun s label h _ => ⟨h.1.step h.2 label, h.2.step label⟩
  exact hboth.1

/-! ## Progress -/

/-- The event thread goes on alone for a while, and what it sends arrives. -/
def Works (now : EventService → UInt64) (s t : DlnaSystem) : Prop :=
  ∃ n, Runs.run DlnaSystem.step s (List.replicate n (.worker now true)) = t

lemma Works.refl (now : EventService → UInt64) (s : DlnaSystem) : Works now s s := ⟨0, rfl⟩

variable {now : EventService → UInt64}

lemma Works.step (h : Works now (s.workerStep now true) t) : Works now s t := by
  obtain ⟨n, hrun⟩ := h
  exact ⟨n + 1, hrun⟩

lemma Works.trans {u : DlnaSystem} (h : Works now s t) (h' : Works now t u) : Works now s u := by
  obtain ⟨m, rfl⟩ := h
  obtain ⟨n, rfl⟩ := h'
  refine ⟨m + n, ?_⟩
  rw [replicate_add, Runs.run, foldl_append]
  rfl

/-- The event thread has come to a place, and the server is the same. -/
def WorksTo (now : EventService → UInt64) (s : DlnaSystem) (worker : EventThread) : Prop :=
  ∃ t, Works now s t ∧ t.worker = worker ∧ t.server = s.server ∧ t.stopRequested = false

lemma WorksTo.step {worker : EventThread} (h : WorksTo now (s.workerStep now true) worker)
    (hserver : (s.workerStep now true).server = s.server) : WorksTo now s worker := by
  obtain ⟨t, hworks, hwork, hsame, hrun⟩ := h
  exact ⟨t, hworks.step, hwork, hsame.trans hserver, hrun⟩

lemma WorksTo.trans {middle worker : EventThread} (h : WorksTo now s middle)
    (hnext : ∀ t : DlnaSystem, t.worker = middle → t.stopRequested = false → WorksTo now t worker) :
    WorksTo now s worker := by
  obtain ⟨t, hworks, hmiddle, hsame, hrun⟩ := h
  obtain ⟨u, hworks', hwork, hsame', hrun'⟩ := hnext t hmiddle hrun
  exact ⟨u, hworks.trans hworks', hwork, hsame'.trans hsame, hrun'⟩

lemma worksTo_building (now : EventService → UInt64) (unread : List ProtocolVariable) :
    ∀ (s : DlnaSystem) (seen : ProtocolState), s.worker = .building target unread seen left →
      s.stopRequested = false → WorksTo now s (.sending left) := by
  induction unread with
  | nil =>
    intro s seen hwork hrun
    have hbusy : s.worker ≠ .waiting := by
      rw [hwork]
      simp
    refine WorksTo.step ?_ (server_workerStep hbusy now true)
    simp only [workerStep, hwork]
    refine WorksTo.step ?_ rfl
    exact ⟨_, .refl _ _, rfl, rfl, hrun⟩
  | cons name unread ih =>
    intro s seen hwork hrun
    have hbusy : s.worker ≠ .waiting := by
      rw [hwork]
      simp
    refine WorksTo.step ?_ (server_workerStep hbusy now true)
    simp only [workerStep, hwork]
    exact ih _ _ rfl hrun

lemma worksTo_sending (now : EventService → UInt64) (left : List EventNotifyTarget) :
    ∀ s : DlnaSystem, s.worker = .sending left → s.stopRequested = false →
      WorksTo now s .waiting := by
  induction left with
  | nil =>
    intro s hwork hrun
    refine WorksTo.step ?_ ?_ <;> simp only [workerStep, hwork]
    exact ⟨_, .refl _ _, rfl, rfl, hrun⟩
  | cons target left ih =>
    intro s hwork hrun
    have hnext : s.workerStep now true =
        { s with worker := .building target (eventVariables target.service) .initial left } := by
      simp only [workerStep, hwork]
      exact if_neg (by rw [hrun]; exact Bool.false_ne_true)
    refine WorksTo.step ?_ (by rw [hnext])
    rw [hnext]
    refine WorksTo.trans ?_ ih
    exact worksTo_building now _ _ _ rfl hrun

lemma worksTo_waiting (now : EventService → UInt64) (hrun : s.stopRequested = false)
    (hexit : s.worker ≠ .exited) : WorksTo now s .waiting := by
  cases hwork : s.worker with
  | waiting => exact ⟨s, .refl _ _, hwork, rfl, hrun⟩
  | sending left => exact worksTo_sending now left s hwork hrun
  | building target unread seen left =>
    exact (worksTo_building now unread s seen hwork hrun).trans (worksTo_sending now left)
  | delivering target seen left =>
    refine WorksTo.step ?_ ?_ <;> simp only [workerStep, hwork]
    exact worksTo_sending now left _ rfl hrun
  | exited => exact absurd hwork hexit

lemma dirty_of_not_anyDirty (h : s.anyDirty ≠ true) (service : EventService) :
    s.server.dirty service = false := by
  rw [anyDirty, ne_eq, Bool.or_eq_true, Bool.or_eq_true, not_or, not_or] at h
  cases service with
  | avTransport => exact eq_false_of_ne_true h.1.1
  | renderingControl => exact eq_false_of_ne_true h.1.2
  | connectionManager => exact eq_false_of_ne_true h.2

/-- **The event thread gets to wait with nothing left to send.** -/
lemma works_idle (now : EventService → UInt64) (hrun : s.stopRequested = false)
    (hexit : s.worker ≠ .exited) : ∃ t, Works now s t ∧ t.Idle := by
  obtain ⟨t, hworks, hwait, -, hrun⟩ := worksTo_waiting now hrun hexit
  by_cases hdirty : t.anyDirty = true
  · have hnext : t.workerStep now true =
        { t with server := (t.server.collect now).2, worker := .sending (t.server.collect now).1 } := by
      simp only [workerStep, hwait]
      rw [if_neg (by rw [hrun]; exact Bool.false_ne_true), if_pos hdirty]
    obtain ⟨u, hworks', hwait', hsame, -⟩ := worksTo_sending now _ _
      (congrArg worker hnext) ((congrArg stopRequested hnext).trans hrun)
    refine ⟨u, hworks.trans hworks'.step, ?_, fun service => ?_⟩
    · rw [hwait']
      trivial
    · rw [hsame, hnext]
      exact dirty_collect now service
  · refine ⟨t, hworks, ?_, dirty_of_not_anyDirty hdirty⟩
    rw [hwait]
    trivial

lemma exited_of_reachable
    (hrun : Runs.Reachable step initial ok s) : s.worker = .exited → s.stopRequested := by
  refine hrun.invariant (P := fun s => s.worker = .exited → s.stopRequested)
    (by intro h; cases h) fun s label h _ hexit => ?_
  by_cases hlabel : ∃ now sent, label = .worker now sent
  · obtain ⟨now, sent, rfl⟩ := hlabel
    obtain ⟨_, -, -, -, hstop⟩ := s.record_workerStep now sent
    refine hstop.trans ?_
    by_contra hrunning
    rw [step, workerStep] at hexit
    split at hexit
    · rw [if_neg hrunning] at hexit
      split at hexit
      · cases hexit
      rename_i hwait _
      rw [hwait] at hexit
      cases hexit
    · cases hexit
    · rw [if_neg hrunning] at hexit
      cases hexit
    · cases hexit
    · cases hexit
    · cases hexit
    · exact hrunning (h hexit)
  · obtain ⟨more, hquiet⟩ := s.quiet_step fun now sent heq => hlabel ⟨now, sent, heq⟩
    by_contra hrunning
    rw [hquiet.worker] at hexit
    exact absurd ((h hexit).symm.trans (hquiet.stop (eq_false_of_ne_true hrunning))).symm
      Bool.false_ne_true

end DlnaSystem

end NXCast
