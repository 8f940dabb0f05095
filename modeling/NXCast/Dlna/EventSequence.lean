import NXCast.Dlna.EventBodies
import NXCast.Dlna.EventDuties
import Mathlib.Tactic.FinCases

/-!
# The sequence of notifications

A subscription's notifications are numbered from zero on without a gap, and each grant and mark has
one, in the runs in which no subscription gets 2^32 of them.  The next number should then be one, and
is zero.
-/

namespace NXCast

open EventServer List Function

lemma length_attemptedNumbers_le (stamp : ℕ) (events : List DlnaEvent) :
    (attemptedNumbers stamp events).length ≤ events.length :=
  length_filterMap_le _ _

namespace DlnaSystem

variable {s t : DlnaSystem}

/-! ## Counts -/

/-- No subscription has got more than 2^32 numbers, and none that the event thread has as its target
so many. -/
structure CountSound (s : DlnaSystem) : Prop where
  bounded : ∀ stamp, (attemptedNumbers stamp s.history).length ≤ 2 ^ 32
  pending : ∀ target ∈ s.pendingTargets,
    (attemptedNumbers target.stamp s.history).length < 2 ^ 32

lemma CountSound.frame (h : s.CountSound)
    (hpend : ∀ target ∈ t.pendingTargets, target ∈ s.pendingTargets)
    (hnums : ∀ stamp, attemptedNumbers stamp t.history = attemptedNumbers stamp s.history) :
    t.CountSound := by
  constructor
  · intro stamp
    rw [hnums]
    exact h.bounded stamp
  · intro target htgt
    rw [hnums]
    exact h.pending target (hpend target htgt)

lemma CountSound.delivers (h : s.CountSound) (hsound : s.NumbersSound) {target : EventNotifyTarget}
    {seen : ProtocolState} {left : List EventNotifyTarget}
    (hdelivering : s.worker = .delivering target seen left) (body : Option (List UInt8))
    (sent : Bool) :
    ({ s with
      worker := .sending left
      history := s.history ++ [.attempted target seen body sent] } : DlnaSystem).CountSound := by
  have hpend : s.pendingTargets = target :: left := by rw [pendingTargets, hdelivering]
  have hnodup := hsound.nodup
  rw [hpend, map_cons, nodup_cons] at hnodup
  have htgt := h.pending target (hpend ▸ mem_cons_self)
  constructor
  · intro stamp
    simp only [attemptedNumbers_concat, DlnaEvent.number, length_append]
    by_cases hstamp : target.stamp = stamp
    · rw [if_pos hstamp, ← hstamp]
      exact htgt
    · rw [if_neg hstamp]
      exact h.bounded stamp
  · intro other hother
    have hne : target.stamp ≠ other.stamp := fun heq =>
      hnodup.1 (heq ▸ mem_map_of_mem hother)
    simp only [attemptedNumbers_concat, DlnaEvent.number, if_neg hne, Option.toList_none,
      append_nil]
    exact h.pending other (hpend ▸ mem_cons_of_mem target hother)

lemma CountSound.workerStep (h : s.CountSound) (hsound : s.NumbersSound)
    {now : EventService → UInt64} {sent : Bool} (hcounts : s.Counts (.worker now sent)) :
    (s.workerStep now sent).CountSound := by
  rw [DlnaSystem.workerStep]
  split
  · rename_i hwork
    split
    · exact h.frame (by rintro _ ⟨⟩) fun _ => rfl
    rename_i hrun
    split
    · refine ⟨h.bounded, fun target htgt => ?_⟩
      obtain ⟨hdirty, i, entry, hentry, rfl, halive⟩ :=
        right_collect now target htgt
      simp only [Counts, hwork] at hcounts
      exact hcounts (eq_false_of_ne_true hrun) i entry hentry hdirty halive
    · exact h
  · exact h.frame (by rintro _ ⟨⟩) fun _ => rfl
  · rename_i hwork
    split
    · exact h.frame (by rintro _ ⟨⟩) fun _ => rfl
    · refine h.frame (fun target htgt => ?_) fun _ => rfl
      rwa [pendingTargets, hwork]
  · rename_i hwork
    refine h.frame (fun target htgt => ?_) fun _ => rfl
    rwa [pendingTargets, hwork]
  · rename_i hwork
    refine h.frame (fun target htgt => ?_) fun _ => rfl
    rwa [pendingTargets, hwork]
  · rename_i hwork
    exact h.delivers hsound hwork _ _
  · exact h

lemma CountSound.of_reachable (hrun : Runs.Reachable DlnaSystem.step initial Counts s) :
    s.CountSound := by
  have hboth : s.CountSound ∧ s.NumbersSound := by
    refine hrun.invariant (P := fun s => s.CountSound ∧ s.NumbersSound)
      ⟨⟨fun _ => Nat.zero_le _, nofun⟩,
        .of_reachable (.start : Runs.Reachable step initial Counts initial)⟩ ?_
    rintro s label ⟨h, hsound⟩ hcounts
    refine ⟨?_, hsound.step label⟩
    by_cases hlabel : ∃ now sent, label = .worker now sent
    · obtain ⟨now, sent, rfl⟩ := hlabel
      exact h.workerStep hsound hcounts
    obtain ⟨more, hquiet⟩ := s.quiet_step fun now sent heq => hlabel ⟨now, sent, heq⟩
    refine h.frame (fun target htgt => ?_) fun stamp => ?_
    · rwa [pendingTargets, hquiet.worker] at htgt
    · rw [hquiet.history, attemptedNumbers_append_plain hquiet.plain]
  exact hboth.1

/-- **Notifications.** -/
theorem notifications_sequence (hrun : Runs.Reachable step initial Counts s) : s.Notifies := by
  have hnumbers := NumbersSound.of_reachable hrun
  have hduties := DutySound.of_reachable hrun
  have hcounts := CountSound.of_reachable hrun
  constructor
  · intro stamp hsent
    rw [deliveredNumbers_of_allSent hsent]
    refine (hnumbers.numbers stamp).trans (List.map_congr_left fun n hn => ?_)
    exact (upnpNumber_of_lt ((List.mem_range.mp hn).trans_le (hcounts.bounded stamp))).symm
  · exact hnumbers.events
  · intro hrunning i entry hentry before event after hhistory hobliges
    rcases hduties.owed hrunning i entry hentry before event after hhistory hobliges with
      hdirty | hworking | hnotified
    · exact .inl (.inl hdirty)
    · exact .inl (.inr hworking.hasTarget)
    · exact .inr hnotified
  · intro hrunning now
    have hexited : s.worker ≠ .exited := fun hexited =>
      absurd ((exited_of_reachable hrun hexited).symm.trans hrunning).symm Bool.false_ne_true
    obtain ⟨t, ⟨n, rfl⟩, hidle⟩ := works_idle now hrunning hexited
    exact ⟨n, hidle⟩

/-- A subscription of the volume gets its first notification, and one after the volume's event. -/
def notifyLabels : List DlnaLabel :=
  [.request (asciiBytes "SUBSCRIBE") (asciiBytes "/upnp/event/RenderingControl")
      EventServer.volumeSubscribe 0] ++
    List.replicate 7 (.worker (fun _ => 0) true) ++
    [.rendererEvent none ⟨.volumeChanged, .playing, 0, 0, 70, false⟩, .handler, .handler] ++
    List.replicate 7 (.worker (fun _ => 0) true)

lemma counts_of_length {label : DlnaLabel} (h : s.history.length < 2 ^ 32) : s.Counts label := by
  rw [Counts.eq_def]
  split
  · split
    · exact fun _ _ _ _ _ _ => (length_attemptedNumbers_le _ _).trans_lt h
    · trivial
  · trivial

theorem notifications_sequence_volume :
    (Runs.run step initial notifyLabels).Notifies ∧
      attemptedNumbers 0 (Runs.run step initial notifyLabels).history = [0, 1] := by
  have hcounts : Runs.Along step Counts initial notifyLabels :=
    ⟨trivial, counts_of_length (by decide +kernel), trivial, trivial, trivial, trivial, trivial,
      trivial, trivial, trivial, trivial, counts_of_length (by decide +kernel), trivial, trivial,
      trivial, trivial, trivial, trivial, trivial⟩
  exact ⟨notifications_sequence (Runs.Reachable.along .start hcounts), by decide +kernel⟩

/-! ## The wrap -/

/-- The volume stays what it is, and the player says so. -/
def volumeEvent : RendererEvent := ⟨.volumeChanged, .playing, 0, 0, 100, false⟩

variable (seq : UInt32)

/-- The subscription of the volume. -/
def volumeEntry : EventSubscription :=
  ⟨.renderingControl, eventSid 1, EventServer.volumeCallback, seq, 60000, 0⟩

/-- One subscription of the volume, which may be dirty, and an event thread that waits. -/
def volumeSystem (dirty : Bool) (history : List DlnaEvent) : DlnaSystem :=
  { state := .initial
    server :=
      ⟨fun i => if i = ⟨0, by decide⟩ then some (volumeEntry seq) else none,
        fun service => dirty && service = .renderingControl, 2, 1⟩
    soap := .idle
    handler := .idle
    worker := .waiting
    stopRequested := false
    mapped := none
    history }

/-- The event thread's clock stands still. -/
def noTime : EventService → UInt64 := fun _ => 0

/-- What a notification of the volume carries. -/
def volumeSeen : ProtocolState :=
  (ProtocolState.initial.write (.number .volume 100)).write (.mute false)

/-- One notification of the volume. -/
def volumeNotified : DlnaEvent :=
  .attempted (EventServer.targetOf (volumeEntry seq)) volumeSeen
    (eventBuildPropertyset .renderingControl volumeSeen) true

variable (history : List DlnaEvent)

lemma run_volumeSystem_mark :
    Runs.run step (volumeSystem seq false history)
        [.rendererEvent none volumeEvent, .handler, .handler] =
      volumeSystem seq true
        (history ++ [.wrote (.number .volume 100)] ++ [.marked .renderingControl]) := by
  have hnumber : update ProtocolState.initial.number .volume 100 =
      ProtocolState.initial.number := update_eq_self _ _
  have hdirty : update (fun service => false && decide (service = .renderingControl))
      EventService.renderingControl true =
      fun service => true && decide (service = .renderingControl) := by
    funext service
    cases service <;> rfl
  have hrun : Runs.run step (volumeSystem seq false history)
      [.rendererEvent none volumeEvent, .handler, .handler] =
      { volumeSystem seq true
          (history ++ [.wrote (.number .volume 100)] ++ [.marked .renderingControl]) with
        state := { ProtocolState.initial with
          number := update ProtocolState.initial.number .volume 100 }
        server := { (volumeSystem seq true history).server with
          dirty := update (fun service => false && decide (service = .renderingControl))
            EventService.renderingControl true } } := rfl
  rw [hrun, hnumber, hdirty]
  rfl

lemma isSome_volumeSeen : (eventBuildPropertyset .renderingControl volumeSeen).isSome = true := by
  refine isSome_eventBuildPropertyset .renderingControl (fun name => ?_) fun name => ?_
  · cases name <;> decide
  · cases name <;> decide +kernel

lemma collect_volumeSystem :
    (volumeSystem seq true history).server.collect noTime = ([targetOf (volumeEntry seq)],
        (volumeSystem (seq + 1) false history).server) := by
  have hprune : (volumeSystem seq true history).server.pruneExpired 0 =
      (volumeSystem seq true history).server := by
    refine congrArg (fun subscriptions =>
      { (volumeSystem seq true history).server with subscriptions }) ?_
    funext i
    simp only [volumeSystem]
    split <;> rfl
  have htake : ((volumeSystem seq true history).server.takeNumbers .renderingControl).subscriptions =
      (volumeSystem (seq + 1) false history).server.subscriptions := by
    funext i
    simp only [volumeSystem, takeNumbers]
    split <;> rfl
  have hdirty : update (volumeSystem seq true history).server.dirty
      .renderingControl false = (volumeSystem (seq + 1) false history).server.dirty := by
    funext service
    cases service <;> rfl
  have htargets : (volumeSystem seq true history).server.targets .renderingControl =
      [targetOf (volumeEntry seq)] := rfl
  have hcollectDue : (volumeSystem seq true history).server.collectDue .renderingControl 0 =
      ([targetOf (volumeEntry seq)], (volumeSystem (seq + 1) false history).server) := by
    rw [collectDue_of_dirty rfl, hprune, htargets, hdirty]
    change (_, (⟨((volumeSystem seq true history).server.takeNumbers
      .renderingControl).subscriptions, (volumeSystem (seq + 1) false history).server.dirty,
        2, 1⟩ : EventServer)) = _
    rw [htake]
    rfl
  have hfirst : (volumeSystem seq true history).server.collectDue .avTransport 0 =
      ([], (volumeSystem seq true history).server) := collectDue_of_clean rfl 0
  have hlast : (volumeSystem (seq + 1) false history).server.collectDue .connectionManager 0 =
      ([], (volumeSystem (seq + 1) false history).server) := collectDue_of_clean rfl 0
  simp only [collect, noTime, hfirst, hcollectDue, hlast, nil_append, append_nil]

lemma run_volumeSystem_deliver :
    Runs.run step { volumeSystem (seq + 1) false history with
        worker := .sending [targetOf (volumeEntry seq)] }
      (replicate 6 (.worker noTime true)) =
      volumeSystem (seq + 1) false (history ++ [.attempted (targetOf (volumeEntry seq))
        volumeSeen (eventBuildPropertyset .renderingControl volumeSeen)
        (true && !false && (eventBuildPropertyset .renderingControl volumeSeen).isSome)]) := rfl

lemma run_volumeSystem_notify :
    Runs.run step (volumeSystem seq true history) (replicate 7 (.worker noTime true)) =
      volumeSystem (seq + 1) false (history ++ [volumeNotified seq]) := by
  have hfirst : (volumeSystem seq true history).workerStep noTime true =
      { volumeSystem (seq + 1) false history with
        worker := .sending [targetOf (volumeEntry seq)] } := by
    change ({ volumeSystem seq true history with
      server := ((volumeSystem seq true history).server.collect noTime).2
      worker := .sending ((volumeSystem seq true history).server.collect noTime).1 } :
        DlnaSystem) = _
    rw [collect_volumeSystem]
    rfl
  change Runs.run step ((volumeSystem seq true history).workerStep noTime true)
    (replicate 6 (.worker noTime true)) = _
  rw [hfirst, run_volumeSystem_deliver, isSome_volumeSeen]
  rfl

/-- The history of a subscription of the volume with some notifications. -/
def volumeHistory : ℕ → List DlnaEvent
  | 0 => [.subscribed 0 .renderingControl]
  | n + 1 =>
    volumeHistory n ++ [volumeNotified (UInt32.ofNat n)] ++ [.wrote (.number .volume 100)] ++
      [.marked .renderingControl]

/-- The subscription gets as many notifications as the volume has events. -/
lemma reachable_volumeSystem (n : ℕ) :
    Runs.Reachable step initial (fun _ _ => True)
      (volumeSystem (UInt32.ofNat n) true (volumeHistory n)) := by
  induction n with
  | zero =>
    have hreq : initial.step (.request (asciiBytes "SUBSCRIBE")
        (asciiBytes "/upnp/event/RenderingControl") volumeSubscribe 0) =
        volumeSystem 0 true (volumeHistory 0) := by
      rw [step, DlnaSystem.answerRequest, tryHandleHttp_eq, eventRequest_volume]
      have hserver : (initial.server.answer 0 (.subscribe .renderingControl volumeCallback 60)).2 =
          (volumeSystem 0 true []).server := by
        have hsubscriptions : (initial.server.answer 0
            (.subscribe .renderingControl volumeCallback 60)).2.subscriptions =
            (volumeSystem 0 true []).server.subscriptions := by
          funext i
          fin_cases i <;> rfl
        have hdirty : (initial.server.answer 0
            (.subscribe .renderingControl volumeCallback 60)).2.dirty =
            (volumeSystem 0 true []).server.dirty := by
          funext service
          cases service <;> rfl
        change (⟨(initial.server.answer 0
            (.subscribe .renderingControl volumeCallback 60)).2.subscriptions,
          (initial.server.answer 0
            (.subscribe .renderingControl volumeCallback 60)).2.dirty, 2, 1⟩ :
            EventServer) = _
        rw [hsubscriptions, hdirty]
        rfl
      have hpath : eventServiceFromPath (asciiBytes "/upnp/event/RenderingControl") =
          some .renderingControl := by
        decide +kernel
      rw [hserver, hpath]
      rfl
    exact hreq ▸ .step _ .start trivial
  | succ n ih =>
    have hnotified := ih.run (replicate 7 (.worker noTime true))
    rw [run_volumeSystem_notify] at hnotified
    have hmark := hnotified.run [.rendererEvent none volumeEvent, .handler, .handler]
    rw [run_volumeSystem_mark] at hmark
    rw [UInt32.ofNat_add]
    exact hmark

lemma attemptedNumbers_volumeHistory (n : ℕ) :
    (attemptedNumbers 0 (volumeHistory n)).length = n := by
  induction n with
  | zero => rfl
  | succ n ih =>
    simp only [volumeHistory, attemptedNumbers_concat, length_append, ih]
    rfl

lemma allSent_volumeHistory (n : ℕ) : AllSent 0 (volumeHistory n) := by
  induction n with
  | zero =>
    intro target seen body sent htried
    cases mem_singleton.mp htried
  | succ n ih =>
    intro target seen body sent htried htgt
    simp only [volumeHistory, mem_append, mem_singleton] at htried
    rcases htried with ((htried | htried) | htried) | htried
    · exact ih target seen body sent htried htgt
    · cases htried
      rfl
    all_goals cases htried

lemma not_notifies_volumeSystem {n : ℕ} (hn : n + 1 = 2 ^ 32) :
    ¬(volumeSystem (UInt32.ofNat (n + 2)) true (volumeHistory (n + 2))).Notifies := by
  intro hnotifies
  have hnums := hnotifies.numbers 0 (allSent_volumeHistory (n + 2))
  have htried := (NumbersSound.of_reachable (reachable_volumeSystem (n + 2))).numbers 0
  simp only [volumeSystem, deliveredNumbers_of_allSent (allSent_volumeHistory (n + 2)),
    attemptedNumbers_volumeHistory] at hnums htried
  rw [htried] at hnums
  have hlast := map_inj_left.mp hnums (n + 1) (mem_range.mpr (Nat.lt_succ_self _))
  have hwrap : upnpNumber (n + 1) = 1 := by
    obtain rfl : n = 4294967295 := Nat.succ_injective hn
    rw [upnpNumber, upnpNumber_of_lt (by decide)]
    exact if_pos (by decide)
  rw [hwrap, hn] at hlast
  exact absurd hlast (by decide)

/-- UPnP's number after 4294967295 is one. -/
theorem notifications_sequence_wrap :
    ¬∀ s, Runs.Reachable step initial (fun _ _ => True) s → s.Notifies := by
  intro h
  exact not_notifies_volumeSystem (n := 4294967295) rfl (h _ (reachable_volumeSystem _))

end DlnaSystem

end NXCast
