import NXCast.Dlna.EventEntries
import NXCast.Dlna.TransportState

/-!
# Notifications

The event thread takes the numbers of the notifications under the mutex and reads their bodies
later.  Every mark that finds a subscription is answered all the same: its dirty flag stands until
the numbers are taken, and the bodies are read after that.  What fails is the wrap of the 32-bit
number, which goes to zero and not to one.
-/

namespace NXCast

open List EventServer Option DlnaEvent DlnaSystem EventNotifyTarget

/-! ## The properties -/

/-- What an event makes of the state. -/
def DlnaEvent.apply (state : ProtocolState) : DlnaEvent → ProtocolState
  | .wrote write => state.write write
  | _ => state

/-- The state after some events. -/
def stateAfter (events : List DlnaEvent) : ProtocolState := events.foldl DlnaEvent.apply .initial

/-- The number that an event gives to a subscription. -/
def DlnaEvent.number (stamp : ℕ) : DlnaEvent → Option UInt32
  | .attempted target _ _ _ => if target.stamp = stamp then some target.seq else none
  | _ => none

/-- The numbers of the notifications for a subscription, in the order of the attempts to send them. -/
def attemptedNumbers (stamp : ℕ) (events : List DlnaEvent) : List UInt32 :=
  events.filterMap (DlnaEvent.number stamp)

/-- The number that an event delivers to a subscription. -/
def DlnaEvent.deliveredNumber (stamp : ℕ) : DlnaEvent → Option UInt32
  | .attempted target _ _ sent => if target.stamp = stamp ∧ sent then some target.seq else none
  | _ => none

/-- The numbers of the notifications that a subscription has got. -/
def deliveredNumbers (stamp : ℕ) (events : List DlnaEvent) : List UInt32 :=
  events.filterMap (DlnaEvent.deliveredNumber stamp)

/-- Every notification for a subscription has been sent. -/
def AllSent (stamp : ℕ) (events : List DlnaEvent) : Prop :=
  ∀ target seen body sent, DlnaEvent.attempted target seen body sent ∈ events →
    target.stamp = stamp → sent = true

/-- The numbers that a subscription should get. -/
def upnpNumber : ℕ → UInt32
  | 0 => 0
  | n + 1 => if upnpNumber n = 4294967295 then 1 else upnpNumber n + 1

/-- An event in its place: a notification is for a subscription that has been granted, and its body is
made of what was read for it. -/
def NotificationAllowed (before : List DlnaEvent) : DlnaEvent → Prop
  | .attempted target seen body sent =>
    .subscribed target.stamp target.service ∈ before ∧
      body = eventBuildPropertyset target.service seen ∧ (sent = true → body.isSome)
  | _ => True

/-- A variable has a value that it had at the end of `base` or later. -/
def ReadSince (base events : List DlnaEvent) (name : ProtocolVariable) (value : ProtocolWrite) :
    Prop :=
  ∃ more, base ++ more <+: events ∧ value = (stateAfter (base ++ more)).value name

/-- A notification has been sent whose body is of values at the end of `base` or later. -/
def NotifiedSince (base events : List DlnaEvent) (stamp : ℕ) (service : EventService) : Prop :=
  ∃ before target seen body sent after,
    events = before ++ .attempted target seen body sent :: after ∧ base <+: before ∧
      target.stamp = stamp ∧
      ∀ name ∈ eventVariables service, ReadSince base before name (seen.value name)

/-- An event after which a subscription is to be notified: its own grant, or a mark of its service. -/
def Obliges (before : List DlnaEvent) (event : DlnaEvent) (entry : EventSubscription) : Prop :=
  event = .subscribed entry.stamp entry.service ∨
    event = .marked entry.service ∧ .subscribed entry.stamp entry.service ∈ before

/-- The event thread has a target. -/
def HasTarget (targets : List EventNotifyTarget) (stamp : ℕ) (service : EventService) : Prop :=
  ∃ target ∈ targets, target.stamp = stamp ∧ target.service = service

namespace DlnaSystem

/-- The targets that the event thread has collected and not yet done with. -/
def pendingTargets (s : DlnaSystem) : List EventNotifyTarget :=
  match s.worker with
  | .waiting | .exited => []
  | .sending left => left
  | .building target _ _ left | .delivering target _ left => target :: left

/-- A notification is to come: the service is dirty, or the event thread has the target. -/
def Pending (s : DlnaSystem) (stamp : ℕ) (service : EventService) : Prop :=
  s.server.dirty service = true ∨ HasTarget s.pendingTargets stamp service

/-- The event thread waits, and nothing is dirty. -/
def Idle (s : DlnaSystem) : Prop :=
  (match s.worker with
    | .waiting => True
    | _ => False) ∧ ∀ service, s.server.dirty service = false

/-- What is asked of the notifications: a subscription gets the numbers from zero on, its first
notification after its grant, and one after each mark of its service, unless the server is stopped;
and what is to come does come when the event thread goes on. -/
structure Notifies (s : DlnaSystem) : Prop where
  numbers : ∀ stamp, AllSent stamp s.history → deliveredNumbers stamp s.history =
    (List.range (deliveredNumbers stamp s.history).length).map upnpNumber
  events : Trace.Each NotificationAllowed s.history
  answered : s.stopRequested = false → ∀ i entry, s.server.subscriptions i = some entry →
    ∀ before event after, s.history = before ++ event :: after → Obliges before event entry →
      s.Pending entry.stamp entry.service ∨
        NotifiedSince (before ++ [event]) s.history entry.stamp entry.service
  progress : s.stopRequested = false → ∀ now,
    ∃ n, (Runs.run step s (List.replicate n (.worker now true))).Idle

/-- No subscription has got 2^32 numbers when the event thread takes another for it. -/
def Counts (s : DlnaSystem) : DlnaLabel → Prop
  | .worker now _ =>
    match s.worker with
    | .waiting =>
      s.stopRequested = false → ∀ i entry, s.server.subscriptions i = some entry →
        s.server.dirty entry.service = true → EventServer.Alive (now entry.service) entry →
        (attemptedNumbers entry.stamp s.history).length < 2 ^ 32
    | _ => True
  | _ => True

/-! ## The invariant -/

/-- What every run keeps of the numbers. -/
structure NumbersSound (s : DlnaSystem) : Prop where
  stamped : s.server.Stamped
  known : ∀ i entry, s.server.subscriptions i = some entry →
    .subscribed entry.stamp entry.service ∈ s.history
  pendingKnown : ∀ target ∈ s.pendingTargets, .subscribed target.stamp target.service ∈ s.history
  subscribed : ∀ stamp service, .subscribed stamp service ∈ s.history → stamp < s.server.granted
  events : Trace.Each NotificationAllowed s.history
  nodup : (s.pendingTargets.map EventNotifyTarget.stamp).Nodup
  next : s.stopRequested = false → ∀ i entry, s.server.subscriptions i = some entry →
    entry.seq = UInt32.ofNat ((attemptedNumbers entry.stamp s.history).length +
      if entry.stamp ∈ s.pendingTargets.map EventNotifyTarget.stamp then 1 else 0)
  pendingNumber : ∀ target ∈ s.pendingTargets,
    target.seq = UInt32.ofNat (attemptedNumbers target.stamp s.history).length
  numbers : ∀ stamp, attemptedNumbers stamp s.history =
    (List.range (attemptedNumbers stamp s.history).length).map UInt32.ofNat

variable {s : DlnaSystem}

end DlnaSystem

/-! ## Histories -/

section Histories

variable {events more : List DlnaEvent} {event : DlnaEvent} {stamp : ℕ}

@[simp] lemma stateAfter_concat : stateAfter (events ++ [event]) = event.apply (stateAfter events) := by
  rw [stateAfter, stateAfter, foldl_concat]

@[simp] lemma attemptedNumbers_concat :
    attemptedNumbers stamp (events ++ [event]) =
      attemptedNumbers stamp events ++ (event.number stamp).toList := by
  rw [attemptedNumbers, attemptedNumbers, filterMap_append]
  cases h : event.number stamp <;> simp [h]

lemma deliveredNumbers_of_allSent (h : AllSent stamp events) :
    deliveredNumbers stamp events = attemptedNumbers stamp events := by
  refine filterMap_congr fun event hevent => ?_
  cases event with
  | attempted target seen body sent =>
    simp only [deliveredNumber, number]
    by_cases hstamp : target.stamp = stamp
    · rw [if_pos hstamp, if_pos ⟨hstamp, h target seen body sent hevent hstamp⟩]
    · rw [if_neg hstamp, if_neg fun hboth => hstamp hboth.1]
  | _ => rfl

lemma attemptedNumbers_eq_nil (h : ∀ target seen body sent,
    attempted target seen body sent ∈ events → target.stamp ≠ stamp) :
    attemptedNumbers stamp events = [] := by
  refine filterMap_eq_nil_iff.mpr fun event hevent => ?_
  cases event with
  | attempted target seen body sent => exact if_neg (h target seen body sent hevent)
  | _ => rfl

lemma upnpNumber_of_lt {n : ℕ} (h : n < 2 ^ 32) : upnpNumber n = UInt32.ofNat n := by
  induction n with
  | zero => rfl
  | succ n ih =>
    have hprev := ih (Nat.lt_of_succ_lt h)
    rw [upnpNumber, hprev, if_neg]
    · exact (UInt32.ofNat_add n 1).symm
    intro heq
    have hnat := congrArg UInt32.toNat heq
    rw [UInt32.toNat_ofNat', Nat.mod_eq_of_lt (Nat.lt_of_succ_lt h)] at hnat
    have : n = 4294967295 := hnat
    omega

lemma ReadSince.mono {base : List DlnaEvent} {name : ProtocolVariable} {value : ProtocolWrite}
    (h : ReadSince base events name value) (hmore : events <+: more) :
    ReadSince base more name value := by
  obtain ⟨later, hpfx, hvalue⟩ := h
  exact ⟨later, hpfx.trans hmore, hvalue⟩

lemma NotifiedSince.mono {base : List DlnaEvent} {service : EventService}
    (h : NotifiedSince base events stamp service) (hmore : events <+: more) :
    NotifiedSince base more stamp service := by
  obtain ⟨before, target, seen, body, sent, after, rfl, hrest⟩ := h
  obtain ⟨later, rfl⟩ := hmore
  exact ⟨before, target, seen, body, sent, after ++ later, by simp, hrest⟩

end Histories

/-! ## Numbers -/

/-- An event that is neither a grant nor a notification. -/
def DlnaEvent.Plain : DlnaEvent → Prop
  | .wrote _ | .marked _ => True
  | .subscribed _ _ | .attempted _ _ _ _ => False

lemma attemptedNumbers_append_plain {events more : List DlnaEvent}
    (hmore : ∀ event ∈ more, event.Plain ∨ ∃ stamp service, event = .subscribed stamp service)
    (stamp : ℕ) : attemptedNumbers stamp (events ++ more) = attemptedNumbers stamp events := by
  rw [attemptedNumbers, filterMap_append, ← attemptedNumbers]
  refine (congrArg _ (filterMap_eq_nil_iff.mpr fun event hevent => ?_)).trans (append_nil _)
  cases event with
  | attempted => rcases hmore _ hevent with hplain | ⟨_, _, heq⟩ <;> contradiction
  | _ => rfl

namespace DlnaSystem

variable {s : DlnaSystem}

variable {t : DlnaSystem}

lemma NumbersSound.frame (h : s.NumbersSound) {more : List DlnaEvent}
    (hsubscriptions : t.server.subscriptions = s.server.subscriptions)
    (hgrant : t.server.granted = s.server.granted) (hpend : t.pendingTargets = s.pendingTargets)
    (hstop : t.stopRequested = false → s.stopRequested = false)
    (hhist : t.history = s.history ++ more) (hmore : ∀ event ∈ more, event.Plain) :
    t.NumbersSound := by
  have hnums (stamp : ℕ) : attemptedNumbers stamp t.history = attemptedNumbers stamp s.history := by
    rw [hhist, attemptedNumbers_append_plain fun event hevent => .inl (hmore event hevent)]
  have hsub {stamp : ℕ} {service : EventService} :
      .subscribed stamp service ∈ t.history ↔ .subscribed stamp service ∈ s.history := by
    rw [hhist, mem_append]
    exact or_iff_left fun hnew => hmore _ hnew
  constructor
  · refine h.stamped.of_keys hgrant.ge fun i entry hentry => ⟨entry, ?_, rfl⟩
    rwa [hsubscriptions] at hentry
  · rw [hsubscriptions]
    exact fun i entry hentry => hsub.mpr (h.known i entry hentry)
  · rw [hpend]
    exact fun target htgt => hsub.mpr (h.pendingKnown target htgt)
  · rw [hgrant]
    exact fun stamp service hnew => h.subscribed stamp service (hsub.mp hnew)
  · rw [hhist]
    refine h.events.append fun event hevent before => ?_
    cases event with
    | attempted => exact (hmore _ hevent).elim
    | _ => trivial
  · rw [hpend]
    exact h.nodup
  · rw [hsubscriptions, hpend]
    simp only [hnums]
    exact fun hrun => h.next (hstop hrun)
  · rw [hpend]
    simp only [hnums]
    exact h.pendingNumber
  · simp only [hnums]
    exact h.numbers

variable {target : EventNotifyTarget}

lemma NumbersSound.stamp_lt (h : s.NumbersSound) {seen : ProtocolState}
    {body : Option (List UInt8)} {sent : Bool}
    (htried : .attempted target seen body sent ∈ s.history) : target.stamp < s.server.granted := by
  obtain ⟨before, after, hhist⟩ := append_of_mem htried
  obtain ⟨hsub, -⟩ := h.events before _ after hhist
  refine h.subscribed _ target.service ?_
  rw [hhist]
  exact mem_append_left _ hsub

lemma NumbersSound.pending_lt (h : s.NumbersSound) {stamp : ℕ}
    (hpend : stamp ∈ s.pendingTargets.map EventNotifyTarget.stamp) : stamp < s.server.granted := by
  obtain ⟨target, htgt, rfl⟩ := mem_map.mp hpend
  exact h.subscribed _ _ (h.pendingKnown target htgt)

lemma grantEvents_eq (s : DlnaSystem) (now : UInt64) (method path request : List UInt8) :
    ((s.server.answer now (eventRequest method path request)).2.granted = s.server.granted ∧
        s.grantEvents (s.server.answer now (eventRequest method path request)).2
          (eventServiceFromPath path) = []) ∨
      ∃ service callback timeoutSeconds,
        eventRequest method path request = .subscribe service callback timeoutSeconds ∧
        (s.server.answer now (eventRequest method path request)).2.granted = s.server.granted + 1 ∧
        (s.server.answer now (eventRequest method path request)).2.dirty service ∧
        s.grantEvents (s.server.answer now (eventRequest method path request)).2
          (eventServiceFromPath path) = [.subscribed s.server.granted service] := by
  rcases s.server.granted_answer now (eventRequest method path request) with
    hgrant | ⟨hgrant, service, callback, timeoutSeconds, hreq, hdirty⟩
  · exact .inl ⟨hgrant, if_pos hgrant⟩
  refine .inr ⟨service, callback, timeoutSeconds, hreq, hgrant, hdirty, ?_⟩
  rw [grantEvents, if_neg (by rw [hgrant]; exact Nat.succ_ne_self _), eventRequest_service hreq]
  rfl

section

variable (h : s.NumbersSound)

include h

lemma NumbersSound.answerRequest (method path request : List UInt8)
    (now : UInt64) : (s.answerRequest method path request now).NumbersSound := by
  rw [DlnaSystem.answerRequest, tryHandleHttp_eq]
  have hgrant := s.grantEvents_eq now method path request
  have hentry {i : Fin eventMaxSubscriptions} {entry : EventSubscription} :=
    @entry_answer s.server i now entry (eventRequest method path request)
  have hstamped := h.stamped.answer now (eventRequest method path request)
  generalize hserver : (s.server.answer now (eventRequest method path request)).2 = server at *
  generalize hmore : s.grantEvents server (eventServiceFromPath path) = more at *
  have hnums (stamp : ℕ) :
      attemptedNumbers stamp (s.history ++ more) = attemptedNumbers stamp s.history := by
    refine attemptedNumbers_append_plain (fun event hevent => .inr ?_) stamp
    rcases hgrant with ⟨-, rfl⟩ | ⟨service, _, _, -, -, -, rfl⟩
    · cases hevent
    · exact ⟨_, service, mem_singleton.mp hevent⟩
  have hfresh : attemptedNumbers s.server.granted s.history = [] :=
    attemptedNumbers_eq_nil fun _ _ _ _ htried => (h.stamp_lt htried).ne
  refine ⟨hstamped, ?_, ?_, ?_, ?_, h.nodup, ?_, ?_, ?_⟩
  · intro i entry hnew
    rcases hentry hnew with ⟨old, hold, heq⟩ | ⟨_, _, hreq, heq, hgranted, -⟩
    · rw [heq]
      exact mem_append_left _ (h.known i old hold)
    rcases hgrant with ⟨hsame, -⟩ | ⟨service, _, _, hreq', -, -, rfl⟩
    · exact absurd (hsame.symm.trans hgranted) (Nat.succ_ne_self _).symm
    rw [hreq] at hreq'
    cases hreq'
    rw [heq]
    exact mem_append_right _ (mem_singleton_self _)
  · exact fun target htgt => mem_append_left _ (h.pendingKnown target htgt)
  · intro stamp service hsub
    rcases hgrant with ⟨hgranted, rfl⟩ | ⟨_, _, _, -, hgranted, -, rfl⟩
    · rw [append_nil] at hsub
      exact hgranted ▸ h.subscribed stamp service hsub
    rcases mem_append.mp hsub with hsub | hsub
    · exact hgranted ▸ Nat.lt_succ_of_lt (h.subscribed stamp service hsub)
    · cases mem_singleton.mp hsub
      exact hgranted ▸ Nat.lt_succ_self _
  · refine h.events.append fun event hevent before => ?_
    rcases hgrant with ⟨-, rfl⟩ | ⟨_, _, _, -, -, -, rfl⟩
    · cases hevent
    · rw [mem_singleton.mp hevent]
      trivial
  · intro hrun i entry hnew
    rw [hnums]
    rcases hentry hnew with ⟨old, hold, heq⟩ | ⟨_, _, -, heq, -⟩
    · rw [heq]
      exact h.next hrun i old hold
    have hnone : entry.stamp ∉ s.pendingTargets.map EventNotifyTarget.stamp := by
      rw [heq]
      exact fun hpend => (h.pending_lt hpend).ne rfl
    have hstamp : entry.stamp = s.server.granted := by rw [heq]; rfl
    have hseq : entry.seq = 0 := by rw [heq]; rfl
    change entry.seq = UInt32.ofNat (_ +
      if entry.stamp ∈ s.pendingTargets.map EventNotifyTarget.stamp then 1 else 0)
    rw [if_neg hnone, hseq, hstamp, hfresh]
    rfl
  · intro target htgt
    rw [hnums]
    exact h.pendingNumber target htgt
  · intro stamp
    simp only [hnums]
    exact h.numbers stamp

lemma NumbersSound.collects (hwait : s.worker = .waiting)
    (hrun : s.stopRequested = false) (now : EventService → UInt64) :
    ({ s with server := (s.server.collect now).2, worker := .sending (s.server.collect now).1 } :
      DlnaSystem).NumbersSound := by
  have hnone : s.pendingTargets = [] := by rw [pendingTargets, hwait]
  have hnext {i : Fin eventMaxSubscriptions} {entry : EventSubscription}
      (hentry : s.server.subscriptions i = some entry) :
      entry.seq = UInt32.ofNat (attemptedNumbers entry.stamp s.history).length := by
    have hseq := h.next hrun i entry hentry
    rwa [hnone, map_nil, if_neg not_mem_nil, Nat.add_zero] at hseq
  have htgt {target : EventNotifyTarget} (htgt : target ∈ (s.server.collect now).1) :
      s.server.dirty target.service ∧ ∃ i entry,
        s.server.subscriptions i = some entry ∧ target = targetOf entry := by
    obtain ⟨hdirty, i, entry, hentry, heq, -⟩ := right_collect now target htgt
    exact ⟨hdirty, i, entry, hentry, heq⟩
  refine ⟨h.stamped.collect now, ?_, ?_, ?_, h.events, h.stamped.nodup_collect now, ?_, ?_,
    h.numbers⟩
  · intro i entry hentry
    obtain ⟨old, hold, ⟨-, heq, -⟩ | ⟨-, heq⟩⟩ := entry_collect hentry <;> rw [heq]
    all_goals exact h.known i old hold
  · intro target hpend
    obtain ⟨-, i, entry, hentry, rfl⟩ := htgt hpend
    exact h.known i entry hentry
  · intro stamp service hsub
    rw [show (s.server.collect now).2.granted = s.server.granted from
      granted_collect now]
    exact h.subscribed stamp service hsub
  · intro _ i entry hentry
    change entry.seq = UInt32.ofNat (_ + if entry.stamp ∈
      (s.server.collect now).1.map stamp then 1 else 0)
    obtain ⟨old, hold, ⟨-, heq, htaken⟩ | ⟨hclean, heq⟩⟩ := entry_collect hentry
    · have hmem : entry.stamp ∈ (s.server.collect now).1.map stamp := by
        rw [heq]
        exact mem_map_of_mem htaken
      rw [if_pos hmem, UInt32.ofNat_add, heq]
      exact congrArg (· + 1) (hnext hold)
    have hmem : entry.stamp ∉ (s.server.collect now).1.map stamp := by
      intro hmem
      obtain ⟨target, hpend, hstamp⟩ := mem_map.mp hmem
      obtain ⟨hdirty, j, other, hother, rfl⟩ := htgt hpend
      rw [heq] at hstamp
      have hij : j = i := h.stamped.distinct hother hold hstamp
      rw [hij, hold] at hother
      cases hother
      exact nomatch hclean.symm.trans hdirty
    rw [if_neg hmem, heq]
    exact hnext hold
  · intro target hpend
    obtain ⟨-, i, entry, hentry, rfl⟩ := htgt hpend
    exact hnext hentry

lemma NumbersSound.delivers {seen : ProtocolState}
    {left : List EventNotifyTarget} (hdelivering : s.worker = .delivering target seen left)
    {sent : Bool} (hsent : sent → (eventBuildPropertyset target.service seen).isSome) :
    ({ s with
      worker := .sending left
      history := s.history ++
        [.attempted target seen (eventBuildPropertyset target.service seen) sent] } :
      DlnaSystem).NumbersSound := by
  have hpend : s.pendingTargets = target :: left := by rw [pendingTargets, hdelivering]
  have hnodup := h.nodup
  rw [hpend, map_cons, nodup_cons] at hnodup
  have hnumber := h.pendingNumber target (hpend ▸ mem_cons_self)
  have hnums (stamp : ℕ) : attemptedNumbers stamp (s.history ++
      [.attempted target seen (eventBuildPropertyset target.service seen) sent]) =
      attemptedNumbers stamp s.history ++ if target.stamp = stamp then [target.seq] else [] := by
    rw [attemptedNumbers_concat, number]
    split <;> rfl
  refine ⟨h.stamped, ?_, ?_, ?_, ?_, hnodup.2, ?_, ?_, ?_⟩
  · exact fun i entry hentry => mem_append_left _ (h.known i entry hentry)
  · exact fun other hother => mem_append_left _
      (h.pendingKnown other (hpend ▸ mem_cons_of_mem target hother))
  · intro stamp service hsub
    rcases mem_append.mp hsub with hsub | hsub
    · exact h.subscribed stamp service hsub
    · cases mem_singleton.mp hsub
  · refine Trace.each_concat.mpr ⟨h.events, ?_, rfl, hsent⟩
    exact h.pendingKnown target (hpend ▸ mem_cons_self)
  · intro hrun i entry hentry
    have hseq := h.next hrun i entry hentry
    rw [hpend, map_cons] at hseq
    rw [hnums]
    change entry.seq = UInt32.ofNat (_ + if entry.stamp ∈ left.map stamp then 1 else 0)
    by_cases hstamp : target.stamp = entry.stamp
    · rw [if_pos (hstamp ▸ mem_cons_self)] at hseq
      rw [if_pos hstamp, if_neg (hstamp ▸ hnodup.1), length_append]
      exact hseq
    have hmem : (entry.stamp ∈ target.stamp :: left.map stamp) ↔
        entry.stamp ∈ left.map stamp := by
      rw [mem_cons]
      exact or_iff_right fun heq => hstamp heq.symm
    rw [if_neg hstamp, append_nil]
    simpa only [hmem] using hseq
  · intro other hother
    have hne : target.stamp ≠ other.stamp := fun heq =>
      hnodup.1 (heq ▸ mem_map_of_mem hother)
    rw [hnums, if_neg hne, append_nil]
    exact h.pendingNumber other (hpend ▸ mem_cons_of_mem target hother)
  · intro stamp
    rw [hnums]
    by_cases hstamp : target.stamp = stamp
    · rw [if_pos hstamp, length_append, length_singleton, range_succ,
        map_append, ← h.numbers stamp, hnumber, hstamp]
      rfl
    · rw [if_neg hstamp, append_nil]
      exact h.numbers stamp

lemma NumbersSound.stops
    (hsubscriptions : ∀ i entry, t.server.subscriptions i = some entry → s.server.subscriptions i = some entry)
    (hgrant : t.server.granted = s.server.granted) (hpend : t.pendingTargets = [])
    (hstop : t.stopRequested) (hhist : t.history = s.history) : t.NumbersSound := by
  refine ⟨?_, ?_, ?_, ?_, ?_, ?_, ?_, ?_, ?_⟩
  · exact h.stamped.of_keys hgrant.ge fun i entry hentry =>
      ⟨entry, hsubscriptions i entry hentry, rfl⟩
  · rw [hhist]
    exact fun i entry hentry => h.known i entry (hsubscriptions i entry hentry)
  · rw [hpend]
    exact nofun
  · rw [hhist, hgrant]
    exact h.subscribed
  · rw [hhist]
    exact h.events
  · rw [hpend]
    exact nodup_nil
  · rw [hstop]
    exact nofun
  · rw [hpend]
    exact nofun
  · rw [hhist]
    exact h.numbers

lemma NumbersSound.workerStep (now : EventService → UInt64) (sent : Bool) :
    (s.workerStep now sent).NumbersSound := by
  rw [DlnaSystem.workerStep]
  split
  · rename_i hwork
    split
    · rename_i hstop
      exact h.stops (by simp) rfl rfl hstop rfl
    rename_i hrun
    split
    · exact h.collects hwork (eq_false_of_ne_true hrun) now
    · exact h
  · rename_i hwork
    refine h.frame rfl rfl ?_ id (append_nil _).symm (by simp)
    rw [pendingTargets, pendingTargets, hwork]
  · rename_i target left hwork
    split_ifs with hstop
    · exact h.stops (fun _ _ => id) rfl rfl hstop rfl
    · refine h.frame rfl rfl ?_ id (append_nil _).symm (by simp)
      rw [pendingTargets, pendingTargets, hwork]
  · rename_i hwork
    refine h.frame rfl rfl ?_ id (append_nil _).symm (by simp)
    rw [pendingTargets, pendingTargets, hwork]
  · rename_i hwork
    refine h.frame rfl rfl ?_ id (append_nil _).symm (by simp)
    rw [pendingTargets, pendingTargets, hwork]
  · rename_i hwork
    refine h.delivers hwork fun hsent => ?_
    simp only [Bool.and_eq_true] at hsent
    exact hsent.2
  · exact h

lemma NumbersSound.step (label : DlnaLabel) : (s.step label).NumbersSound := by
  cases label with
  | action action =>
    rw [DlnaSystem.step, callAction]
    split
    · split
      · exact h
      · exact h.frame rfl rfl rfl id (append_nil _).symm (by simp)
    · exact h
  | answered succeeded =>
    rw [DlnaSystem.step, answerAction]
    split
    · exact h.frame rfl rfl rfl id (append_nil _).symm (by simp)
    · exact h
  | soap =>
    rw [DlnaSystem.step, soapStep]
    split
    · refine h.frame rfl rfl rfl id rfl fun event hevent => ?_
      rw [mem_singleton.mp hevent]
      trivial
    · exact h.frame rfl rfl rfl id (append_nil _).symm (by simp)
    · exact h
  | opened =>
    rw [DlnaSystem.step, openMedia]
    split
    · exact h.frame rfl rfl rfl id (append_nil _).symm (by simp)
    · exact h
  | rendererEvent owner event =>
    rw [DlnaSystem.step, callHandler]
    split
    · split
      · exact h.frame rfl rfl rfl id (append_nil _).symm (by simp)
      · exact h
    · exact h
  | handler =>
    rw [DlnaSystem.step, handlerStep]
    split
    · exact h
    · refine h.frame rfl rfl rfl id rfl fun event hevent => ?_
      rw [mem_singleton.mp hevent]
      trivial
    rename_i event _
    refine h.frame (subscriptions_onRendererEvent event)
      (granted_onRendererEvent event) rfl id rfl fun marked hmark => ?_
    obtain ⟨service, -, rfl⟩ := mem_map.mp (mem_toList.mp hmark)
    trivial
  | request method path request now => exact h.answerRequest method path request now
  | worker now sent => exact h.workerStep now sent
  | stop => exact h.frame rfl rfl rfl (by rintro ⟨⟩) (append_nil _).symm (by simp)

end

lemma NumbersSound.of_reachable {ok : DlnaSystem → DlnaLabel → Prop}
    (hrun : Runs.Reachable DlnaSystem.step initial ok s) : s.NumbersSound := by
  refine hrun.invariant (P := NumbersSound) ?_ fun s label h _ => h.step label
  refine ⟨.initial, ?_, ?_, ?_, Trace.each_nil, nodup_nil, ?_, ?_, fun _ => rfl⟩
  · exact nofun
  · exact nofun
  · exact nofun
  · exact nofun
  · exact nofun

/-! ## What the other threads do -/

/-- What a step of another thread leaves to the event thread: it adds grants and marks, whose
services are dirty then, and cleans nothing. -/
structure Quiet (s t : DlnaSystem) (more : List DlnaEvent) : Prop where
  worker : t.worker = s.worker
  stop : t.stopRequested = false → s.stopRequested = false
  history : t.history = s.history ++ more
  plain : ∀ event ∈ more, event.Plain ∨ ∃ stamp service, event = .subscribed stamp service
  marked : ∀ service, .marked service ∈ more → t.server.dirty service = true
  subscribed : ∀ stamp service, .subscribed stamp service ∈ more →
    stamp = s.server.granted ∧ t.server.dirty service = true
  one : ∀ stamp service other, .subscribed stamp service ∈ more → .subscribed stamp other ∈ more →
    service = other
  dirty : ∀ service, s.server.dirty service = true → t.server.dirty service = true
  entries : ∀ i entry, t.server.subscriptions i = some entry →
    (∃ old, s.server.subscriptions i = some old ∧ old.stamp = entry.stamp ∧
      old.service = entry.service) ∨ entry.stamp = s.server.granted

lemma Quiet.of_server {more : List DlnaEvent} (hwork : t.worker = s.worker)
    (hstop : t.stopRequested = false → s.stopRequested = false)
    (hhist : t.history = s.history ++ more) (hmore : ∀ event ∈ more, ∃ write, event = .wrote write)
    (hserver : t.server = s.server) : s.Quiet t more := by
  refine ⟨hwork, hstop, hhist, ?_, ?_, ?_, ?_, ?_, ?_⟩
  · intro event hevent
    obtain ⟨write, rfl⟩ := hmore event hevent
    exact .inl trivial
  · intro service hmark
    obtain ⟨write, heq⟩ := hmore _ hmark
    cases heq
  · intro stamp service hsub
    obtain ⟨write, heq⟩ := hmore _ hsub
    cases heq
  · intro stamp service other hsub
    obtain ⟨write, heq⟩ := hmore _ hsub
    cases heq
  · rw [hserver]
    exact fun _ => id
  · rw [hserver]
    exact fun i entry hentry => .inl ⟨entry, hentry, rfl, rfl⟩

lemma quiet_answerRequest (method path request : List UInt8) (now : UInt64) :
    ∃ more, s.Quiet (s.answerRequest method path request now) more := by
  rw [answerRequest, tryHandleHttp_eq]
  refine ⟨_, rfl, id, rfl, ?_, ?_, ?_, ?_, ?_, ?_⟩
  · intro event hevent
    rcases s.grantEvents_eq now method path request with ⟨-, heq⟩ | ⟨_, _, _, -, -, -, heq⟩ <;>
      rw [heq] at hevent
    · cases hevent
    · exact .inr ⟨_, _, mem_singleton.mp hevent⟩
  · intro service hmark
    rcases s.grantEvents_eq now method path request with ⟨-, heq⟩ | ⟨_, _, _, -, -, -, heq⟩ <;>
      rw [heq] at hmark
    · cases hmark
    · cases mem_singleton.mp hmark
  · intro stamp service hsub
    rcases s.grantEvents_eq now method path request with ⟨-, heq⟩ | ⟨_, _, _, -, -, hdirty, heq⟩ <;>
      rw [heq] at hsub
    · cases hsub
    · cases mem_singleton.mp hsub
      exact ⟨rfl, hdirty⟩
  · intro stamp service other hsvc hother
    rcases s.grantEvents_eq now method path request with ⟨-, heq⟩ | ⟨_, _, _, -, -, -, heq⟩ <;>
      rw [heq] at hsvc hother
    · cases hsvc
    cases mem_singleton.mp hsvc
    cases mem_singleton.mp hother
    rfl
  · exact fun service hdirty => dirty_answer hdirty
  · intro i entry hentry
    rcases entry_answer hentry with ⟨old, hold, heq⟩ | ⟨_, _, -, heq, -⟩
    · exact .inl ⟨old, hold, by rw [heq], by rw [heq]⟩
    · exact .inr (by rw [heq]; rfl)

lemma quiet_handlerStep : ∃ more, s.Quiet s.handlerStep more := by
  rw [handlerStep]
  split
  · exact ⟨[], .of_server rfl id (append_nil _).symm (by simp) rfl⟩
  · exact ⟨_, .of_server rfl id rfl (fun _ hevent => ⟨_, mem_singleton.mp hevent⟩) rfl⟩
  rename_i event _
  refine ⟨_, rfl, id, rfl, ?_, ?_, ?_, ?_, ?_, ?_⟩
  · intro marked hmark
    obtain ⟨service, -, rfl⟩ := mem_map.mp (mem_toList.mp hmark)
    exact .inl trivial
  · intro service hmark
    obtain ⟨service', hsvc, heq⟩ := mem_map.mp (mem_toList.mp hmark)
    cases heq
    rw [dirty_onRendererEvent]
    exact if_pos hsvc
  · intro stamp service hsub
    obtain ⟨_, -, heq⟩ := mem_map.mp (mem_toList.mp hsub)
    cases heq
  · intro stamp service other hsub
    obtain ⟨_, -, heq⟩ := mem_map.mp (mem_toList.mp hsub)
    cases heq
  · intro service hdirty
    rw [dirty_onRendererEvent, hdirty, ite_self]
  · intro i entry hentry
    rw [subscriptions_onRendererEvent] at hentry
    exact .inl ⟨entry, hentry, rfl, rfl⟩

/-- **Every step of another thread.** -/
lemma quiet_step {label : DlnaLabel} (hlabel : ∀ now sent, label ≠ .worker now sent) :
    ∃ more, s.Quiet (s.step label) more := by
  cases label with
  | action action =>
    rw [step, callAction]
    refine ⟨[], ?_⟩
    split
    · split <;> exact .of_server rfl id (append_nil _).symm (by simp) rfl
    · exact .of_server rfl id (append_nil _).symm (by simp) rfl
  | answered succeeded =>
    rw [step, answerAction]
    refine ⟨[], ?_⟩
    split <;> exact .of_server rfl id (append_nil _).symm (by simp) rfl
  | soap =>
    rw [step, soapStep]
    split
    · exact ⟨_, .of_server rfl id rfl (fun _ hevent => ⟨_, mem_singleton.mp hevent⟩) rfl⟩
    all_goals exact ⟨[], .of_server rfl id (append_nil _).symm (by simp) rfl⟩
  | opened =>
    rw [step, openMedia]
    refine ⟨[], ?_⟩
    split <;> exact .of_server rfl id (append_nil _).symm (by simp) rfl
  | rendererEvent owner event =>
    rw [step, callHandler]
    refine ⟨[], ?_⟩
    split
    · split <;> exact .of_server rfl id (append_nil _).symm (by simp) rfl
    · exact .of_server rfl id (append_nil _).symm (by simp) rfl
  | handler => exact s.quiet_handlerStep
  | request method path request now => exact s.quiet_answerRequest method path request now
  | worker now sent => exact absurd rfl (hlabel now sent)
  | stop =>
    exact ⟨[], .of_server rfl (by rintro ⟨⟩) (append_nil _).symm (by simp) rfl⟩

end DlnaSystem

end NXCast
