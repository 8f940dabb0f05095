import NXCast.Dlna.EventSubscriptions

/-!
# The table entry by entry

What a request and a collection do to one entry of the table of subscriptions.  A request changes one
slot (`answer_cases`); a collection drops the expired entries and takes the next number of those of
the dirty services, each of which is then the target of one notification.
-/

namespace NXCast

open EventNotifyTarget List Function Option

namespace EventServer

variable {server : EventServer}

/-! ## Requests -/

/-- The entry of a subscription that is granted. -/
def grantedEntry (server : EventServer) (service : EventService) (callback : EventCallback)
    (timeoutSeconds : ℕ) (now : UInt64) : EventSubscription :=
  { service
    sid := eventSid server.nextSid
    callback
    seq := 0
    expiryMs := expiryOf now timeoutSeconds
    stamp := server.granted }

lemma answer_cases (server : EventServer) (now : UInt64) (request : EventRequest) :
    (server.answer now request).2 = server ∨
      (∃ i entry expiry, server.subscriptions i = some entry ∧
        (server.answer now request).2 =
          server.setSlot i (some { entry with expiryMs := expiry })) ∨
      (∃ i, (server.answer now request).2 = server.setSlot i none) ∨
      ∃ i service callback timeoutSeconds,
        request = .subscribe service callback timeoutSeconds ∧ server.subscriptions i = none ∧
        (server.answer now request).2 =
          ({ server.setSlot i (some (server.grantedEntry service callback timeoutSeconds now)) with
            nextSid := server.nextSid + 1, granted := server.granted + 1 } : EventServer).markDirty
              service := by
  cases request with
  | answered response => exact .inl rfl
  | renew sid timeoutSeconds =>
    simp only [answer, Prod.map_snd, id, renew]
    cases hfind : server.findSubscriptionBySid sid with
    | none => exact .inl rfl
    | some found =>
      exact .inr (.inl ⟨found.1, found.2, _, (findSubscriptionBySid_some hfind).1, rfl⟩)
  | unsubscribe sid =>
    simp only [answer, Prod.map_snd, id, unsubscribe]
    cases server.findSubscriptionBySid sid with
    | none => exact .inl rfl
    | some found => exact .inr (.inr (.inl ⟨found.1, rfl⟩))
  | subscribe service callback timeoutSeconds =>
    simp only [answer, Prod.map_snd, id, subscribe]
    cases hvacant : Slots.vacant server.subscriptions with
    | none => exact .inl rfl
    | some i =>
      exact .inr (.inr (.inr ⟨i, service, callback, timeoutSeconds, rfl,
        Slots.vacant_some hvacant, rfl⟩))

lemma subscriptions_setSlot (i j : Fin eventMaxSubscriptions) (entry : Option EventSubscription) :
    (server.setSlot i entry).subscriptions j = if j = i then entry else server.subscriptions j :=
  update_apply _ _ _ _

lemma dirty_markDirty (service other : EventService) :
    (server.markDirty service).dirty other = if other = service then true else server.dirty other :=
  update_apply _ _ _ _

@[simp] lemma subscriptions_onRendererEvent (event : RendererEvent) :
    (server.onRendererEvent event).subscriptions = server.subscriptions := by
  rw [onRendererEvent]
  cases markedService event.type <;> rfl

@[simp] lemma granted_onRendererEvent (event : RendererEvent) :
    (server.onRendererEvent event).granted = server.granted := by
  rw [onRendererEvent]
  cases markedService event.type <;> rfl

lemma dirty_onRendererEvent (event : RendererEvent) (service : EventService) :
    (server.onRendererEvent event).dirty service =
      if markedService event.type = some service then true else server.dirty service := by
  rw [onRendererEvent]
  cases markedService event.type with
  | none => rfl
  | some marked =>
    refine (dirty_markDirty marked service).trans ?_
    by_cases h : service = marked
    · rw [if_pos h, if_pos (congrArg some h.symm)]
    · rw [if_neg h, if_neg fun heq => h (some.inj heq).symm]

variable {i : Fin eventMaxSubscriptions} {now : UInt64} {entry : EventSubscription}

/-- **An entry behind a request.** -/
lemma entry_answer {request : EventRequest}
    (h : (server.answer now request).2.subscriptions i = some entry) :
    (∃ old, server.subscriptions i = some old ∧ entry = { old with expiryMs := entry.expiryMs }) ∨
      ∃ callback timeoutSeconds,
        request = .subscribe entry.service callback timeoutSeconds ∧
        entry = server.grantedEntry entry.service callback timeoutSeconds now ∧
        (server.answer now request).2.granted = server.granted + 1 ∧
        (server.answer now request).2.dirty entry.service := by
  obtain heq | ⟨j, old, expiry, hold, heq⟩ | ⟨j, heq⟩ |
    ⟨j, service, callback, timeoutSeconds, hreq, -, heq⟩ := server.answer_cases now request
  · rw [heq] at h
    exact .inl ⟨entry, h, rfl⟩
  · rw [heq, subscriptions_setSlot] at h
    split_ifs at h with hij
    · cases h
      exact .inl ⟨old, hij ▸ hold, rfl⟩
    · exact .inl ⟨entry, h, rfl⟩
  · rw [heq, subscriptions_setSlot] at h
    split at h
    · cases h
    · exact .inl ⟨entry, h, rfl⟩
  · rw [heq] at h ⊢
    replace h : (server.setSlot j _).subscriptions i = some entry := h
    rw [subscriptions_setSlot] at h
    split at h
    · cases h
      exact .inr ⟨callback, timeoutSeconds, hreq, rfl, rfl, update_self ..⟩
    · exact .inl ⟨entry, h, rfl⟩

variable {service : EventService}

lemma dirty_answer {request : EventRequest} (h : server.dirty service) :
    (server.answer now request).2.dirty service := by
  obtain heq | ⟨j, old, expiry, -, heq⟩ | ⟨j, heq⟩ | ⟨j, marked, callback, timeoutSeconds, -, -, heq⟩ :=
    server.answer_cases now request <;> rw [heq]
  · exact h
  · exact h
  · exact h
  rw [dirty_markDirty]
  split
  · rfl
  · exact h

lemma granted_answer (now : UInt64) (request : EventRequest) :
    (server.answer now request).2.granted = server.granted ∨
      (server.answer now request).2.granted = server.granted + 1 ∧
        ∃ service callback timeoutSeconds, request = .subscribe service callback timeoutSeconds ∧
          (server.answer now request).2.dirty service := by
  obtain heq | ⟨j, old, expiry, -, heq⟩ | ⟨j, heq⟩ |
    ⟨j, service, callback, timeoutSeconds, hreq, -, heq⟩ := server.answer_cases now request <;>
    rw [heq]
  · exact .inl rfl
  · exact .inl rfl
  · exact .inl rfl
  · exact .inr ⟨rfl, service, callback, timeoutSeconds, hreq, update_self ..⟩

lemma eventRequest_service {method path request : List UInt8} {callback : EventCallback}
    {timeoutSeconds : ℕ}
    (h : eventRequest method path request = .subscribe service callback timeoutSeconds) :
    eventServiceFromPath path = some service := by
  rw [eventRequest] at h
  split at h
  · cases h
  rename_i service' hsvc
  rw [hsvc]
  split at h
  · split at h <;> cases h
    rfl
  · split at h
    · split at h <;> cases h
    · cases h

/-! ## Collections -/

lemma collectDue_of_dirty (h : server.dirty service) (now : UInt64) :
    server.collectDue service now = ((server.pruneExpired now).targets service,
        { (server.pruneExpired now).takeNumbers service with
          dirty := update server.dirty service false }) := by
  rw [collectDue, if_pos h]
  rfl

lemma collectDue_of_clean (h : server.dirty service = false) (now : UInt64) :
    server.collectDue service now = ([], server) := by
  rw [collectDue, if_neg (by rw [h]; exact Bool.false_ne_true)]

@[simp] lemma dirty_collectDue_self (service : EventService) (now : UInt64) :
    (server.collectDue service now).2.dirty service = false := by
  cases h : server.dirty service with
  | false =>
    rw [collectDue_of_clean h]
    exact h
  | true =>
    rw [collectDue_of_dirty h]
    exact update_self ..

lemma granted_collectDue (service : EventService) (now : UInt64) :
    (server.collectDue service now).2.granted = server.granted := by
  rw [collectDue]
  split <;> rfl

lemma entry_collectDue (h : (server.collectDue service now).2.subscriptions i = some entry) :
    ∃ old, server.subscriptions i = some old ∧
      ((old.service = service ∧ server.dirty service ∧
          entry = { old with seq := old.seq + 1 } ∧
          targetOf old ∈ (server.collectDue service now).1) ∨
        (¬(old.service = service ∧ server.dirty service) ∧ entry = old)) := by
  cases hdirty : server.dirty service with
  | false =>
    rw [collectDue_of_clean hdirty] at h
    exact ⟨entry, h, .inr ⟨fun hsvc => (nomatch hsvc.2), rfl⟩⟩
  | true =>
    rw [collectDue_of_dirty hdirty] at h ⊢
    obtain ⟨old, hold, hentry⟩ := map_eq_some_iff.mp h
    have hpre := (filter_eq_some_iff.mp hold).1
    refine ⟨old, hpre, ?_⟩
    by_cases hsvc : old.service = service
    · rw [if_pos hsvc] at hentry
      refine .inl ⟨hsvc, rfl, hentry.symm, ?_⟩
      refine mem_filterMap.mpr ⟨i, mem_finRange i, ?_⟩
      rw [hold, filter_some, if_pos (decide_eq_true hsvc)]
      rfl
    · rw [if_neg hsvc] at hentry
      exact .inr ⟨fun hboth => hsvc hboth.1, hentry.symm⟩

/-- **An entry behind a collection.** -/
lemma entry_collect {now : EventService → UInt64}
    (h : (server.collect now).2.subscriptions i = some entry) :
    ∃ old, server.subscriptions i = some old ∧
      ((server.dirty old.service ∧ entry = { old with seq := old.seq + 1 } ∧
          targetOf old ∈ (server.collect now).1) ∨
        (server.dirty old.service = false ∧ entry = old)) := by
  simp only [collect] at h ⊢
  obtain ⟨third, hthird, hcm⟩ := entry_collectDue h
  obtain ⟨second, hsnd, hrc⟩ := entry_collectDue hthird
  obtain ⟨first, hfirst, havt⟩ := entry_collectDue hsnd
  refine ⟨first, hfirst, ?_⟩
  rw [dirty_collectDue (by simp), dirty_collectDue (by simp)] at hcm
  rw [dirty_collectDue (by simp)] at hrc
  simp only [mem_append]
  rcases havt with ⟨havt, hdirty, rfl, htgt⟩ | ⟨havt, rfl⟩
  · -- the entry is one of `AVTransport`, and the other two services leave it as it is
    rcases hrc with ⟨hrc, -⟩ | ⟨-, rfl⟩
    · cases havt.symm.trans hrc
    rcases hcm with ⟨hcm, -⟩ | ⟨-, rfl⟩
    · cases havt.symm.trans hcm
    exact .inl ⟨havt ▸ hdirty, rfl, .inl (.inl htgt)⟩
  rcases hrc with ⟨hrc, hdirty, rfl, htgt⟩ | ⟨hrc, rfl⟩
  · rcases hcm with ⟨hcm, -⟩ | ⟨-, rfl⟩
    · cases hrc.symm.trans hcm
    exact .inl ⟨hrc ▸ hdirty, rfl, .inl (.inr htgt)⟩
  rcases hcm with ⟨hcm, hdirty, rfl, htgt⟩ | ⟨hcm, rfl⟩
  · exact .inl ⟨hcm ▸ hdirty, rfl, .inr htgt⟩
  refine .inr ⟨Bool.eq_false_iff.mpr fun hdirty => ?_, rfl⟩
  cases hsvc : entry.service <;> rw [hsvc] at hdirty
  · exact havt ⟨hsvc, hdirty⟩
  · exact hrc ⟨hsvc, hdirty⟩
  · exact hcm ⟨hsvc, hdirty⟩

lemma dirty_collect (now : EventService → UInt64) (service : EventService) :
    (server.collect now).2.dirty service = false := by
  simp only [collect]
  cases service with
  | avTransport =>
    rw [dirty_collectDue (by simp), dirty_collectDue (by simp), dirty_collectDue_self]
  | renderingControl => rw [dirty_collectDue (by simp), dirty_collectDue_self]
  | connectionManager => exact dirty_collectDue_self _ _

lemma granted_collect (now : EventService → UInt64) :
    (server.collect now).2.granted = server.granted := by
  simp only [collect, granted_collectDue]

/-! ## Stamps -/

/-- The entries have stamps of their own. -/
structure Stamped (server : EventServer) : Prop where
  distinct : Slots.Distinct EventSubscription.stamp server.subscriptions
  lt : ∀ i entry, server.subscriptions i = some entry → entry.stamp < server.granted

lemma Stamped.initial : Stamped .initial := ⟨Slots.Distinct.none, nofun⟩

variable (h : server.Stamped)

include h

lemma Stamped.of_keys {other : EventServer} (hgrant : server.granted ≤ other.granted)
    (hkeys : ∀ i entry, other.subscriptions i = some entry → ∃ old, server.subscriptions i = some old ∧ old.stamp = entry.stamp) :
    other.Stamped := by
  refine ⟨h.distinct.of_keys hkeys, fun i entry hentry => ?_⟩
  obtain ⟨old, hold, hstamp⟩ := hkeys i entry hentry
  rw [← hstamp]
  exact (h.lt i old hold).trans_le hgrant

lemma Stamped.collectDue (service : EventService) (now : UInt64) :
    (server.collectDue service now).2.Stamped := by
  refine h.of_keys (granted_collectDue service now).ge fun i entry hentry => ?_
  obtain ⟨old, hold, ⟨-, -, rfl, -⟩ | ⟨-, rfl⟩⟩ := entry_collectDue hentry
  · exact ⟨old, hold, rfl⟩
  · exact ⟨entry, hold, rfl⟩

lemma Stamped.collect (now : EventService → UInt64) : (server.collect now).2.Stamped :=
  ((h.collectDue .avTransport _).collectDue .renderingControl _).collectDue .connectionManager _

lemma Stamped.answer (now : UInt64) (request : EventRequest) :
    (server.answer now request).2.Stamped := by
  have hle : server.granted ≤ (server.answer now request).2.granted := by
    rcases server.granted_answer now request with hgrant | ⟨hgrant, -⟩
    · exact hgrant.ge
    · exact hgrant ▸ Nat.le_succ _
  constructor
  · obtain heq | ⟨i, old, expiry, hold, heq⟩ | ⟨i, heq⟩ | ⟨i, _, _, _, -, -, heq⟩ :=
      server.answer_cases now request <;> rw [heq]
    · exact h.distinct
    · exact h.distinct.replace hold rfl
    · exact h.distinct.clear i
    · exact h.distinct.update fun j other _ hother => (h.lt j other hother).ne
  · intro i entry hentry
    rcases entry_answer hentry with ⟨old, hold, heq⟩ | ⟨_, _, -, heq, hgrant, -⟩
    · rw [heq]
      exact (h.lt i old hold).trans_le hle
    · rw [hgrant, heq]
      exact Nat.lt_succ_self _

lemma Stamped.nodup_targets (service : EventService) :
    ((server.targets service).map stamp).Nodup := by
  rw [targets, map_filterMap]
  refine List.Pairwise.filterMap _ ?_ (nodup_finRange eventMaxSubscriptions)
  rintro i j hij x hx y hy rfl
  simp only [map_eq_some_iff, filter_eq_some_iff] at hx hy
  obtain ⟨_, ⟨entry, ⟨hentry, -⟩, rfl⟩, rfl⟩ := hx
  obtain ⟨_, ⟨other, ⟨hother, -⟩, rfl⟩, hstamp⟩ := hy
  exact hij (h.distinct hentry hother hstamp.symm)

lemma Stamped.nodup_collectDue (service : EventService) (now : UInt64) :
    ((server.collectDue service now).1.map stamp).Nodup := by
  cases hdirty : server.dirty service with
  | false =>
    rw [collectDue_of_clean hdirty]
    exact nodup_nil
  | true =>
    rw [collectDue_of_dirty hdirty]
    have hpruned : (server.pruneExpired now).Stamped := h.of_keys le_rfl fun i entry hentry =>
      ⟨entry, (filter_eq_some_iff.mp hentry).1, rfl⟩
    exact hpruned.nodup_targets service

lemma Stamped.disjoint {other : EventService} {later : UInt64}
    {left right : List EventNotifyTarget} (hother : other ≠ service)
    (hleft : ∀ target ∈ left, server.Collected service now target)
    (hright : ∀ target ∈ right, server.Collected other later target) :
    List.Disjoint (left.map stamp) (right.map stamp) := by
  intro stamp hstamp hstamp'
  obtain ⟨target, htgt, rfl⟩ := mem_map.mp hstamp
  obtain ⟨target', htgt', heq⟩ := mem_map.mp hstamp'
  obtain ⟨-, i, entry, hentry, rfl, hsvc, -⟩ := hleft target htgt
  obtain ⟨-, j, entry', hentry', rfl, hsvc', -⟩ := hright target' htgt'
  have hij : j = i := h.distinct hentry' hentry heq
  rw [hij, hentry] at hentry'
  cases hentry'
  exact hother (hsvc'.symm.trans hsvc)

lemma Stamped.nodup_collect (now : EventService → UInt64) :
    ((server.collect now).1.map stamp).Nodup := by
  simp only [EventServer.collect, map_append]
  refine List.Nodup.append (List.Nodup.append (h.nodup_collectDue _ _)
    ((h.collectDue _ _).nodup_collectDue _ _) ?_)
    (((h.collectDue _ _).collectDue _ _).nodup_collectDue _ _) ?_
  · exact h.disjoint (by simp) (fun _ => mem_collectDue)
      fun _ htgt => (mem_collectDue htgt).of_collectDue (by simp)
  rw [← map_append]
  intro stamp hstamp
  rw [map_append, mem_append] at hstamp
  rcases hstamp with hstamp | hstamp
  · exact h.disjoint (by simp) (fun _ => mem_collectDue) (fun _ htgt =>
      ((mem_collectDue htgt).of_collectDue (by simp)).of_collectDue (by simp))
      hstamp
  · exact (h.collectDue _ _).disjoint (by simp) (fun _ => mem_collectDue)
      (fun _ htgt => (mem_collectDue htgt).of_collectDue (by simp)) hstamp

end EventServer

end NXCast
