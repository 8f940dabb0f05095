import NXCast.Dlna.EventServer

/-!
# The subscriptions over a history

A history is the requests with their times, the events of the renderer and the collections of the
event thread.  Expired subscriptions leave the table only when the event thread collects, so a
request between two collections meets them: it then is answered as if they were alive.  The results
say exactly when this does not happen.
-/

namespace NXCast

open Option Slots

/-! ## Requests -/

/-- What a request asks of the table, or the response that it has without it. -/
inductive EventRequest where
  | subscribe (service : EventService) (callback : EventCallback) (timeoutSeconds : ℕ)
  | renew (sid : List UInt8) (timeoutSeconds : ℕ)
  | unsubscribe (sid : List UInt8)
  | answered (response : Option EventResponse)
deriving DecidableEq

/-- A request, read. -/
def eventRequest (method path request : List UInt8) : EventRequest :=
  match eventServiceFromPath path with
  | none => .answered none
  | some service =>
    if sameText method (asciiBytes "SUBSCRIBE") then
      match eventReadSubscribe request with
      | .refused response => .answered (some response)
      | .renew sid timeoutSeconds => .renew sid timeoutSeconds
      | .subscribe callback timeoutSeconds => .subscribe service callback timeoutSeconds
    else if sameText method (asciiBytes "UNSUBSCRIBE") then
      match eventGetHeaderValue request "SID" with
      | none => .answered (some (eventStatus 400 "Bad Request"))
      | some sid => .unsubscribe sid
    else .answered (some (eventStatus 405 "Method Not Allowed"))

/-! ## Histories -/

/-- What happens to the table. -/
inductive EventServerLabel where
  | http (method path request : List UInt8) (now : UInt64)
  | rendererEvent (event : RendererEvent)
  | collect (now : EventService → UInt64)

namespace EventServer

variable (server : EventServer)

/-- One request is answered. -/
def answer (now : UInt64) : EventRequest → Option EventResponse × EventServer
  | .subscribe service callback timeoutSeconds =>
    (server.subscribe service callback timeoutSeconds now).map some id
  | .renew sid timeoutSeconds => (server.renew sid timeoutSeconds now).map some id
  | .unsubscribe sid => (server.unsubscribe sid).map some id
  | .answered response => (response, server)

/-- One step of a history. -/
def step : EventServerLabel → EventServer
  | .http method path request now => (server.tryHandleHttp method path request now).2
  | .rendererEvent event => server.onRendererEvent event
  | .collect now => (server.collect now).2

/-- The SIDs are compared without their case. -/
def sidKey (entry : EventSubscription) : List UInt8 := entry.sid.map tolower

/-- No two subscriptions have one SID. -/
def UniqueSids : Prop := Slots.Distinct sidKey server.subscriptions

/-- A subscription has not expired. -/
def Alive (now : UInt64) (entry : EventSubscription) : Prop := now < entry.expiryMs

/-- A subscription with a SID that has not expired. -/
def HasAlive (now : UInt64) (sid : List UInt8) : Prop :=
  ∃ i entry, server.subscriptions i = some entry ∧ sameText entry.sid sid ∧ Alive now entry

/-- A step does what is right: a subscription is refused for want of a slot only when all hold
subscriptions that have not expired, a renewal and an unsubscription succeed only for one of these,
and the event thread collects only these, of the services that are dirty. -/
def Right : EventServerLabel → Prop
  | .http method path request now =>
    ∀ response, (server.tryHandleHttp method path request now).1 = some response →
      match eventRequest method path request with
      | .subscribe _ _ _ =>
        response.status = 503 → ∀ i, ∃ entry, server.subscriptions i = some entry ∧ Alive now entry
      | .renew sid _ | .unsubscribe sid => response.status = 200 → server.HasAlive now sid
      | .answered _ => True
  | .rendererEvent _ => True
  | .collect now =>
    ∀ target ∈ (server.collect now).1, server.dirty target.service = true ∧
      ∃ i entry, server.subscriptions i = some entry ∧ target = targetOf entry ∧
        Alive (now entry.service) entry

/-- A request meets no expired subscription, and a new SID is not that of a subscription. -/
def Fresh : EventServerLabel → Prop
  | .http method path request now =>
    match eventRequest method path request with
    | .subscribe _ _ _ =>
      match Slots.vacant server.subscriptions with
      | none => ∀ i entry, server.subscriptions i = some entry → Alive now entry
      | some _ => ∀ i entry, server.subscriptions i = some entry →
        sameText entry.sid (eventSid server.nextSid) = false
    | .renew sid _ | .unsubscribe sid =>
      ∀ i entry, server.subscriptions i = some entry → sameText entry.sid sid → Alive now entry
    | .answered _ => True
  | _ => True

end EventServer

/-! ## Requests and their answers -/

namespace EventServer

variable {server : EventServer}

lemma tryHandleHttp_eq (method path request : List UInt8) (now : UInt64) :
    server.tryHandleHttp method path request now =
      server.answer now (eventRequest method path request) := by
  rw [tryHandleHttp, eventRequest]
  cases eventServiceFromPath path with
  | none => rfl
  | some service =>
    simp only
    by_cases hsubscribe : sameText method (asciiBytes "SUBSCRIBE") = true
    · rw [if_pos hsubscribe, if_pos hsubscribe, handleSubscribe]
      cases eventReadSubscribe request <;> rfl
    rw [if_neg hsubscribe, if_neg hsubscribe]
    by_cases hunsubscribe : sameText method (asciiBytes "UNSUBSCRIBE") = true
    · rw [if_pos hunsubscribe, if_pos hunsubscribe, handleUnsubscribe]
      cases eventGetHeaderValue request "SID" <;> rfl
    · rw [if_neg hunsubscribe, if_neg hunsubscribe]
      rfl

variable {entry : EventSubscription}

lemma sidKey_eq {sid : List UInt8} :
    sameText entry.sid sid ↔ sidKey entry = sid.map tolower := by
  rw [sameText, decide_eq_true_eq]
  rfl

lemma eventGetHeaderValue_ne_nil {request value : List UInt8} {header : String}
    (h : eventGetHeaderValue request header = some value) : value ≠ [] := by
  rw [eventGetHeaderValue, bind_eq_some_iff] at h
  obtain ⟨line, -, hvalue⟩ := h
  simp only at hvalue
  split at hvalue
  · cases hvalue
  rename_i hne
  cases hvalue
  exact hne

variable {i : Fin eventMaxSubscriptions}

lemma findSubscriptionBySid_some {sid : List UInt8}
    (h : server.findSubscriptionBySid sid = some (i, entry)) :
    server.subscriptions i = some entry ∧ sameText entry.sid sid := by
  rw [findSubscriptionBySid] at h
  split at h
  · cases h
  · exact search_some h

lemma findSubscriptionBySid_none {sid : List UInt8} (hsid : sid ≠ [])
    (h : server.findSubscriptionBySid sid = none)
    (hentry : server.subscriptions i = some entry) :
    sameText entry.sid sid = false := by
  rw [findSubscriptionBySid, if_neg hsid] at h
  exact search_none h hentry

lemma eventReadSubscribe_renew {request sid : List UInt8} {timeoutSeconds : ℕ}
    (h : eventReadSubscribe request = .renew sid timeoutSeconds) : sid ≠ [] := by
  rw [eventReadSubscribe] at h
  split at h
  · cases h
  split at h
  · rename_i hhead
    cases h
    exact eventGetHeaderValue_ne_nil hhead
  split at h
  · split at h
    · cases h
    · split at h <;> cases h
  · cases h

lemma eventRequest_sid_ne_nil {method path request sid : List UInt8}
    (h : (∃ timeout, eventRequest method path request = .renew sid timeout) ∨
      eventRequest method path request = .unsubscribe sid) : sid ≠ [] := by
  rw [eventRequest] at h
  cases hsvc : eventServiceFromPath path with
  | none =>
    rw [hsvc] at h
    rcases h with ⟨timeout, h⟩ | h <;> cases h
  | some service =>
    rw [hsvc] at h
    simp only at h
    by_cases hsubscribe : sameText method (asciiBytes "SUBSCRIBE") = true
    · rw [if_pos hsubscribe] at h
      cases hread : eventReadSubscribe request with
      | refused | subscribe =>
        rw [hread] at h
        rcases h with ⟨timeout, h⟩ | h <;> cases h
      | renew sid' timeout' =>
        rw [hread] at h
        rcases h with ⟨timeout, h⟩ | h
        · cases h
          exact eventReadSubscribe_renew hread
        · cases h
    · rw [if_neg hsubscribe] at h
      split at h
      · cases hhead : eventGetHeaderValue request "SID" with
        | none =>
          rw [hhead] at h
          rcases h with ⟨timeout, h⟩ | h <;> cases h
        | some sid' =>
          rw [hhead] at h
          rcases h with ⟨timeout, h⟩ | h
          · cases h
          · cases h
            exact eventGetHeaderValue_ne_nil hhead
      · rcases h with ⟨timeout, h⟩ | h <;> cases h

/-! ## Collections -/

variable {service : EventService}

lemma dirty_collectDue {other : EventService} (hother : other ≠ service) (now : UInt64) :
    (server.collectDue service now).2.dirty other = server.dirty other := by
  rw [collectDue]
  split
  · exact Function.update_of_ne hother _ _
  · rfl

variable {now : UInt64}

/-- What stands in the table after a collection stood there before, with another number if it is of
the service. -/
lemma subscriptions_collectDue
    (h : (server.collectDue service now).2.subscriptions i = some entry) :
    ∃ old, server.subscriptions i = some old ∧ sidKey old = sidKey entry ∧
      (entry.service ≠ service → old = entry) := by
  rw [collectDue] at h
  split at h
  · simp only [collectTargets, takeNumbers, pruneExpired] at h
    obtain ⟨old, hold, hentry⟩ := map_eq_some_iff.mp h
    obtain ⟨hold, -⟩ := filter_eq_some_iff.mp hold
    refine ⟨old, hold, ?_, ?_⟩
    · rw [← hentry]
      split <;> rfl
    intro hsvc
    split_ifs at hentry with heq
    · rw [← hentry] at hsvc
      exact absurd heq hsvc
    · exact hentry
  · exact ⟨entry, h, rfl, fun _ => rfl⟩

/-- A target of a service is that of a subscription that is alive. -/
def Collected (server : EventServer) (service : EventService) (now : UInt64)
    (target : EventNotifyTarget) : Prop :=
  server.dirty service = true ∧ ∃ i entry, server.subscriptions i = some entry ∧
    target = targetOf entry ∧ entry.service = service ∧ Alive now entry

variable {target : EventNotifyTarget}

/-- The targets of a collection are the subscriptions of the service that are alive. -/
lemma mem_collectDue
    (h : target ∈ (server.collectDue service now).1) : server.Collected service now target := by
  rw [collectDue] at h
  split_ifs at h with hdirty
  · obtain ⟨i, -, htgt⟩ := List.mem_filterMap.mp h
    obtain ⟨entry, hentry, rfl⟩ := map_eq_some_iff.mp htgt
    obtain ⟨hentry, hsvc⟩ := filter_eq_some_iff.mp hentry
    obtain ⟨hentry, halive⟩ := filter_eq_some_iff.mp hentry
    have halive : Alive now entry := of_decide_eq_true (p := now < entry.expiryMs) halive
    exact ⟨hdirty, i, entry, hentry, rfl, of_decide_eq_true hsvc, halive⟩
  · cases h

lemma Collected.of_collectDue {other : EventService} {later : UInt64}
    (hother : other ≠ service)
    (h : (server.collectDue service now).2.Collected other later target) :
    server.Collected other later target := by
  obtain ⟨hdirty, i, entry, hentry, rfl, hsvc, halive⟩ := h
  obtain ⟨old, hold, -, hsame⟩ := subscriptions_collectDue hentry
  rw [hsame (hsvc ▸ hother)] at hold
  exact ⟨dirty_collectDue hother now ▸ hdirty, i, entry, hold, rfl, hsvc, halive⟩

/-- The event thread collects the subscriptions of the dirty services that are alive. -/
lemma right_collect (now : EventService → UInt64) : server.Right (.collect now) := by
  intro target htgt
  have hcoll : ∃ service, server.Collected service (now service) target := by
    simp only [collect, List.mem_append] at htgt
    rcases htgt with (htgt | htgt) | htgt
    · exact ⟨_, mem_collectDue htgt⟩
    · exact ⟨_, (mem_collectDue htgt).of_collectDue (by exact nofun)⟩
    · exact ⟨_, ((mem_collectDue htgt).of_collectDue (by exact nofun)).of_collectDue
        (by exact nofun)⟩
  obtain ⟨service, hdirty, i, entry, hentry, rfl, rfl, halive⟩ := hcoll
  exact ⟨hdirty, i, entry, hentry, rfl, halive⟩

/-! ## SIDs -/

section

variable (h : server.UniqueSids)

include h

lemma UniqueSids.collectDue (service : EventService) (now : UInt64) :
    (server.collectDue service now).2.UniqueSids :=
  Slots.Distinct.of_keys h fun _ _ hentry =>
    let ⟨old, hold, hkey, _⟩ := subscriptions_collectDue hentry
    ⟨old, hold, hkey⟩

lemma UniqueSids.collect (now : EventService → UInt64) : (server.collect now).2.UniqueSids :=
  ((h.collectDue .avTransport _).collectDue .renderingControl _).collectDue .connectionManager _

lemma UniqueSids.renew (sid : List UInt8) (timeoutSeconds : ℕ)
    (now : UInt64) : (server.renew sid timeoutSeconds now).2.UniqueSids := by
  rw [EventServer.renew]
  split
  · exact h
  · rename_i hfind
    exact Slots.Distinct.replace h (findSubscriptionBySid_some hfind).1 rfl

lemma UniqueSids.unsubscribe (sid : List UInt8) : (server.unsubscribe sid).2.UniqueSids := by
  rw [EventServer.unsubscribe]
  split
  · exact h
  · exact Slots.Distinct.clear h _

/-- A new subscription has a SID of its own just when no other has the one of the counter. -/
lemma uniqueSids_subscribe
    (hvacant : vacant server.subscriptions = some i) (service : EventService)
    (callback : EventCallback) (timeoutSeconds : ℕ) (now : UInt64) :
    (server.subscribe service callback timeoutSeconds now).2.UniqueSids ↔
      ∀ j entry, server.subscriptions j = some entry →
        sameText entry.sid (eventSid server.nextSid) = false := by
  have hnone := vacant_some hvacant
  simp only [subscribe, hvacant, UniqueSids, markDirty, setSlot]
  constructor
  · intro hunique j entry hentry
    rw [Bool.eq_false_iff, ne_eq, sidKey_eq]
    intro hkey
    have hne : j ≠ i := by
      rintro rfl
      rw [hnone] at hentry
      cases hentry
    refine hne (hunique ?_ (Function.update_self i _ _) hkey)
    rw [Function.update_of_ne hne]
    exact hentry
  · intro hfresh
    refine h.update fun j entry _ hentry hkey => ?_
    have hsame := hfresh j entry hentry
    rw [Bool.eq_false_iff, ne_eq, sidKey_eq] at hsame
    exact hsame hkey

end

/-! ## Right steps -/

lemma right_http {method path request : List UInt8} :
    server.Right (.http method path request now) ↔
      ∀ response, (server.answer now (eventRequest method path request)).1 = some response →
        match eventRequest method path request with
        | .subscribe _ _ _ =>
          response.status = 503 →
            ∀ i, ∃ entry, server.subscriptions i = some entry ∧ Alive now entry
        | .renew sid _ | .unsubscribe sid => response.status = 200 → server.HasAlive now sid
        | .answered _ => True := by
  rw [Right, tryHandleHttp_eq]

/-- A request with a SID succeeds only for a subscription that is alive, just when no other
has that SID. -/
lemma hasAlive_iff (h : server.UniqueSids) {sid : List UInt8} (hsid : sid ≠ [])
    {status : ℕ} (hstat : status = 200 ↔ (server.findSubscriptionBySid sid).isSome) :
    (status = 200 → server.HasAlive now sid) ↔
      ∀ i entry, server.subscriptions i = some entry → sameText entry.sid sid →
        Alive now entry := by
  rw [hstat]
  cases hfind : server.findSubscriptionBySid sid with
  | none =>
    refine ⟨fun _ i entry hentry hsame => ?_, fun _ hnone => by cases hnone⟩
    rw [findSubscriptionBySid_none hsid hfind hentry] at hsame
    cases hsame
  | some found =>
    obtain ⟨i, entry⟩ := found
    obtain ⟨hentry, hsame⟩ := findSubscriptionBySid_some hfind
    constructor
    · intro halive j other hother hsame'
      obtain ⟨k, third, hthird, hsame'', halive⟩ := halive rfl
      have hjk : j = k := h hother hthird ((sidKey_eq.mp hsame').trans (sidKey_eq.mp hsame'').symm)
      rw [hjk, hthird] at hother
      cases hother
      exact halive
    · exact fun halive _ => ⟨i, entry, hentry, hsame, halive i entry hentry hsame⟩

lemma renew_status (sid : List UInt8) (timeoutSeconds : ℕ) (now : UInt64) :
    (server.renew sid timeoutSeconds now).1.status = 200 ↔
      (server.findSubscriptionBySid sid).isSome := by
  rw [renew]
  cases server.findSubscriptionBySid sid with
  | none => exact iff_of_false nofun nofun
  | some found => exact iff_of_true rfl rfl

lemma unsubscribe_status (sid : List UInt8) :
    (server.unsubscribe sid).1.status = 200 ↔ (server.findSubscriptionBySid sid).isSome := by
  rw [unsubscribe]
  cases server.findSubscriptionBySid sid with
  | none => exact iff_of_false nofun nofun
  | some found => exact iff_of_true rfl rfl

/-- A step meets no expired subscription and gives no SID twice just when it does what is right and
leaves the SIDs unique. -/
lemma fresh_iff (h : server.UniqueSids) (label : EventServerLabel) :
    server.Fresh label ↔ server.Right label ∧ (server.step label).UniqueSids := by
  cases label with
  | rendererEvent event =>
    refine iff_of_true trivial ⟨trivial, ?_⟩
    rw [step, onRendererEvent]
    cases markedService event.type <;> exact h
  | collect now => exact iff_of_true trivial ⟨right_collect now, h.collect now⟩
  | http method path request now =>
    have hsid (sid : List UInt8) := @eventRequest_sid_ne_nil method path request sid
    rw [Fresh, right_http, step, tryHandleHttp_eq]
    cases hreq : eventRequest method path request with
    | answered response => exact iff_of_true trivial ⟨fun _ _ => trivial, h⟩
    | renew sid timeoutSeconds =>
      have hne := hsid sid (.inl ⟨timeoutSeconds, hreq⟩)
      simp only [answer, Prod.map_fst, Prod.map_snd, id, some.injEq, forall_eq']
      rw [hasAlive_iff h hne (renew_status sid timeoutSeconds now)]
      exact (and_iff_left (h.renew sid timeoutSeconds now)).symm
    | unsubscribe sid =>
      have hne := hsid sid (.inr hreq)
      simp only [answer, Prod.map_fst, Prod.map_snd, id, some.injEq, forall_eq']
      rw [hasAlive_iff h hne (unsubscribe_status sid)]
      exact (and_iff_left (h.unsubscribe sid)).symm
    | subscribe service callback timeoutSeconds =>
      simp only [answer, Prod.map_fst, Prod.map_snd, id, some.injEq, forall_eq']
      cases hvacant : vacant server.subscriptions with
      | none =>
        simp only [subscribe, hvacant, eventStatus, eventBuildResponse, forall_const]
        constructor
        · intro halive
          refine ⟨fun i => ?_, h⟩
          obtain ⟨entry, hentry⟩ := vacant_none hvacant i
          exact ⟨entry, hentry, halive i entry hentry⟩
        · rintro ⟨halive, -⟩ i entry hentry
          obtain ⟨other, hother, halive⟩ := halive i
          rw [hentry] at hother
          cases hother
          exact halive
      | some i =>
        rw [uniqueSids_subscribe h hvacant]
        refine (and_iff_right ?_).symm
        rw [subscribe, hvacant]
        exact fun hstat => absurd hstat nofun

/-- In the histories whose steps meet no expired subscription and give no SID twice, the SIDs are
unique, and no weaker condition on the next step makes it right. -/
theorem subscriptions_right (hrun : Runs.Reachable step initial Fresh server) :
    server.UniqueSids ∧
      ∀ label, server.Fresh label ↔ server.Right label ∧ (server.step label).UniqueSids := by
  have hunique : server.UniqueSids := by
    refine hrun.invariant (P := UniqueSids) (show UniqueSids initial from Slots.Distinct.none) ?_
    exact fun s label h hfresh => ((fresh_iff h label).mp hfresh).2
  exact ⟨hunique, fresh_iff hunique⟩

/-- A `SUBSCRIBE` of the volume for a minute. -/
def volumeSubscribe : List UInt8 :=
  asciiBytes "SUBSCRIBE /upnp/event/RenderingControl HTTP/1.1\r\nCALLBACK: <http://10.0.0.2:80/>\r\n"
    ++ asciiBytes "NT: upnp:event\r\nTIMEOUT: Second-60\r\n\r\n"

/-- The step of a `SUBSCRIBE` of the volume. -/
def volumeStep (now : UInt64) : EventServerLabel :=
  .http (asciiBytes "SUBSCRIBE") (asciiBytes "/upnp/event/RenderingControl") volumeSubscribe now

/-- What it asks for. -/
def volumeCallback : EventCallback :=
  ⟨asciiBytes "http://10.0.0.2:80/", asciiBytes "10.0.0.2", 80, asciiBytes "/"⟩

lemma eventRequest_volume :
    eventRequest (asciiBytes "SUBSCRIBE") (asciiBytes "/upnp/event/RenderingControl")
      volumeSubscribe = .subscribe .renderingControl volumeCallback 60 := by
  decide +kernel

theorem subscriptions_right_collected :
    (Runs.run step initial [volumeStep 0, .collect fun _ => 61000]).UniqueSids := by
  have hfresh : initial.Fresh (volumeStep 0) := by
    exact nofun
  have halong : Runs.Along step Fresh initial [volumeStep 0, .collect fun _ => 61000] :=
    ⟨hfresh, trivial, trivial⟩
  exact (subscriptions_right (Runs.Reachable.along .start halong)).1

/-- Eight control points subscribe, and get their first notification. -/
def eightSubscriptions : List EventServerLabel :=
  List.replicate 8 (volumeStep 0) ++ [.collect fun _ => 0]

/-- Eight control points have subscribed and gone, and a ninth is refused. -/
theorem subscriptions_right_full :
    ¬∀ s, Runs.Reachable step initial (fun _ _ => True) s → ∀ label, s.Right label := by
  intro h
  have hright := right_http.mp (h _ (Runs.Reachable.run .start eightSubscriptions)
    (volumeStep 61000))
  obtain ⟨entry, hentry, halive⟩ := hright (eventStatus 503 "Service Unavailable")
    (by decide +kernel) rfl ⟨0, by decide⟩
  have hexpiry : ((Runs.run step initial eightSubscriptions).subscriptions ⟨0, by decide⟩).map
      EventSubscription.expiryMs = some 60000 := by
    decide +kernel
  rw [hentry, Option.map_some, Option.some.injEq] at hexpiry
  rw [Alive, hexpiry] at halive
  exact absurd halive (by decide)

end EventServer

end NXCast
