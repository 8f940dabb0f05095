import NXCast.Dlna.DlnaSystem
import NXCast.Dlna.EventEntries

/-!
# Notifications that can be sent

`event_send_notify` up to the sending.  A callback is taken whatever its host and its length are, while a
notification needs an IPv4 literal and a header of less than 1024 bytes: `granted_deliverable_iff` says of
every subscription that is answered with 200 when its notifications can be made.
-/

namespace NXCast

open Decimal

/-- `inet_pton` with `AF_INET`: four numbers of up to three digits, none above 255. -/
def inetPton (host : List UInt8) : Option (List ℕ) :=
  let parts := host.splitOn 0x2e
  if parts.length = 4 ∧ ∀ part ∈ parts,
      part ≠ [] ∧ part.length ≤ 3 ∧ part.all isdigit = true ∧ Decimal.value part ≤ 255 then
    some (parts.map Decimal.value)
  else none

/-- What stands in front of a property set of some length. -/
def eventNotifyHeader (serverInfo : List UInt8) (target : EventNotifyTarget) (length : ℕ) : List UInt8 :=
  asciiBytes "NOTIFY " ++ target.callback.path ++ asciiBytes " HTTP/1.1\r\nHOST: " ++
    target.callback.host ++ asciiBytes ":" ++ Decimal.digits target.callback.port.toNat ++
    asciiBytes "\r\nCONTENT-TYPE: text/xml; charset=\"utf-8\"\r\nCONTENT-LENGTH: " ++
    Decimal.digits length ++ asciiBytes "\r\nSERVER: " ++ serverInfo ++
    asciiBytes "\r\nNT: upnp:event\r\nNTS: upnp:propchange\r\nSID: " ++ target.sid ++
    asciiBytes "\r\nSEQ: " ++ Decimal.digits target.seq.toNat ++
    asciiBytes "\r\nCONNECTION: close\r\n\r\n"

/-- The request of `event_send_notify`, where it is made in full; `serverInfo` is the text of
`dlna_server_info_get`. -/
def eventNotifyRequest (serverInfo : List UInt8) (target : EventNotifyTarget) (body : List UInt8) :
    Option (List UInt8) :=
  match inetPton target.callback.host with
  | none => none
  | some _ =>
    let requestCap := body.length + 1024
    let request := eventNotifyHeader serverInfo target body.length ++ body
    if request.length ≥ requestCap then none else some request

/-- The host is an IPv4 literal, and 1024 bytes hold the header with its fixed text. -/
def EventCallback.Deliverable (callback : EventCallback) (texts : ℕ) : Prop :=
  (inetPton callback.host).isSome = true ∧
    callback.path.length + callback.host.length + (Decimal.digits callback.port.toNat).length + texts < 855

namespace EventServer

variable {server : EventServer} {service : EventService} {request : List UInt8} {now : UInt64}

lemma isSome_eventNotifyRequest (serverInfo : List UInt8) (target : EventNotifyTarget)
    (body : List UInt8) :
    (eventNotifyRequest serverInfo target body).isSome = true ↔
      target.callback.Deliverable ((digits body.length).length + serverInfo.length +
        target.sid.length + (digits target.seq.toNat).length) := by
  have hlen : (eventNotifyHeader serverInfo target body.length).length =
      target.callback.path.length + target.callback.host.length +
        (digits target.callback.port.toNat).length +
        ((digits body.length).length + serverInfo.length + target.sid.length +
          (digits target.seq.toNat).length) + 169 := by
    have hnotify : (asciiBytes "NOTIFY ").length = 7 := by decide
    have hhost : (asciiBytes " HTTP/1.1\r\nHOST: ").length = 17 := by decide
    have hcolon : (asciiBytes ":").length = 1 := by decide
    have htype :
        (asciiBytes "\r\nCONTENT-TYPE: text/xml; charset=\"utf-8\"\r\nCONTENT-LENGTH: ").length = 59 := by
      decide
    have hserver : (asciiBytes "\r\nSERVER: ").length = 10 := by decide
    have hsid :
        (asciiBytes "\r\nNT: upnp:event\r\nNTS: upnp:propchange\r\nSID: ").length = 45 := by
      decide
    have hseq : (asciiBytes "\r\nSEQ: ").length = 7 := by decide
    have hclose : (asciiBytes "\r\nCONNECTION: close\r\n\r\n").length = 23 := by decide
    simp only [eventNotifyHeader, List.length_append, hnotify, hhost, hcolon, htype, hserver, hsid, hseq,
      hclose]
    omega
  unfold eventNotifyRequest EventCallback.Deliverable
  cases inetPton target.callback.host with
  | none => simp
  | some _ =>
    simp only [Option.isSome_some, true_and, List.length_append, hlen]
    split
    all_goals simp; omega

/-- Where a subscription that a `SUBSCRIBE` leaves has its callback: from the request, or from before. -/
def GrantedFrom (server : EventServer) (request : List UInt8) (i : Fin eventMaxSubscriptions)
    (entry : EventSubscription) : Prop :=
  (∃ callback, eventGetHeaderValue request "CALLBACK" = some callback ∧
      eventParseCallbackUrl callback = some entry.callback) ∨
    ∃ old, server.subscriptions i = some old ∧ old.callback = entry.callback

lemma eventReadSubscribe_subscribe {callback : EventCallback} {timeoutSeconds : ℕ}
    (h : eventReadSubscribe request = .subscribe callback timeoutSeconds) :
    ∃ value, eventGetHeaderValue request "CALLBACK" = some value ∧
      eventParseCallbackUrl value = some callback := by
  rw [eventReadSubscribe] at h
  split at h
  · cases h
  split at h
  · cases h
  split at h
  · rename_i value nt hvalue hnt
    split at h
    · cases h
    split at h
    · cases h
    rename_i parsed hparsed
    cases h
    exact ⟨value, hvalue, hparsed⟩
  · cases h

lemma eventReadSubscribe_refused {response : EventResponse}
    (h : eventReadSubscribe request = .refused response) : response.status ≠ 200 := by
  rw [eventReadSubscribe] at h
  split at h
  · cases h
    decide
  split at h
  · cases h
  split at h
  · split at h
    · cases h
      decide
    split at h
    · cases h
      decide
    · cases h
  · cases h
    decide

lemma granted_of_status (h : (server.handleSubscribe service request now).1.status = 200) :
    ∃ i entry timeoutSeconds, server.GrantedFrom request i entry ∧
      (server.handleSubscribe service request now).1.headers =
        eventGrantedHeaders entry.sid timeoutSeconds ∧
      (server.handleSubscribe service request now).2.subscriptions i = some entry := by
  unfold handleSubscribe at h ⊢
  cases hread : eventReadSubscribe request with
  | refused response =>
    rw [hread] at h
    exact absurd h (eventReadSubscribe_refused hread)
  | renew sid timeoutSeconds =>
    rw [hread] at h
    dsimp only at h ⊢
    unfold renew at h ⊢
    cases hfind : server.findSubscriptionBySid sid with
    | none =>
      rw [hfind] at h
      cases h
    | some found =>
      obtain ⟨i, entry⟩ := found
      exact ⟨i, { entry with expiryMs := expiryOf now timeoutSeconds }, timeoutSeconds,
        .inr ⟨entry, (findSubscriptionBySid_some hfind).1, rfl⟩, rfl,
        Function.update_self i _ server.subscriptions⟩
  | subscribe callback timeoutSeconds =>
    rw [hread] at h
    unfold subscribe at h ⊢
    cases hvacant : Slots.vacant server.subscriptions with
    | none =>
      rw [hvacant] at h
      cases h
    | some i =>
      exact ⟨i, server.grantedEntry service callback timeoutSeconds now, timeoutSeconds,
        .inl (eventReadSubscribe_subscribe hread), rfl,
        Function.update_self i _ server.subscriptions⟩

/-- **When accepted subscriptions are deliverable.** A `SUBSCRIBE` that is answered with 200 leaves the
subscription it answers for, with the callback of the request or the one from before, and whatever the
state of the protocol and the number are, its notification is made in full just when the callback is
`Deliverable` beside them. -/
theorem granted_deliverable_iff (serverInfo : List UInt8)
    (h : (server.handleSubscribe service request now).1.status = 200) :
    ∃ i entry timeoutSeconds, server.GrantedFrom request i entry ∧
      (server.handleSubscribe service request now).1.headers =
        eventGrantedHeaders entry.sid timeoutSeconds ∧
      (server.handleSubscribe service request now).2.subscriptions i = some entry ∧
      ∀ (seq : UInt32) (state : ProtocolState) (body : List UInt8),
        eventBuildPropertyset entry.service state = some body →
          ((eventNotifyRequest serverInfo { targetOf entry with seq } body).isSome = true ↔
            entry.callback.Deliverable ((Decimal.digits body.length).length + serverInfo.length +
              entry.sid.length + (Decimal.digits seq.toNat).length)) := by
  obtain ⟨i, entry, timeoutSeconds, hfrom, hheaders, hentry⟩ := granted_of_status h
  exact ⟨i, entry, timeoutSeconds, hfrom, hheaders, hentry,
    fun seq state body _ => isSome_eventNotifyRequest serverInfo { targetOf entry with seq } body⟩

theorem granted_deliverable_iff_volume :
    ∃ i entry, (initial.handleSubscribe .renderingControl volumeSubscribe 0).2.subscriptions i = some entry ∧
      ∀ state body, eventBuildPropertyset entry.service state = some body →
        ((eventNotifyRequest [] (targetOf entry) body).isSome = true ↔
          entry.callback.Deliverable ((Decimal.digits body.length).length + 0 + entry.sid.length +
            (Decimal.digits entry.seq.toNat).length)) := by
  have hstatus : (initial.handleSubscribe .renderingControl volumeSubscribe 0).1.status = 200 := by
    decide +kernel
  obtain ⟨i, entry, -, -, -, hentry, hmade⟩ := granted_deliverable_iff [] hstatus
  exact ⟨i, entry, hentry, fun state body hbody => hmade entry.seq state body hbody⟩

/-- A `SUBSCRIBE` whose callback names its host. -/
def namedSubscribe : List UInt8 :=
  asciiBytes "SUBSCRIBE /upnp/event/RenderingControl HTTP/1.1\r\nCALLBACK: <http://tv.local/x>\r\n"
    ++ asciiBytes "NT: upnp:event\r\n\r\n"

/-- It is answered with 200, its property set can be built, and none of its notifications is ever made. -/
theorem granted_never_delivered :
    (initial.handleSubscribe .renderingControl namedSubscribe 0).1.status = 200 ∧
      (eventBuildPropertyset .renderingControl .initial).isSome = true ∧
      ∃ entry, (initial.handleSubscribe .renderingControl namedSubscribe 0).2.subscriptions
          ⟨0, by decide⟩ = some entry ∧
        ∀ serverInfo seq body,
          eventNotifyRequest serverInfo { targetOf entry with seq } body = none := by
  refine ⟨by decide +kernel, by decide +kernel, initial.grantedEntry .renderingControl
    ⟨asciiBytes "http://tv.local:80/x", asciiBytes "tv.local", 80, asciiBytes "/x"⟩ 1800 0,
    by decide +kernel, fun serverInfo seq body => ?_⟩
  have hhost : inetPton (asciiBytes "tv.local") = none := by decide +kernel
  simp only [eventNotifyRequest, targetOf, grantedEntry, hhost]

end EventServer

end NXCast
