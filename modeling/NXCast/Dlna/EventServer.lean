import NXCast.Dlna.ProtocolState
import NXCast.Framework.Slots
import Mathlib.Data.List.DropRight

/-!
# The event server

`event_server.c`: the subscriptions of the control points, how a `SUBSCRIBE` and an `UNSUBSCRIBE`
are read, and what each does to the table under the server's mutex.  A request's clock is its
argument.  Memory is not short, and a response is its status with the headers of its own; what every
response carries is left out.

`granted` counts the subscriptions and `stamp` is the count when one was granted: no function reads
them.
-/

namespace NXCast

/-! ## Data -/

/-- `EventService` -/
inductive EventService where
  | avTransport
  | renderingControl
  | connectionManager
deriving DecidableEq

/-- `EVENT_MAX_SUBSCRIPTIONS` -/
def eventMaxSubscriptions : ℕ := 8
/-- `EVENT_DEFAULT_TIMEOUT_SECONDS` -/
def eventDefaultTimeoutSeconds : ℕ := 1800
/-- `EVENT_MIN_TIMEOUT_SECONDS` -/
def eventMinTimeoutSeconds : ℕ := 60
/-- `EVENT_MAX_TIMEOUT_SECONDS` -/
def eventMaxTimeoutSeconds : ℕ := 3600

/-- What `event_parse_callback_url` reads. -/
structure EventCallback where
  normalized : List UInt8
  host : List UInt8
  port : UInt16
  path : List UInt8
deriving DecidableEq

/-- `EventSubscription`, when it is active. -/
structure EventSubscription where
  service : EventService
  sid : List UInt8
  callback : EventCallback
  seq : UInt32
  expiryMs : UInt64
  stamp : ℕ
deriving DecidableEq

/-- `EventNotifyTarget` -/
structure EventNotifyTarget where
  service : EventService
  sid : List UInt8
  callback : EventCallback
  seq : UInt32
  stamp : ℕ
deriving DecidableEq

/-- The state under the server's mutex. -/
structure EventServer where
  subscriptions : Fin eventMaxSubscriptions → Option EventSubscription
  dirty : EventService → Bool
  nextSid : UInt32
  granted : ℕ

/-- A response, and the headers of its own. -/
structure EventResponse where
  status : ℕ
  statusText : List UInt8
  headers : List UInt8
deriving DecidableEq

/-! ## Text -/

/-- The C `isspace`. -/
def isspace (value : UInt8) : Bool := decide (9 ≤ value.toNat ∧ value.toNat ≤ 13) || value = 0x20

/-- The C `strtol` to base ten, with what it leaves. -/
def strtol (text : List UInt8) : ℤ × List UInt8 :=
  let signed := text.dropWhile isspace
  let negative := signed.head? = some 0x2d
  let unsigned := if negative ∨ signed.head? = some 0x2b then signed.tail else signed
  let digits := unsigned.takeWhile isdigit
  if digits = [] then (0, text)
  else
    let value : ℤ := if negative then -Decimal.value digits else Decimal.value digits
    (max (-2 ^ 63) (min (2 ^ 63 - 1) value), unsigned.drop digits.length)

/-- `strcasecmp` finds no difference. -/
def sameText (left right : List UInt8) : Bool := left.map tolower = right.map tolower

/-- The lines of a text between the ends `"\r\n"`. -/
def crlfLines : List UInt8 → List (List UInt8)
  | [] => []
  | 0x0d :: 0x0a :: rest => [] :: crlfLines rest
  | byte :: rest =>
    match crlfLines rest with
    | [] => [[byte]]
    | line :: lines => (byte :: line) :: lines

/-- `event_trim_in_place` -/
def eventTrim (value : List UInt8) : List UInt8 :=
  (value.rdropWhile (asciiBytes " \t\r\n").contains).dropWhile (asciiBytes " \t").contains

/-- A line of `event_get_header_value_alloc` with the header, and something behind its colon. -/
def eventHeaderLine (header line : List UInt8) : Bool :=
  line.length > header.length + 1 && sameText (line.take header.length) header &&
    (line)[header.length]? = some 0x3a

variable (request : List UInt8)

/-- `event_get_header_value_alloc` -/
def eventGetHeaderValue (header : String) : Option (List UInt8) :=
  let name := asciiBytes header
  (((crlfLines request).takeWhile (· ≠ [])).find? (eventHeaderLine name)).bind fun line =>
    let value := eventTrim (line.drop (name.length + 1))
    if value = [] then none else some value

/-- `event_parse_timeout_seconds` -/
def eventParseTimeoutSeconds : Option ℕ :=
  match eventGetHeaderValue request "TIMEOUT" with
  | none => some eventDefaultTimeoutSeconds
  | some timeout =>
    if sameText timeout (asciiBytes "infinite") then some eventMaxTimeoutSeconds
    else
      let value := if sameText (timeout.take 7) (asciiBytes "Second-") then timeout.drop 7 else timeout
      let (seconds, rest) := strtol value
      if rest ≠ [] ∨ seconds ≤ 0 then none
      else some (min (max seconds.toNat eventMinTimeoutSeconds) eventMaxTimeoutSeconds)

/-- What stands between the angle brackets of a callback header, if there are any. -/
def eventCallbackUrl (value : List UInt8) : Option (List UInt8) :=
  if value.head? = some 0x3c then
    if value.length < 3 ∨ value.getLast? ≠ some 0x3e then none else some value.tail.dropLast
  else some value

/-- `event_parse_callback_url` -/
def eventParseCallbackUrl (headerValue : List UInt8) : Option EventCallback := do
  let value ← eventCallbackUrl (eventTrim headerValue)
  if !sameText (value.take 7) (asciiBytes "http://") then none
  else
    let url := value.drop 7
    let authority := url.takeWhile (· ≠ 0x2f)
    let path := url.drop authority.length
    let host := authority.takeWhile (· ≠ 0x3a)
    if host = [] then none
    else
      let port ←
        if authority.length = host.length then some 80
        else
          let (port, rest) := strtol (url.drop (host.length + 1))
          if rest.length ≠ path.length ∨ port ≤ 0 ∨ port > 65535 then none else some port.toNat
      let path := if path = [] then asciiBytes "/" else path
      some
        { normalized := asciiBytes "http://" ++ host ++ asciiBytes ":" ++ Decimal.digits port ++ path
          host
          port := UInt16.ofNat port
          path }

/-- `event_service_from_path` -/
def eventServiceFromPath (path : List UInt8) : Option EventService := do
  let event := asciiBytes "/upnp/event/"
  let name ←
    if event.isPrefixOf path then
      some ((path.drop event.length).takeWhile fun byte => !(asciiBytes " ?\r\n").contains byte)
    else if path.head? = some 0x2f then
      let service := path.tail.takeWhile (· ≠ 0x2f)
      if path.tail.drop service.length = asciiBytes "/event" then some service else none
    else none
  if sameText name (asciiBytes "AVTransport") then some .avTransport
  else if sameText name (asciiBytes "RenderingControl") then some .renderingControl
  else if sameText name (asciiBytes "ConnectionManager") then some .connectionManager
  else none

/-- `%08u` -/
def eightDigits (value : ℕ) : List UInt8 :=
  List.replicate (8 - (Decimal.digits value).length) 0x30 ++ Decimal.digits value

/-- The SID with a number. -/
def eventSid (number : UInt32) : List UInt8 :=
  asciiBytes "uuid:nxcast-evt-" ++ eightDigits number.toNat

/-! ## Requests -/

/-- What a `SUBSCRIBE` asks for. -/
inductive EventSubscribeRequest where
  | refused (response : EventResponse)
  | renew (sid : List UInt8) (timeoutSeconds : ℕ)
  | subscribe (callback : EventCallback) (timeoutSeconds : ℕ)
deriving DecidableEq

/-- `event_build_response` without a body. -/
def eventBuildResponse (status : ℕ) (statusText : String) (headers : List UInt8) : EventResponse :=
  ⟨status, asciiBytes statusText, headers⟩

/-- `event_build_response` without headers. -/
def eventStatus (status : ℕ) (statusText : String) : EventResponse :=
  eventBuildResponse status statusText []

/-- The headers of a subscription that has been granted or renewed. -/
def eventGrantedHeaders (sid : List UInt8) (timeoutSeconds : ℕ) : List UInt8 :=
  asciiBytes "SID: " ++ sid ++ asciiBytes "\r\nTIMEOUT: Second-" ++ Decimal.digits timeoutSeconds ++
    asciiBytes "\r\n"

/-- `event_handle_subscribe` up to where it takes the mutex. -/
def eventReadSubscribe : EventSubscribeRequest :=
  match eventParseTimeoutSeconds request with
  | none => .refused (eventStatus 400 "Bad Request")
  | some timeoutSeconds =>
    match eventGetHeaderValue request "SID" with
    | some sid => .renew sid timeoutSeconds
    | none =>
      match eventGetHeaderValue request "CALLBACK", eventGetHeaderValue request "NT" with
      | some callback, some nt =>
        if !sameText nt (asciiBytes "upnp:event") then
          .refused (eventStatus 412 "Precondition Failed")
        else
          match eventParseCallbackUrl callback with
          | none => .refused (eventStatus 412 "Precondition Failed")
          | some callback => .subscribe callback timeoutSeconds
      | _, _ => .refused (eventStatus 400 "Bad Request")

namespace EventServer

variable (server : EventServer)

/-- The server when it starts. -/
def initial : EventServer := ⟨fun _ => none, fun _ => false, 1, 0⟩

/-- A slot is written. -/
def setSlot (i : Fin eventMaxSubscriptions) (entry : Option EventSubscription) : EventServer :=
  { server with subscriptions := Function.update server.subscriptions i entry }

/-- `event_find_subscription_by_sid_locked` -/
def findSubscriptionBySid (sid : List UInt8) :
    Option (Fin eventMaxSubscriptions × EventSubscription) :=
  if sid = [] then none else Slots.search (fun entry => sameText entry.sid sid) server.subscriptions

variable (service : EventService)

/-- `event_mark_dirty_locked` -/
def markDirty : EventServer :=
  { server with dirty := Function.update server.dirty service true }

/-- When a subscription with a timeout expires. -/
def expiryOf (now : UInt64) (timeoutSeconds : ℕ) : UInt64 := now + UInt64.ofNat timeoutSeconds * 1000

/-- A renewal under the mutex. -/
def renew (sid : List UInt8) (timeoutSeconds : ℕ) (now : UInt64) : EventResponse × EventServer :=
  match server.findSubscriptionBySid sid with
  | none => (eventStatus 412 "Precondition Failed", server)
  | some (i, entry) =>
    (eventBuildResponse 200 "OK" (eventGrantedHeaders entry.sid timeoutSeconds),
      server.setSlot i (some { entry with expiryMs := expiryOf now timeoutSeconds }))

/-- A new subscription under the mutex. -/
def subscribe (callback : EventCallback) (timeoutSeconds : ℕ)
    (now : UInt64) : EventResponse × EventServer :=
  match Slots.vacant server.subscriptions with
  | none => (eventStatus 503 "Service Unavailable", server)
  | some i =>
    let sid := eventSid server.nextSid
    let entry : EventSubscription :=
      { service
        sid
        callback
        seq := 0
        expiryMs := expiryOf now timeoutSeconds
        stamp := server.granted }
    let granted : EventServer :=
      { server.setSlot i (some entry) with
        nextSid := server.nextSid + 1
        granted := server.granted + 1 }
    (eventBuildResponse 200 "OK" (eventGrantedHeaders sid timeoutSeconds), granted.markDirty service)

/-- `event_handle_subscribe` -/
def handleSubscribe (request : List UInt8) (now : UInt64) :
    EventResponse × EventServer :=
  match eventReadSubscribe request with
  | .refused response => (response, server)
  | .renew sid timeoutSeconds => server.renew sid timeoutSeconds now
  | .subscribe callback timeoutSeconds => server.subscribe service callback timeoutSeconds now

/-- An unsubscription under the mutex. -/
def unsubscribe (sid : List UInt8) : EventResponse × EventServer :=
  match server.findSubscriptionBySid sid with
  | none => (eventStatus 412 "Precondition Failed", server)
  | some (i, _) => (eventStatus 200 "OK", server.setSlot i none)

/-- `event_handle_unsubscribe` -/
def handleUnsubscribe (request : List UInt8) : EventResponse × EventServer :=
  match eventGetHeaderValue request "SID" with
  | none => (eventStatus 400 "Bad Request", server)
  | some sid => server.unsubscribe sid

/-- `event_server_try_handle_http`: `none` when the path is not one of the event server's. -/
def tryHandleHttp (method path request : List UInt8) (now : UInt64) :
    Option EventResponse × EventServer :=
  match eventServiceFromPath path with
  | none => (none, server)
  | some service =>
    let (response, server) :=
      if sameText method (asciiBytes "SUBSCRIBE") then server.handleSubscribe service request now
      else if sameText method (asciiBytes "UNSUBSCRIBE") then server.handleUnsubscribe request
      else (eventStatus 405 "Method Not Allowed", server)
    (some response, server)

/-! ## Events and notifications -/

/-- The service that an event of the renderer marks. -/
def markedService : PlayerEventType → Option EventService
  | .stateChanged | .uriChanged | .durationChanged | .error => some .avTransport
  | .volumeChanged | .muteChanged => some .renderingControl
  | .positionChanged => none

/-- `event_server_on_renderer_event` -/
def onRendererEvent (event : RendererEvent) : EventServer :=
  (markedService event.type).elim server server.markDirty

/-- `event_prune_expired_locked` -/
def pruneExpired (now : UInt64) : EventServer :=
  { server with subscriptions := fun i =>
      (server.subscriptions i).filter fun entry => decide (now < entry.expiryMs) }

/-- The target of a subscription. -/
def targetOf (entry : EventSubscription) : EventNotifyTarget :=
  ⟨entry.service, entry.sid, entry.callback, entry.seq, entry.stamp⟩

/-- The subscriptions of a service, in the order of their slots. -/
def targets : List EventNotifyTarget :=
  (List.finRange eventMaxSubscriptions).filterMap fun i =>
    ((server.subscriptions i).filter fun entry => entry.service = service).map targetOf

/-- The next number is taken for each subscription of a service. -/
def takeNumbers : EventServer :=
  { server with subscriptions := fun i =>
      (server.subscriptions i).map fun entry =>
        if entry.service = service then { entry with seq := entry.seq + 1 } else entry }

/-- `event_collect_targets_locked` -/
def collectTargets (now : UInt64) : List EventNotifyTarget × EventServer :=
  let server := server.pruneExpired now
  (server.targets service, server.takeNumbers service)

/-- A service's part of the event thread's section: its targets, and its flag cleared. -/
def collectDue (now : UInt64) : List EventNotifyTarget × EventServer :=
  if server.dirty service then
    let (targets, server) := server.collectTargets service now
    (targets, { server with dirty := Function.update server.dirty service false })
  else ([], server)

/-- The section of `event_thread_main` under the mutex, with the times it reads. -/
def collect (now : EventService → UInt64) : List EventNotifyTarget × EventServer :=
  let (avt, server) := server.collectDue .avTransport (now .avTransport)
  let (rc, server) := server.collectDue .renderingControl (now .renderingControl)
  let (cm, server) := server.collectDue .connectionManager (now .connectionManager)
  (avt ++ rc ++ cm, server)

end EventServer

end NXCast
