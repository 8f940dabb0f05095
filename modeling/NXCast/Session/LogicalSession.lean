import NXCast.Framework.Slots
import NXCast.Rtsp.Request

/-!
# The logical session manager

`logical_session.c`: one media identity shared by its TCP connections.  An entry that is not
in use is all zero in the source and `none` here, and a client id with its `client_id_bound`
flag is an option.  A C pointer into a table is the slot it points at.
-/

namespace NXCast

/-! ## Data -/

/-- `AIRPLAY_SESSION_APPLE_ID_MAX` -/
def airplaySessionAppleIdMax : ℕ := 128

/-- The client identity of `AIRPLAY_SESSION_CLIENT_ID_SIZE` bytes. -/
abbrev AirPlayClientId := Vector UInt8 32

/-- `AirPlayConnectionKind` -/
inductive AirPlayConnectionKind where
  | unknown
  | raop
  | airplay
  | ble
deriving DecidableEq, Repr

/-- `AirPlaySessionObserveResult`, without the `OK` of a successful call. -/
inductive AirPlaySessionObserveError where
  | invalidArgument
  | invalidSessionId
  | conflict
  | unboundMedia
  | capacity
deriving DecidableEq, Repr

/-- `AirPlaySessionSnapshot` -/
structure AirPlaySessionSnapshot where
  connectionId : UInt64
  logicalSessionId : UInt64
  connectionKind : AirPlayConnectionKind
  logicalConnectionCount : UInt32
  logicalSessionBound : Bool
deriving DecidableEq

/-- `AirPlaySessionCloseResult` -/
structure AirPlaySessionCloseResult where
  connectionId : UInt64
  logicalSessionId : UInt64
  logicalSessionBound : Bool
  lastLogicalConnection : Bool
  terminalMediaSessionId : UInt64
deriving DecidableEq

/-- `AirPlayConnectionEntry` -/
structure AirPlayConnectionEntry where
  connectionId : UInt64
  logicalSessionId : UInt64
  kind : AirPlayConnectionKind
  clientId : Option AirPlayClientId
  logicalSessionBound : Bool
deriving DecidableEq

/-- `AirPlayLogicalSessionEntry` -/
structure AirPlayLogicalSessionEntry where
  appleSessionId : CString
  logicalSessionId : UInt64
  connectionCount : UInt32
  mediaReferenceCount : UInt32
  clientId : Option AirPlayClientId
  transportTerminated : Bool
deriving DecidableEq

/-- `AirPlaySessionManager`, without its mutex: every function below is one critical section. -/
structure AirPlaySessionManager where
  connections : Fin 8 → Option AirPlayConnectionEntry
  logicalSessions : Fin 8 → Option AirPlayLogicalSessionEntry
  nextLogicalSessionId : UInt64
deriving DecidableEq

namespace AirPlaySessionManager

/-- `airplay_session_manager_create` -/
def create : AirPlaySessionManager where
  connections := fun _ => none
  logicalSessions := fun _ => none
  nextLogicalSessionId := 0x8000000000000000

/-- Write one connection entry. -/
def setConnection (manager : AirPlaySessionManager) (slot : Fin 8)
    (entry : Option AirPlayConnectionEntry) : AirPlaySessionManager :=
  { manager with connections := Function.update manager.connections slot entry }

/-- Write one logical session entry. -/
def setLogical (manager : AirPlaySessionManager) (slot : Fin 8)
    (entry : Option AirPlayLogicalSessionEntry) : AirPlaySessionManager :=
  { manager with logicalSessions := Function.update manager.logicalSessions slot entry }

end AirPlaySessionManager

/-! ## What a request says -/

/-- `valid_apple_session_id` -/
def validAppleSessionId (value : CString) : Bool :=
  decide (value.strlen ≠ 0 ∧ value.strlen ≤ airplaySessionAppleIdMax) &&
    value.bytes.all fun character => decide (0x21 ≤ character.toNat ∧ character.toNat ≤ 0x7e)

/-- `uri_is_ble_info` -/
def uriIsBleInfo (uri : CString) : Bool :=
  decide (asciiBytes "txtAirPlay" <:+: uri.bytes) || decide (asciiBytes "txtRAOP" <:+: uri.bytes)

/-- `uri_is_pairing` -/
def uriIsPairing (uri : CString) : Bool :=
  decide (uri = cstring "/pair-pin-start" ∨ uri = cstring "/pair-setup-pin" ∨
    uri = cstring "/pair-setup" ∨ uri = cstring "/pair-verify")

variable (request : AirPlayRtspRequest)

/-- `airplay_session_request_is_remote_video` -/
def airplaySessionRequestIsRemoteVideo : Bool :=
  decide (request.uri = cstring "/play" ∨ request.uri = cstring "/stop" ∨
    request.uri = cstring "/playback-info" ∨ request.uri = cstring "/action" ∨
    request.uri = cstring "/rate" ∨ asciiBytes "/rate?" <+: request.uri.bytes ∨
    request.uri = cstring "/scrub" ∨ asciiBytes "/scrub?" <+: request.uri.bytes)

/-- `airplay_session_request_requires_logical_binding` -/
def airplaySessionRequestRequiresLogicalBinding : Bool :=
  airplaySessionRequestIsRemoteVideo request || decide (request.uri = cstring "/reverse")

/-- `classify_request` -/
def classifyRequest (appleSessionId : Option CString) :
    AirPlayConnectionKind :=
  if uriIsBleInfo request.uri ∧ ¬request.hasCseq ∧ request.protocol = cstring "RTSP/1.0" then .ble
  else if request.hasCseq then .raop
  else if appleSessionId.isSome ∨ request.protocol = cstring "HTTP/1.1" ∨
      uriIsPairing request.uri then .airplay
  else .unknown

/-! ## The tables -/

namespace AirPlaySessionManager

variable (manager : AirPlaySessionManager)

/-- `find_connection` -/
def findConnection (connectionId : UInt64) :
    Option (Fin 8 × AirPlayConnectionEntry) :=
  Slots.search (fun entry => decide (entry.connectionId = connectionId)) manager.connections

/-- `find_free_connection` -/
def findFreeConnection : Option (Fin 8) :=
  Slots.vacant manager.connections

/-- `find_logical_by_apple_id` -/
def findLogicalByAppleId (appleSessionId : CString) :
    Option (Fin 8 × AirPlayLogicalSessionEntry) :=
  Slots.search (fun entry => decide (entry.appleSessionId = appleSessionId))
    manager.logicalSessions

/-- `find_logical_by_id` -/
def findLogicalById (logicalSessionId : UInt64) :
    Option (Fin 8 × AirPlayLogicalSessionEntry) :=
  Slots.search (fun entry => decide (entry.logicalSessionId = logicalSessionId))
    manager.logicalSessions

/-- `find_free_logical` -/
def findFreeLogical : Option (Fin 8) :=
  Slots.vacant manager.logicalSessions

end AirPlaySessionManager

/-- `release_logical_if_unreferenced`: what is left of the entry. -/
def releaseLogicalIfUnreferenced (logical : AirPlayLogicalSessionEntry) :
    Option AirPlayLogicalSessionEntry :=
  if logical.connectionCount = 0 ∧ logical.mediaReferenceCount = 0 then none else some logical

namespace AirPlaySessionManager

variable (manager : AirPlaySessionManager)

/-- The part of `bind_connection` that leaves the previous session of a bound connection. -/
def leavePrevious (connection : AirPlayConnectionEntry) :
    AirPlaySessionManager :=
  if connection.logicalSessionBound then
    match manager.findLogicalById connection.logicalSessionId with
    | some (slot, previous) =>
      if 0 < previous.connectionCount then
        manager.setLogical slot (some { previous with
          connectionCount := previous.connectionCount - 1 })
      else manager
    | none => manager
  else manager

/-- `bind_connection`, for the connection and the session in the given slots. -/
def bindConnection (slot : Fin 8)
    (connection : AirPlayConnectionEntry) (position : Fin 8)
    (logical : AirPlayLogicalSessionEntry) : AirPlaySessionManager :=
  if connection.logicalSessionBound ∧
      connection.logicalSessionId = logical.logicalSessionId then manager
  else
    ((manager.leavePrevious connection).setConnection slot (some { connection with
      logicalSessionId := logical.logicalSessionId
      logicalSessionBound := true })).setLogical position (some { logical with
        connectionCount := logical.connectionCount + 1
        clientId := logical.clientId <|> connection.clientId })

/-- One turn of the counter: the id after `candidate`, kept in the upper half. -/
def nextId (candidate : UInt64) : UInt64 :=
  if candidate + 1 < 0x8000000000000000 then 0x8000000000000000 else candidate + 1

/-- The loop of `allocate_logical_id`: the free id it finds, and the counter it leaves. -/
def allocateLoop (manager : AirPlaySessionManager) : ℕ → UInt64 → Option UInt64 × UInt64
  | 0, next => (none, next)
  | attempts + 1, candidate =>
    if candidate ≠ 0 ∧ manager.findLogicalById candidate = none then
      (some candidate, nextId candidate)
    else manager.allocateLoop attempts (nextId candidate)

/-- `allocate_logical_id` -/
def allocateLogicalId :
    Option UInt64 × AirPlaySessionManager :=
  ((manager.allocateLoop 9 manager.nextLogicalSessionId).1,
    { manager with
      nextLogicalSessionId := (manager.allocateLoop 9 manager.nextLogicalSessionId).2 })

end AirPlaySessionManager

/-- `fill_snapshot` -/
def fillSnapshot (connection : AirPlayConnectionEntry)
    (logical : Option AirPlayLogicalSessionEntry) : AirPlaySessionSnapshot where
  connectionId := connection.connectionId
  logicalSessionId := connection.logicalSessionId
  connectionKind := connection.kind
  logicalConnectionCount := (logical.map (·.connectionCount)).getD 1
  logicalSessionBound := connection.logicalSessionBound

/-! ## Observing a request -/

namespace AirPlaySessionManager

variable (manager : AirPlaySessionManager)

/-- The session a request is about: the part of `airplay_session_manager_observe` that sets
`logical`.  A connection that is new has no entry yet; the slot returned may be a free one. -/
def observedLogical (connection : Option AirPlayConnectionEntry)
    (appleSessionId : Option CString) : Except AirPlaySessionObserveError (Option (Fin 8)) :=
  match appleSessionId, connection.filter (·.logicalSessionBound) with
  | some appleSessionId, some connection =>
    match manager.findLogicalById connection.logicalSessionId with
    | some (position, logical) =>
      if logical.appleSessionId = appleSessionId then .ok (some position) else .error .conflict
    | none => .error .conflict
  | some appleSessionId, none =>
    match manager.findLogicalByAppleId appleSessionId with
    | some (position, _) => .ok (some position)
    | none =>
      match manager.findFreeLogical with
      | some position => .ok (some position)
      | none => .error .capacity
  | none, some connection =>
    match manager.findLogicalById connection.logicalSessionId with
    | some (position, _) => .ok (some position)
    | none => .error .conflict
  | none, none => .ok none

/-- The entry a request leaves for its connection, before it is bound. -/
def observedConnection (connectionId : UInt64) (observedKind : AirPlayConnectionKind) :
    Option AirPlayConnectionEntry → AirPlayConnectionEntry
  | none => ⟨connectionId, connectionId, observedKind, none, false⟩
  | some connection =>
    if connection.kind = .unknown then { connection with kind := observedKind } else connection

/-- The successful end of `airplay_session_manager_observe`. -/
def observed (slot : Fin 8) (position : Option (Fin 8)) :
    AirPlaySessionManager × Except AirPlaySessionObserveError AirPlaySessionSnapshot :=
  match manager.connections slot with
  | some connection =>
    (manager, .ok (fillSnapshot connection (position.bind manager.logicalSessions)))
  | none => (manager, .error .invalidArgument)

/-- The block of `airplay_session_manager_observe` that binds a connection to the session of its
Apple id.  On failure a new connection is forgotten again. -/
def observeBind (slot : Fin 8)
    (connection : AirPlayConnectionEntry) (newConnection : Bool) (position : Fin 8)
    (appleSessionId : CString) :
    AirPlaySessionManager × Except AirPlaySessionObserveError AirPlaySessionSnapshot :=
  match manager.logicalSessions position with
  | some logical =>
    if connection.clientId.isSome ∧ logical.clientId.isSome ∧
        connection.clientId ≠ logical.clientId then
      (if newConnection then manager.setConnection slot none else manager, .error .conflict)
    else (manager.bindConnection slot connection position logical).observed slot position
  | none =>
    match manager.allocateLogicalId with
    | (none, manager) =>
      (if newConnection then manager.setConnection slot none else manager, .error .capacity)
    | (some logicalSessionId, manager) =>
      (manager.bindConnection slot connection position
        ⟨appleSessionId, logicalSessionId, 0, 0, none, false⟩).observed slot position

/-- `airplay_session_manager_observe` once the connection has its slot. -/
def observeAt (slot : Fin 8)
    (connection : Option AirPlayConnectionEntry) (connectionId : UInt64)
    (observedKind : AirPlayConnectionKind) (request : AirPlayRtspRequest)
    (appleSessionId : Option CString) :
    AirPlaySessionManager × Except AirPlaySessionObserveError AirPlaySessionSnapshot :=
  match manager.observedLogical connection appleSessionId with
  | .error error => (manager, .error error)
  | .ok position =>
    if airplaySessionRequestRequiresLogicalBinding request ∧ position = none then
      (manager, .error .unboundMedia)
    else
      let entry := observedConnection connectionId observedKind connection
      let manager := manager.setConnection slot (some entry)
      match appleSessionId, position with
      | some appleSessionId, some position =>
        if entry.logicalSessionBound then manager.observed slot position
        else manager.observeBind slot entry connection.isNone position appleSessionId
      | _, position => manager.observed slot position

/-- `airplay_session_manager_observe` -/
def observe (connectionId : UInt64)
    (request : AirPlayRtspRequest) :
    AirPlaySessionManager × Except AirPlaySessionObserveError AirPlaySessionSnapshot :=
  let appleSessionId := airplayRtspRequestHeader request.headers (cstring "X-Apple-Session-ID")
  if connectionId = 0 then (manager, .error .invalidArgument)
  else if appleSessionId.any fun value => !validAppleSessionId value then
    (manager, .error .invalidSessionId)
  else if request.hasCseq ∧ appleSessionId.isSome then (manager, .error .conflict)
  else
    let observedKind := classifyRequest request appleSessionId
    match manager.findConnection connectionId with
    | none =>
      match manager.findFreeConnection with
      | none => (manager, .error .capacity)
      | some slot =>
        manager.observeAt slot none connectionId observedKind request appleSessionId
    | some (slot, connection) =>
      if observedKind ≠ .unknown ∧ connection.kind ≠ .unknown ∧
          connection.kind ≠ observedKind then (manager, .error .conflict)
      else manager.observeAt slot connection connectionId observedKind request appleSessionId

/-! ## The other operations -/

/-- The end of a connection for the session it is bound to: the block of
`airplay_session_manager_close`. -/
def closeLogical (connection : AirPlayConnectionEntry) :
    AirPlaySessionManager × AirPlaySessionCloseResult :=
  let result : AirPlaySessionCloseResult :=
    ⟨connection.connectionId, connection.logicalSessionId, connection.logicalSessionBound, false, 0⟩
  if connection.logicalSessionBound then
    match manager.findLogicalById connection.logicalSessionId with
    | some (position, logical) =>
      if 0 < logical.connectionCount then
        let logical := { logical with connectionCount := logical.connectionCount - 1 }
        if logical.connectionCount = 0 then
          (manager.setLogical position (releaseLogicalIfUnreferenced logical),
            { result with
              lastLogicalConnection := true
              terminalMediaSessionId :=
                if logical.transportTerminated ∧ 0 < logical.mediaReferenceCount then
                  logical.logicalSessionId
                else 0 })
        else (manager.setLogical position (some logical), result)
      else (manager, result)
    | none => (manager, result)
  else (manager, result)

/-- `airplay_session_manager_close` -/
def close (connectionId : UInt64) :
    AirPlaySessionManager × Option AirPlaySessionCloseResult :=
  if connectionId = 0 then (manager, none)
  else
    match manager.findConnection connectionId with
    | none => (manager, none)
    | some (slot, connection) =>
      ((manager.closeLogical connection).1.setConnection slot none,
        some (manager.closeLogical connection).2)

/-- `airplay_session_manager_bind_client` -/
def bindClient (connectionId : UInt64)
    (clientId : AirPlayClientId) : AirPlaySessionManager × Bool :=
  if connectionId = 0 then (manager, false)
  else
    match manager.findConnection connectionId with
    | none => (manager, false)
    | some (slot, connection) =>
      if connection.clientId.isSome ∧ connection.clientId ≠ some clientId then (manager, false)
      else
        let bound := manager.setConnection slot (some { connection with clientId := some clientId })
        if connection.logicalSessionBound then
          match manager.findLogicalById connection.logicalSessionId with
          | none => (manager, false)
          | some (position, logical) =>
            if logical.clientId.isSome ∧ logical.clientId ≠ some clientId then (manager, false)
            else (bound.setLogical position (some { logical with clientId := some clientId }), true)
        else (bound, true)

/-- Whether `airplay_session_manager_mark_transport_teardown` has media of this client here. -/
def servesClient (clientId : AirPlayClientId) (logical : AirPlayLogicalSessionEntry) : Bool :=
  decide (logical.mediaReferenceCount ≠ 0 ∧ logical.clientId = some clientId)

/-- `airplay_session_manager_mark_transport_teardown`.  The scan gives up at a second match. -/
def markTransportTeardown (connectionId : UInt64) :
    AirPlaySessionManager × Option UInt64 :=
  if connectionId = 0 then (manager, none)
  else
    match manager.findConnection connectionId with
    | some (_, ⟨_, _, .raop, some clientId, _⟩) =>
      match (List.finRange 8).filterMap fun position =>
          ((manager.logicalSessions position).filter (servesClient clientId)).map
            fun logical => (position, logical) with
      | [] => (manager, some 0)
      | [(position, matching)] =>
        (manager.setLogical position (some { matching with transportTerminated := true }),
          some (if matching.connectionCount = 0 then matching.logicalSessionId else 0))
      | _ => (manager, none)
    | _ => (manager, none)

/-- `airplay_session_manager_retain_media` -/
def retainMedia (logicalSessionId : UInt64) :
    AirPlaySessionManager × Bool :=
  if logicalSessionId = 0 then (manager, false)
  else
    match manager.findLogicalById logicalSessionId with
    | none => (manager, false)
    | some (position, logical) =>
      if logical.mediaReferenceCount < 0xffffffff then
        (manager.setLogical position (some { logical with
          mediaReferenceCount := logical.mediaReferenceCount + 1 }), true)
      else (manager, false)

/-- `airplay_session_manager_release_media` -/
def releaseMedia (logicalSessionId : UInt64) :
    AirPlaySessionManager × Bool :=
  if logicalSessionId = 0 then (manager, false)
  else
    match manager.findLogicalById logicalSessionId with
    | none => (manager, false)
    | some (position, logical) =>
      if 0 < logical.mediaReferenceCount then
        (manager.setLogical position (releaseLogicalIfUnreferenced { logical with
          mediaReferenceCount := logical.mediaReferenceCount - 1 }), true)
      else (manager, false)

end AirPlaySessionManager

end NXCast
