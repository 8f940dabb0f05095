import NXCast.Dlna.EventServer
import NXCast.Dlna.SoapWriter
import NXCast.Framework.Trace

/-!
# The threads of the DLNA renderer

The protocol state and the subscriptions with the threads that use them: one serves the SOAP
actions, which submit a command to the player and then write their own view of the state; one
delivers the events of the player, which write to the state and then mark a service dirty; the event
thread collects the subscriptions of the dirty services and sends each a notification, whose body it
reads from the state variable by variable.  A step is one write, one read, or one section under the
mutex of the event server.

What the player answers and which events it sends, and whether a notification can be sent, is not
the module's to decide: it comes with the step.  Two fields record the past: `mapped` is what the
last event of the current media mapped to, and `history` the events below.
-/

namespace NXCast

/-! ## Notifications -/

/-- A variable. -/
inductive ProtocolVariable where
  | text (name : ProtocolText)
  | number (name : ProtocolNumber)
  | mute
deriving DecidableEq

/-- The variable that is written. -/
def ProtocolWrite.name : ProtocolWrite → ProtocolVariable
  | .text name _ => .text name
  | .number name _ => .number name
  | .mute _ => .mute

/-- The value of a variable, as the write of it. -/
def ProtocolState.value (s : ProtocolState) : ProtocolVariable → ProtocolWrite
  | .text name => .text name (s.text name)
  | .number name => .number name (s.number name)
  | .mute => .mute s.mute

/-- The variables that a notification of a service carries, in the order they are read. -/
def eventVariables : EventService → List ProtocolVariable
  | .avTransport =>
    [.text .transportState, .text .transportStatus, .number .currentTrack, .number .numberOfTracks,
      .text .currentMediaDuration, .text .currentTrackDuration]
  | .renderingControl => [.number .volume, .mute]
  | .connectionManager => [.text .currentConnectionIds]

/-- `event_append_val_element` -/
def eventAppendValElement (tag : String) (value : List UInt8) : SoapWriter := do
  soapWriterAppendLen (asciiBytes "<" ++ asciiBytes tag ++ asciiBytes " val=\"")
  soapWriterAppendEscaped value
  soapWriterAppendRaw (asciiBytes "\"/>")

/-- A number that `soap_writer_appendf` writes between two texts. -/
def eventAppendNumber (before : String) (value : ℤ) (after : String) : SoapWriter :=
  soapWriterAppendLen (asciiBytes before ++ soapDecimal value ++ asciiBytes after)

/-- `event_build_avtransport_last_change` -/
def eventBuildAvtransportLastChange (state : ProtocolState) : SoapWriter := do
  soapWriterAppendRaw (asciiBytes
    "<Event xmlns=\"urn:schemas-upnp-org:metadata-1-0/AVT/\"><InstanceID val=\"0\">")
  eventAppendValElement "TransportState" (state.text .transportState)
  eventAppendValElement "TransportStatus" (state.text .transportStatus)
  eventAppendNumber "<CurrentTrack val=\"" (state.number .currentTrack) "\"/>"
  eventAppendNumber "<NumberOfTracks val=\"" (state.number .numberOfTracks) "\"/>"
  eventAppendValElement "CurrentMediaDuration" (state.text .currentMediaDuration)
  eventAppendValElement "CurrentTrackDuration" (state.text .currentTrackDuration)
  soapWriterAppendRaw (asciiBytes "</InstanceID></Event>")

/-- `event_build_renderingcontrol_last_change` -/
def eventBuildRenderingcontrolLastChange (state : ProtocolState) : SoapWriter := do
  soapWriterAppendRaw (asciiBytes
    "<Event xmlns=\"urn:schemas-upnp-org:metadata-1-0/RCS/\"><InstanceID val=\"0\">")
  eventAppendNumber "<Volume channel=\"Master\" val=\"" (state.number .volume) "\"/>"
  eventAppendNumber "<Mute channel=\"Master\" val=\"" (if state.mute then 1 else 0) "\"/>"
  soapWriterAppendRaw (asciiBytes "</InstanceID></Event>")

/-- The property of a service that has a `LastChange`. -/
def eventAppendLastChange (lastChange : SoapWriter) : SoapWriter := fun out => do
  let lastChange ← lastChange.output
  let property : SoapWriter := do
    soapWriterAppendRaw (asciiBytes "<e:property><LastChange>")
    soapWriterAppendEscaped lastChange
    soapWriterAppendRaw (asciiBytes "</LastChange></e:property>")
  property out

/-- `event_build_propertyset` -/
def eventBuildPropertyset (service : EventService) (state : ProtocolState) :
    Option (List UInt8) :=
  SoapWriter.output do
    soapWriterAppendRaw (asciiBytes "<?xml version=\"1.0\" encoding=\"utf-8\"?>")
    soapWriterAppendRaw (asciiBytes "<e:propertyset xmlns:e=\"urn:schemas-upnp-org:event-1-0\">")
    match service with
    | .avTransport => eventAppendLastChange (eventBuildAvtransportLastChange state)
    | .renderingControl => eventAppendLastChange (eventBuildRenderingcontrolLastChange state)
    | .connectionManager => do
      soapWriterAppendRaw (asciiBytes "<e:property><CurrentConnectionIDs>")
      soapWriterAppendEscaped (state.text .currentConnectionIds)
      soapWriterAppendRaw (asciiBytes "</CurrentConnectionIDs></e:property>")
    soapWriterAppendRaw (asciiBytes "</e:propertyset>")

/-! ## Data -/

/-- The thread of the SOAP actions. -/
inductive SoapThread where
  | idle
  | submitting (action : DlnaAction)
  | writing (left : List ProtocolWrite)

/-- The thread that delivers the player's events: in `dlna_protocol_state_on_renderer_event`, and then
in `event_server_on_renderer_event`. -/
inductive HandlerThread where
  | idle
  | writing (left : List ProtocolWrite) (event : RendererEvent)

/-- The event thread: it waits, has targets left, reads the body of one, or sends it. -/
inductive EventThread where
  | waiting
  | sending (left : List EventNotifyTarget)
  | building (target : EventNotifyTarget) (unread : List ProtocolVariable) (seen : ProtocolState)
    (left : List EventNotifyTarget)
  | delivering (target : EventNotifyTarget) (seen : ProtocolState)
    (left : List EventNotifyTarget)
  | exited

/-- What happens. -/
inductive DlnaEvent where
  | wrote (write : ProtocolWrite)
  | marked (service : EventService)
  | subscribed (stamp : ℕ) (service : EventService)
  | attempted (target : EventNotifyTarget) (seen : ProtocolState) (body : Option (List UInt8))
    (sent : Bool)

/-- The state, the subscriptions and the threads. -/
structure DlnaSystem where
  state : ProtocolState
  server : EventServer
  soap : SoapThread
  handler : HandlerThread
  worker : EventThread
  stopRequested : Bool
  mapped : Option (List UInt8 × List UInt8)
  history : List DlnaEvent

/-- A step of one of the parties. -/
inductive DlnaLabel where
  /-- An action is called. -/
  | action (action : DlnaAction)
  /-- The player answers the action's command. -/
  | answered (succeeded : Bool)
  /-- The action writes. -/
  | soap
  /-- The player opens another media. -/
  | opened
  /-- The player delivers an event, `owner` being the lease that the coordinator has then. -/
  | rendererEvent (owner : Option PlayerOwnershipLease) (event : RendererEvent)
  /-- The delivery goes on. -/
  | handler
  /-- The event server answers a request. -/
  | request (method path request : List UInt8) (now : UInt64)
  /-- The event thread goes on. -/
  | worker (now : EventService → UInt64) (sent : Bool)
  /-- `event_server_stop` -/
  | stop

/-! ## Steps -/

/-- What an event of the player maps to, if the module maps it to a transport state. -/
def RendererEvent.transport (event : RendererEvent) : Option (List UInt8 × List UInt8) :=
  match event.type with
  | .stateChanged =>
    if shouldApplyTransportStateFromRenderer event.state then
      some (transportStateFromRendererState event.state,
        transportStatusFromRendererState event.state)
    else none
  | .error => some (asciiBytes "STOPPED", asciiBytes "ERROR_OCCURRED")
  | _ => none

/-- `soap_handler_on_renderer_event` lets the event pass. -/
def rendererEventPasses (owner : Option PlayerOwnershipLease) : Bool :=
  owner.elim true fun lease => lease.owner = .dlna && lease.token = 1

namespace DlnaSystem

variable (s : DlnaSystem)

/-- What the system begins with. -/
def initial : DlnaSystem :=
  ⟨.initial, .initial, .idle, .idle, .waiting, false, none, []⟩

/-- A variable is written. -/
def wrote (write : ProtocolWrite) : DlnaSystem :=
  { s with state := s.state.write write, history := s.history ++ [.wrote write] }

/-- An action is called, when no other is running. -/
def callAction (action : DlnaAction) : DlnaSystem :=
  match s.soap with
  | .idle =>
    if action.needsUri ∧ s.state.text .avTransportUri = [] then s
    else { s with soap := if action.submits then .submitting action else .writing action.writes }
  | _ => s

/-- The command of the action is answered. -/
def answerAction (succeeded : Bool) : DlnaSystem :=
  match s.soap with
  | .submitting action => { s with soap := if succeeded then .writing action.writes else .idle }
  | _ => s

/-- The action writes a variable, or is done. -/
def soapStep : DlnaSystem :=
  match s.soap with
  | .writing (write :: left) => { s.wrote write with soap := .writing left }
  | .writing [] => { s with soap := .idle }
  | _ => s

/-- The player opens another media, between two events. -/
def openMedia : DlnaSystem :=
  match s.handler with
  | .idle => { s with mapped := none }
  | .writing _ _ => s

/-- `soap_handler_on_renderer_event` is called. -/
def callHandler (owner : Option PlayerOwnershipLease) (event : RendererEvent) : DlnaSystem :=
  match s.handler with
  | .idle =>
    if rendererEventPasses owner then
      { s with
        handler := .writing (ProtocolState.onRendererEvent event) event
        mapped := event.transport <|> s.mapped }
    else s
  | .writing _ _ => s

/-- A mark is recorded. -/
def markEvents (event : RendererEvent) : List DlnaEvent :=
  ((EventServer.markedService event.type).map DlnaEvent.marked).toList

/-- The delivery writes a variable, or marks the service and is done. -/
def handlerStep : DlnaSystem :=
  match s.handler with
  | .idle => s
  | .writing (write :: left) event => { s.wrote write with handler := .writing left event }
  | .writing [] event =>
    { s with
      server := s.server.onRendererEvent event
      handler := .idle
      history := s.history ++ markEvents event }

/-- A subscription that has been granted is recorded. -/
def grantEvents (server : EventServer) (service : Option EventService) : List DlnaEvent :=
  if server.granted = s.server.granted then []
  else (service.map (DlnaEvent.subscribed s.server.granted)).toList

/-- The event server answers a request. -/
def answerRequest (method path request : List UInt8) (now : UInt64) : DlnaSystem :=
  let server := (s.server.tryHandleHttp method path request now).2
  { s with server, history := s.history ++ s.grantEvents server (eventServiceFromPath path) }

/-- A service is dirty. -/
def anyDirty : Bool :=
  s.server.dirty .avTransport || s.server.dirty .renderingControl ||
    s.server.dirty .connectionManager

/-- The event thread goes on: `event_thread_main` and `event_send_notify`. -/
def workerStep (now : EventService → UInt64) (sent : Bool) : DlnaSystem :=
  match s.worker with
  | .waiting =>
    if s.stopRequested then { s with worker := .exited, server := { s.server with
      subscriptions := fun _ => none, dirty := fun _ => false } }
    else if s.anyDirty then
      let (targets, server) := s.server.collect now
      { s with server, worker := .sending targets }
    else s
  | .sending [] => { s with worker := .waiting }
  | .sending (target :: left) =>
    if s.stopRequested then { s with worker := .sending [] }
    else { s with worker := .building target (eventVariables target.service) .initial left }
  | .building target (name :: unread) seen left =>
    { s with worker := .building target unread (seen.write (s.state.value name)) left }
  | .building target [] seen left => { s with worker := .delivering target seen left }
  | .delivering target seen left =>
    let body := eventBuildPropertyset target.service seen
    let sent := sent && !s.stopRequested && body.isSome
    { s with worker := .sending left, history := s.history ++ [.attempted target seen body sent] }
  | .exited => s

/-- One step. -/
def step : DlnaLabel → DlnaSystem
  | .action action => s.callAction action
  | .answered succeeded => s.answerAction succeeded
  | .soap => s.soapStep
  | .opened => s.openMedia
  | .rendererEvent owner event => s.callHandler owner event
  | .handler => s.handlerStep
  | .request method path request now => s.answerRequest method path request now
  | .worker now sent => s.workerStep now sent
  | .stop => { s with stopRequested := true }

end DlnaSystem

end NXCast
