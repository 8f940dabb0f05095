import Mathlib.Data.List.Infix
import NXCast.Plist.Decode
import NXCast.Rtsp.Response

/-!
# The AirPlay request handlers

`handlers.c`.  A handler is a program on `AirPlayHandlerState`: the session, its handler
context, the response, and the surroundings `μ` that the callbacks act on; a C function that
returns false stops.  `calls` is the list of callbacks made, with their outcomes.

The callbacks are functions on the surroundings and a parameter of the model, and so are the
cipher primitives behind `fp-setup` and the media key.  The flags that only feed the
diagnostic trace are left out.
-/

namespace NXCast

/-! ## Data -/

/-- `AirPlayRtspSessionState` -/
inductive AirPlayRtspSessionState where
  | connected
  | setup
  | recording
  | closed
deriving DecidableEq, Repr

/-- `AirPlayRtspSession`, without its two contexts. -/
structure AirPlayRtspSession where
  id : UInt64
  logicalSessionId : UInt64
  requestCount : UInt32
  peerIpv4Address : UInt32
  state : AirPlayRtspSessionState
deriving DecidableEq

/-- `AirPlayHandlerSession` -/
structure AirPlayHandlerSession where
  initialSetup : Bool
  mirrorSetup : Bool
  audioSetup : Bool
  recordRequested : Bool
  recordingStarted : Bool
  audioRecordingStarted : Bool
  aesKey : List UInt8
  aesIv : List UInt8
  streamConnectionId : UInt64
deriving DecidableEq

/-- A context as `session_context` creates it. -/
def AirPlayHandlerSession.fresh : AirPlayHandlerSession :=
  ⟨false, false, false, false, false, false, List.replicate 16 0, List.replicate 16 0, 0⟩

/-- `AirPlayTransportSetup` -/
structure AirPlayTransportSetup where
  sessionId : UInt64
  peerIpv4Address : UInt32
  peerTimingPort : UInt16
  usesNtpTiming : Bool
  key : List UInt8
  iv : List UInt8
deriving DecidableEq

/-- `AirPlayFairPlayResult` -/
inductive AirPlayFairPlayResult where
  | ok
  | unsupported
  | invalidMessage
  | invalidState
deriving DecidableEq, Repr

/-- A callback that was made, with what it returned. -/
inductive AirPlayMediaCall where
  | transportPrepare (setup : AirPlayTransportSetup) (timingPort : Option UInt16)
  | mirrorOpen (sessionId : UInt64) (key : List UInt8) (streamConnectionId : UInt64)
      (dataPort : Option UInt16)
  | audioOpen (sessionId : UInt64) (key iv : List UInt8) (compressionType : UInt8)
      (samplesPerFrame : UInt16) (sampleRate : UInt32) (ports : Option (UInt16 × UInt16))
  | audioRecord (sessionId : UInt64) (accepted : Bool)
  | mediaRecord (sessionId : UInt64)
  | mirrorStop (sessionId : UInt64)
  | streamStop (sessionId : UInt64) (video audio : Bool) (stopped : Bool)
deriving DecidableEq

/-- What `airplay_remote_video_route` returns, with the response it leaves. -/
structure AirPlayRemoteVideoRouted where
  routed : Bool
  handled : Bool
  response : AirPlayRtspResponse

/-- `AirPlayHandlersConfig`, with the identity strings `airplay_handlers_create` copies.  A
callback that is not configured is `none`; `deriveSessionKey` is the cipher part of
`derive_session_key`, and `fairplaySetup` is `airplay_fairplay_setup` for the context of a
connection. -/
structure AirPlayHandlersConfig (μ : Type) where
  friendlyName : CString
  deviceId : CString
  pairingId : CString
  publicKey : List UInt8
  features : UInt64
  airplayTxt : List UInt8
  deriveSessionKey : AirPlayRtspSession → List UInt8 → μ → Option (List UInt8) × μ
  fairplaySetup : UInt64 → List UInt8 → μ → (AirPlayFairPlayResult × List UInt8) × μ
  transportPrepareCallback : Option (AirPlayTransportSetup → μ → Option UInt16 × μ)
  mirrorOpenCallback : Option (UInt64 → List UInt8 → UInt64 → μ → Option UInt16 × μ)
  audioOpenCallback : Option (UInt64 → List UInt8 → List UInt8 → UInt8 → UInt16 → UInt32 → μ →
    Option (UInt16 × UInt16) × μ)
  audioRecordCallback : Option (UInt64 → μ → Bool × μ)
  mediaRecordCallback : Option (UInt64 → μ → μ)
  mirrorStopCallback : Option (UInt64 → μ → μ)
  streamStopCallback : Option (UInt64 → Bool → Bool → μ → Bool × μ)
  remoteVideo : Option (UInt64 → AirPlayRtspRequest → AirPlayRtspResponse → μ →
    AirPlayRemoteVideoRouted × μ)

/-- What a handler works on. -/
structure AirPlayHandlerState (μ : Type) where
  session : AirPlayRtspSession
  context : AirPlayHandlerSession
  response : AirPlayRtspResponse
  media : μ
  calls : List AirPlayMediaCall

/-- A handler: it returns, or stops where the source returns false or goes to its cleanup. -/
abbrev HandlerM (μ : Type) := EStateM Unit (AirPlayHandlerState μ)

/-! ## Steps of handlers -/

section Steps

variable {μ α : Type}

/-- Return false. -/
def refuse : HandlerM μ α := throw ()

/-- Go on with what is there. -/
def require : Option α → HandlerM μ α
  | some value => pure value
  | none => refuse

/-- Act on the surroundings without a callback. -/
def outside (body : μ → α × μ) : HandlerM μ α := fun s =>
  .ok (body s.media).1 { s with media := (body s.media).2 }

/-- Make a callback. -/
def callback (body : μ → α × μ) (note : α → AirPlayMediaCall) : HandlerM μ α := fun s =>
  .ok (body s.media).1 { s with
    media := (body s.media).2
    calls := s.calls ++ [note (body s.media).1] }

/-- Change the handler context. -/
def setContext (update : AirPlayHandlerSession → AirPlayHandlerSession) : HandlerM μ Unit :=
  modify fun s => { s with context := update s.context }

/-- Change the state of the session. -/
def setSessionState (state : AirPlayRtspSessionState) : HandlerM μ Unit :=
  modify fun s => { s with session := { s.session with state } }

/-- Build on the response. -/
def respond (build : AirPlayRtspResponse → Option AirPlayRtspResponse) : HandlerM μ Unit :=
  fun s =>
    match build s.response with
    | some response => .ok () { s with response }
    | none => .error () s

/-- `airplay_rtsp_response_set_status` -/
def respondStatus (statusCode : ℕ) : HandlerM μ Unit :=
  respond (AirPlayRtspResponse.setStatus statusCode)

end Steps

/-- `AIRPLAY_PLIST_CONTENT_TYPE` -/
def airplayPlistContentType : String := "application/x-apple-binary-plist"
/-- `AIRPLAY_OCTET_CONTENT_TYPE` -/
def airplayOctetContentType : String := "application/octet-stream"
/-- `AIRPLAY_TEXT_CONTENT_TYPE` -/
def airplayTextContentType : String := "text/parameters"
/-- `AIRPLAY_XML_PLIST_CONTENT_TYPE` -/
def airplayXmlPlistContentType : String := "text/x-apple-plist+xml"

/-- The value of a key that is spelled out. -/
def dictGet (dict : AirPlayPlistValue) (key : String) : Option AirPlayPlistValue :=
  airplayPlistDictGet dict (cstring key)

/-- `dict_set`, for a value whose construction may have failed. -/
def dictSet (key : String) (value : Option AirPlayPlistValue) (dict : AirPlayPlistValue) :
    Option AirPlayPlistValue :=
  value.bind (airplayPlistDictSet dict (cstring key))

/-- `array_append` -/
def arrayAppend (item : Option AirPlayPlistValue) (array : AirPlayPlistValue) :
    Option AirPlayPlistValue :=
  item.bind (airplayPlistArrayAppend array)

variable (root : AirPlayPlistValue)

/-- `set_plist_body` -/
def setPlistBody (response : AirPlayRtspResponse) :
    Option AirPlayRtspResponse :=
  match airplayPlistEncode root with
  | .ok encoded => response.setBody encoded (cstring airplayPlistContentType)
  | .error _ => none

/-- `handler_state_valid`, for a session that has its context. -/
def handlerStateValid (session : AirPlayRtspSession) (context : AirPlayHandlerSession) : Bool :=
  let hasStream := context.mirrorSetup || context.audioSetup
  if (hasStream || context.recordRequested || context.recordingStarted ||
      context.audioRecordingStarted) && !context.initialSetup then false
  else if (context.recordingStarted || context.audioRecordingStarted) &&
      (!hasStream || !context.recordRequested) then false
  else if session.state = .closed then
    !context.initialSetup && !hasStream && !context.recordRequested && !context.recordingStarted
  else if context.initialSetup !=
      (decide (session.state = .setup) || decide (session.state = .recording)) then false
  else context.recordRequested == decide (session.state = .recording)

/-! ## SETUP -/

section Setup

variable {μ : Type}

/-- `decode_dict` -/
def decodeDict (request : AirPlayRtspRequest) : Option AirPlayPlistValue :=
  if contentTypeIs request airplayPlistContentType = false then none
  else
    match airplayPlistDecode request.body with
    | .ok (.dict entries) => some (.dict entries)
    | _ => none

variable (config : AirPlayHandlersConfig μ)

/-- The call of `transport_prepare_callback`, when there is one. -/
def prepareTransport (setup : AirPlayTransportSetup) :
    HandlerM μ UInt16 :=
  match config.transportPrepareCallback with
  | none => pure 0
  | some prepare => do
    let answer ← callback (prepare setup) (.transportPrepare setup)
    require answer

/-- `setup_initial`: the response dictionary it leaves. -/
def setupInitial (root responseRoot : AirPlayPlistValue) :
    HandlerM μ AirPlayPlistValue := do
  let wrappedKey ← require ((dictGet root "ekey").bind airplayPlistGetData)
  let iv ← require ((dictGet root "eiv").bind airplayPlistGetData)
  let entry ← get
  if wrappedKey.length ≠ 72 ∨ iv.length ≠ 16 ∨ entry.context.initialSetup then refuse
  else do
    let key ← outside (config.deriveSessionKey entry.session wrappedKey)
    let key ← require key
    setContext fun context => { context with aesKey := key, aesIv := iv }
    let timingProtocol := (dictGet root "timingProtocol").bind airplayPlistGetString
    let peerTimingPort := ((dictGet root "timingPort").bind airplayPlistGetUint).getD 0
    if peerTimingPort > 0xffff then refuse
    else do
      let setup : AirPlayTransportSetup := {
        sessionId := entry.session.logicalSessionId
        peerIpv4Address := entry.session.peerIpv4Address
        peerTimingPort := peerTimingPort.toUInt16
        usesNtpTiming := decide (peerTimingPort ≠ 0) &&
          timingProtocol.all fun protocol => protocol = cstring "NTP"
        key := key
        iv := iv }
      let timingPort ← prepareTransport config setup
      setContext fun context => { context with initialSetup := true }
      require (dictSet "timingPort" (some (airplayPlistNewUint timingPort.toUInt64)) responseRoot
        >>= dictSet "eventPort" (some (airplayPlistNewUint 0)))

/-- The type 110 branch of `setup_streams`: the stream's response so far, and its port. -/
def setupMirrorStream (stream : AirPlayPlistValue) :
    HandlerM μ (AirPlayPlistValue × UInt16) := do
  let value ← require ((dictGet stream "streamConnectionID").bind airplayPlistGetUint)
  let entry ← get
  if value = 0 ∨ entry.context.mirrorSetup then refuse
  else do
    let mirrorOpen ← require config.mirrorOpenCallback
    let answer ← callback
      (mirrorOpen entry.session.logicalSessionId entry.context.aesKey value)
      (.mirrorOpen entry.session.logicalSessionId entry.context.aesKey value)
    let dataPort ← require answer
    if dataPort = 0 then refuse
    else do
      setContext fun context => { context with streamConnectionId := value, mirrorSetup := true }
      pure (airplayPlistNewDict, dataPort)

/-- The type 96 branch of `setup_streams`. -/
def setupAudioStream (stream : AirPlayPlistValue) :
    HandlerM μ (AirPlayPlistValue × UInt16) := do
  let entry ← get
  if entry.context.audioSetup then refuse
  else do
    let audioOpen ← require config.audioOpenCallback
    let compressionType ← require ((dictGet stream "ct").bind airplayPlistGetUint)
    if compressionType > 0xff then refuse
    else do
      let samplesPerFrame ← require ((dictGet stream "spf").bind airplayPlistGetUint)
      if samplesPerFrame > 0xffff then refuse
      else do
        let sampleRate := ((dictGet stream "sr").bind airplayPlistGetUint).getD 44100
        if sampleRate > 0xffffffff then refuse
        else do
          let answer ← callback
            (audioOpen entry.session.logicalSessionId entry.context.aesKey entry.context.aesIv
              compressionType.toUInt8 samplesPerFrame.toUInt16 sampleRate.toUInt32)
            (.audioOpen entry.session.logicalSessionId entry.context.aesKey entry.context.aesIv
              compressionType.toUInt8 samplesPerFrame.toUInt16 sampleRate.toUInt32)
          let (dataPort, controlPort) ← require answer
          if dataPort = 0 ∨ controlPort = 0 then refuse
          else do
            setContext fun context => { context with audioSetup := true }
            let response ← require (dictSet "controlPort"
              (some (airplayPlistNewUint controlPort.toUInt64)) airplayPlistNewDict)
            pure (response, dataPort)

/-- One of the two passes of `setup_streams` over the list: the streams of the expected type. -/
def setupStreamPass (config : AirPlayHandlersConfig μ) (expectedType : UInt64) :
    List AirPlayPlistValue → AirPlayPlistValue → HandlerM μ AirPlayPlistValue
  | [], responseStreams => pure responseStreams
  | stream :: streams, responseStreams => do
    let type ← require ((dictGet stream "type").bind airplayPlistGetUint)
    if type ≠ 110 ∧ type ≠ 96 then refuse
    else if type ≠ expectedType then setupStreamPass config expectedType streams responseStreams
    else do
      let (response, dataPort) ← (
        if type = 110 then setupMirrorStream config stream else setupAudioStream config stream)
      let responseStreams ← require (arrayAppend
        (dictSet "dataPort" (some (airplayPlistNewUint dataPort.toUInt64)) response
          >>= dictSet "type" (some (airplayPlistNewUint type))) responseStreams)
      setupStreamPass config expectedType streams responseStreams

/-- `setup_streams`: the response dictionary it leaves. -/
def setupStreams (streams responseRoot : AirPlayPlistValue) :
    HandlerM μ AirPlayPlistValue := do
  let entry ← get
  let items ← require (airplayPlistArrayItems streams)
  if entry.context.initialSetup = false ∨ items.length = 0 ∨ items.length > 4 then refuse
  else do
    let responseStreams ← setupStreamPass config 110 items airplayPlistNewArray
    let responseStreams ← setupStreamPass config 96 items responseStreams
    require (dictSet "streams" (some responseStreams) responseRoot)

/-- The block in which `handle_setup` and `handle_record` start recording what is set up and
not recording; false when the audio callback is missing or fails. -/
def startRecording : HandlerM μ Bool := do
  let entry ← get
  if entry.context.mirrorSetup ∧ ¬entry.context.recordingStarted then do
    setContext fun context => { context with recordingStarted := true }
    match config.mediaRecordCallback with
    | none => pure true
    | some record => do
      callback (fun media => ((), record entry.session.logicalSessionId media))
        fun _ => .mediaRecord entry.session.logicalSessionId
      pure true
  else if entry.context.audioSetup ∧ ¬entry.context.audioRecordingStarted then do
    setContext fun context => { context with audioRecordingStarted := true }
    match config.audioRecordCallback with
    | none => pure false
    | some record =>
      callback (record entry.session.logicalSessionId)
        (.audioRecord entry.session.logicalSessionId)
  else pure true

/-- `mirror_stop_callback`, when there is a transport to stop and a callback to stop it. -/
def stopMirror : HandlerM μ Unit := do
  let entry ← get
  match config.mirrorStopCallback with
  | none => pure ()
  | some stop =>
    if entry.context.initialSetup then
      callback (fun media => ((), stop entry.session.logicalSessionId media))
        fun _ => .mirrorStop entry.session.logicalSessionId
    else pure ()

/-- The block in which a failed `handle_setup` and a failed `handle_record` give everything up. -/
def abandonTransport : HandlerM μ Unit := do
  stopMirror config
  setContext fun _ => .fresh
  setSessionState .connected
  respondStatus 461

/-- `handle_setup` up to its last check: whether the recording it may start has started. -/
def setupSteps (request : AirPlayRtspRequest) :
    HandlerM μ Bool := do
  let entry ← get
  let root ← require (decodeDict request)
  let hasInitial := (dictGet root "ekey").isSome || (dictGet root "eiv").isSome
  let streams := dictGet root "streams"
  if hasInitial = false ∧ streams = none then refuse
  else do
    let responseRoot ← (
      if hasInitial then setupInitial config root airplayPlistNewDict
      else pure airplayPlistNewDict)
    let responseRoot ← (match streams with
      | none => pure responseRoot
      | some streams => setupStreams config streams responseRoot)
    respond (setPlistBody responseRoot)
    setSessionState (if entry.session.state = .recording then .recording else .setup)
    let prepared ← get
    if prepared.context.recordRequested then startRecording config else pure true

/-- `handle_setup` up to its `cleanup` label. -/
def setupBody (request : AirPlayRtspRequest) :
    HandlerM μ Unit := do
  let recorded ← setupSteps config request
  let final ← get
  if handlerStateValid final.session final.context && recorded then pure () else refuse

/-- `handle_setup` -/
def handleSetup (request : AirPlayRtspRequest) :
    HandlerM μ Unit := do
  let entry ← get
  if entry.session.state ≠ .connected ∧ entry.session.state ≠ .setup ∧
      entry.session.state ≠ .recording then respondStatus 455
  else do
    let result ← Program.attempt (setupBody config request)
    match result with
    | .ok _ => pure ()
    | .error _ => abandonTransport config

/-! ## RECORD and TEARDOWN -/

/-- `handle_record` -/
def handleRecord : HandlerM μ Unit := do
  let entry ← get
  if (entry.session.state ≠ .setup ∧ entry.session.state ≠ .recording) ∨
      entry.context.initialSetup = false then respondStatus 455
  else do
    setContext fun context => { context with recordRequested := true }
    setSessionState .recording
    let recorded ← startRecording config
    if recorded then do
      respond (AirPlayRtspResponse.addHeader (cstring "Audio-Latency") (cstring "0"))
      respond (AirPlayRtspResponse.addHeader (cstring "Audio-Jack-Status")
        (cstring "connected; type=analog"))
    else abandonTransport config

/-- The types of the streams a TEARDOWN lists, while they have one. -/
def teardownTypes (streams : List AirPlayPlistValue) : Option (List UInt64) :=
  streams.mapM fun stream => (dictGet stream "type").bind airplayPlistGetUint

/-- The selector of a TEARDOWN with a body: the types of its streams, `none` when it is not
valid. -/
def teardownSelector (request : AirPlayRtspRequest) : Option (List UInt64) :=
  match decodeDict request with
  | none => none
  | some root =>
    match dictGet root "streams" with
    | none => some []
    | some streams => (airplayPlistArrayItems streams).bind teardownTypes

/-- The call of `stream_stop_callback` in `handle_teardown`: false when it fails or is missing. -/
def stopStreams (stopVideo stopAudio : Bool) :
    HandlerM μ Bool := do
  let entry ← get
  if stopVideo || stopAudio then
    match config.streamStopCallback with
    | none => pure false
    | some stop =>
      callback (stop entry.session.logicalSessionId stopVideo stopAudio)
        (.streamStop entry.session.logicalSessionId stopVideo stopAudio)
  else pure true

/-- The context once the selected streams are gone. -/
def AirPlayHandlerSession.withoutStreams (context : AirPlayHandlerSession) (video audio : Bool) :
    AirPlayHandlerSession :=
  let context := if video then { context with
      mirrorSetup := false
      recordingStarted := false
      streamConnectionId := 0 }
    else context
  if audio then { context with
    audioSetup := false
    audioRecordingStarted := false }
  else context

/-- `handle_teardown` for the streams of a list. -/
def teardownStreams (video audio : Bool) :
    HandlerM μ Unit := do
  let entry ← get
  let stopped ← stopStreams config (video && entry.context.mirrorSetup)
    (audio && entry.context.audioSetup)
  if stopped then setContext fun context => context.withoutStreams video audio
  else respondStatus 500

/-- `handle_teardown` for the whole session. -/
def teardownSession : HandlerM μ Unit := do
  stopMirror config
  setContext fun context =>
    { AirPlayHandlerSession.fresh with streamConnectionId := context.streamConnectionId }
  setSessionState .closed
  respond fun response => some response.close

/-- `handle_teardown` -/
def handleTeardown (request : AirPlayRtspRequest) :
    HandlerM μ Unit := do
  let selector := if request.bodyLength ≠ 0 then teardownSelector request else some []
  match selector with
  | none => respondStatus 400
  | some types => do
    let entry ← get
    if entry.session.state = .closed then respondStatus 455
    else if types ≠ [] then
      teardownStreams config (decide (110 ∈ types)) (decide (96 ∈ types))
    else teardownSession config

end Setup

/-! ## Information about the receiver -/

/-- `request_qualifies_txt` -/
def requestQualifiesTxt (request : AirPlayRtspRequest) : Bool :=
  contentTypeIs request airplayPlistContentType &&
    match airplayPlistDecode request.body with
    | .ok root =>
      decide ((((dictGet root "qualifier").bind airplayPlistArrayItems).bind (·[0]?)).bind
        airplayPlistGetString = some (cstring "txtAirPlay"))
    | .error _ => false

/-- A string that is spelled out, as a plist value. -/
def plistString (text : String) : Option AirPlayPlistValue := airplayPlistNewString (cstring text)

/-- A number, as a plist value. -/
def plistUint (value : UInt64) : Option AirPlayPlistValue := some (airplayPlistNewUint value)

/-- `add_display_info` -/
def addDisplayInfo : Option AirPlayPlistValue := do
  let display ← dictSet "uuid" (plistString "5f45580b-6a34-45df-9b3f-006e78636173")
    airplayPlistNewDict
  let display ← dictSet "widthPhysical" (plistUint 0) display
  let display ← dictSet "heightPhysical" (plistUint 0) display
  let display ← dictSet "width" (plistUint 1280) display
  let display ← dictSet "height" (plistUint 720) display
  let display ← dictSet "widthPixels" (plistUint 1280) display
  let display ← dictSet "heightPixels" (plistUint 720) display
  let display ← dictSet "rotation" (some (airplayPlistNewBool false)) display
  -- the double nearest to 1/60
  let display ← dictSet "refreshRate" (some (airplayPlistNewReal 0x3f91111111111111)) display
  let display ← dictSet "maxFPS" (plistUint 60) display
  let display ← dictSet "overscanned" (some (airplayPlistNewBool false)) display
  let display ← dictSet "features" (plistUint 14) display
  let displays ← arrayAppend (some display) airplayPlistNewArray
  dictSet "displays" (some displays) root

/-- `new_audio_latency` -/
def newAudioLatency (type : UInt64) : Option AirPlayPlistValue :=
  dictSet "type" (plistUint type) airplayPlistNewDict
    >>= dictSet "inputLatencyMicros" (plistUint 0)
    >>= dictSet "audioType" (plistString "default")
    >>= dictSet "outputLatencyMicros" (plistUint 0)

/-- `new_audio_format` -/
def newAudioFormat (type : UInt64) : Option AirPlayPlistValue :=
  dictSet "type" (plistUint type) airplayPlistNewDict
    >>= dictSet "audioInputFormats" (plistUint 0x3fffffc)
    >>= dictSet "audioOutputFormats" (plistUint 0x3fffffc)

/-- `add_audio_info` -/
def addAudioInfo : Option AirPlayPlistValue := do
  let latencies ← arrayAppend (newAudioLatency 100) airplayPlistNewArray
  let latencies ← arrayAppend (newAudioLatency 101) latencies
  let formats ← arrayAppend (newAudioFormat 100) airplayPlistNewArray
  let formats ← arrayAppend (newAudioFormat 101) formats
  let root ← dictSet "initialVolume" (some (airplayPlistNewReal 0)) root
  let root ← dictSet "audioLatencies" (some latencies) root
  dictSet "audioFormats" (some formats) root

section Routes

variable {μ : Type}

variable (config : AirPlayHandlersConfig μ)

/-- The dictionary of `handle_info`. -/
def infoRoot : Option AirPlayPlistValue := do
  let root ← dictSet "deviceID" (airplayPlistNewString config.deviceId) airplayPlistNewDict
  let root ← dictSet "macAddress" (airplayPlistNewString config.deviceId) root
  let root ← dictSet "pk" (airplayPlistNewData config.publicKey) root
  let root ← dictSet "features" (plistUint config.features) root
  let root ← dictSet "name" (airplayPlistNewString config.friendlyName) root
  let root ← dictSet "pi" (airplayPlistNewString config.pairingId) root
  let root ← dictSet "vv" (plistUint 2) root
  let root ← dictSet "statusFlags" (plistUint 68) root
  let root ← dictSet "keepAliveLowPower" (plistUint 1) root
  let root ← dictSet "keepAliveSendStatsAsBody" (some (airplayPlistNewBool true)) root
  let root ← dictSet "sourceVersion" (plistString "220.68") root
  let root ← dictSet "model" (plistString "AppleTV3,2") root
  let root ← if config.features &&& ((1 : UInt64) <<< 9) ≠ 0 then addAudioInfo root else some root
  if config.features &&& ((1 : UInt64) <<< 7) ≠ 0 then addDisplayInfo root else some root

/-- `handle_info` -/
def handleInfo (request : AirPlayRtspRequest) :
    HandlerM μ Unit :=
  if request.method ≠ cstring "GET" then respondStatus 501
  else
    respond fun response =>
      let root :=
        if requestQualifiesTxt request then
          if config.airplayTxt.length = 0 then none
          else dictSet "txtAirPlay" (airplayPlistNewData config.airplayTxt) airplayPlistNewDict
        else infoRoot config
      match root.bind fun root => setPlistBody root response with
      | some response => some response
      | none => response.setStatus 500

/-- The text of `handle_server_info`. -/
def serverInfoBody : List UInt8 :=
  asciiBytes "<?xml version=\"1.0\" encoding=\"UTF-8\"?>\n" ++
  asciiBytes "<!DOCTYPE plist PUBLIC \"-//Apple//DTD PLIST 1.0//EN\" " ++
  asciiBytes "\"http://www.apple.com/DTDs/PropertyList-1.0.dtd\">\n" ++
  asciiBytes "<plist version=\"1.0\"><dict>" ++
  asciiBytes "<key>features</key><integer>" ++ Decimal.digits 0x27f ++ asciiBytes "</integer>" ++
  asciiBytes "<key>macAddress</key><string>" ++ config.deviceId.bytes ++ asciiBytes "</string>" ++
  asciiBytes "<key>model</key><string>AppleTV3,2</string>" ++
  asciiBytes "<key>osBuildVersion</key><string>12B435</string>" ++
  asciiBytes "<key>protovers</key><string>1.0</string>" ++
  asciiBytes "<key>srcvers</key><string>220.68</string>" ++
  asciiBytes "<key>vv</key><integer>2</integer>" ++
  asciiBytes "<key>deviceid</key><string>" ++ config.deviceId.bytes ++ asciiBytes "</string>" ++
  asciiBytes "</dict></plist>\n"

/-- `handle_server_info` -/
def handleServerInfo (request : AirPlayRtspRequest) :
    HandlerM μ Unit :=
  if request.method ≠ cstring "GET" then respondStatus 405
  else if (serverInfoBody config).length ≥ 1024 then respondStatus 500
  else respond (AirPlayRtspResponse.setBody (serverInfoBody config)
    (cstring airplayXmlPlistContentType))

/-! ## The other endpoints -/

/-- `handle_fairplay` -/
def handleFairplay (request : AirPlayRtspRequest) :
    HandlerM μ Unit := do
  if request.method ≠ cstring "POST" ∨
      contentTypeIs request airplayOctetContentType = false then respondStatus 400
  else do
    let entry ← get
    let (result, output) ← outside (config.fairplaySetup entry.session.id request.body)
    match result with
    | .ok => respond (AirPlayRtspResponse.setBody output (cstring airplayOctetContentType))
    | .unsupported => respondStatus 501
    | .invalidMessage | .invalidState => respondStatus 400

/-- `handle_fairplay_setup2` -/
def handleFairplaySetup2 (request : AirPlayRtspRequest) : HandlerM μ Unit := do
  if request.method ≠ cstring "POST" then respondStatus 405
  else do
    respond (AirPlayRtspResponse.addHeader (cstring "Content-Type")
      (cstring airplayPlistContentType))
    respondStatus 421

/-- `set_property_known` -/
def setPropertyKnown (property : List UInt8) : Bool :=
  ["actionAtItemEnd", "selectedMediaArray", "reverseEndTime", "forwardEndTime",
    "interstitialEvents", "textMarkupArray", "isInterestedInDateRange"].any
      fun known => property = asciiBytes known

/-- The text of `handle_set_property` for a known property. -/
def setPropertyBody : List UInt8 :=
  asciiBytes "<?xml version=\"1.0\" encoding=\"UTF-8\"?>\n" ++
  asciiBytes "<!DOCTYPE plist PUBLIC \"-//Apple//DTD PLIST 1.0//EN\" " ++
  asciiBytes "\"http://www.apple.com/DTDs/PropertyList-1.0.dtd\">\n" ++
  asciiBytes "<plist version=\"1.0\"><dict>" ++
  asciiBytes "<key>errorCode</key><integer>0</integer></dict></plist>\n"

/-- `handle_set_property` -/
def handleSetProperty (request : AirPlayRtspRequest) : HandlerM μ Unit :=
  if request.method ≠ cstring "PUT" ∨ ¬asciiBytes "/setProperty?" <+: request.uri.bytes then
    respondStatus 405
  else if setPropertyKnown (request.uri.bytes.drop 13) then
    respond (AirPlayRtspResponse.setBody setPropertyBody (cstring airplayXmlPlistContentType))
  else pure ()

/-- `handle_get_property` -/
def handleGetProperty (request : AirPlayRtspRequest) : HandlerM μ Unit :=
  if request.method ≠ cstring "POST" then respondStatus 405
  else if ["playbackErrorLog", "playbackAccessLog", "selectedMediaArray"].any
      fun known => request.uri.bytes.drop 13 = asciiBytes known then pure ()
  else respondStatus 501

/-- `handle_audio_mode` -/
def handleAudioMode (request : AirPlayRtspRequest) : HandlerM μ Unit :=
  if request.method ≠ cstring "POST" then respondStatus 400
  else
    match ((decodeDict request).bind fun root => dictGet root "audioMode").bind
      airplayPlistGetString with
    | some mode => if mode.bytes = [] then respondStatus 400 else pure ()
    | none => respondStatus 400

/-- `handle_get_parameter` -/
def handleGetParameter (request : AirPlayRtspRequest) : HandlerM μ Unit :=
  if contentTypeIs request airplayTextContentType = false then respondStatus 400
  else if asciiBytes "volume" <:+: request.body then
    respond (AirPlayRtspResponse.setBody (asciiBytes "volume: 0.000000\r\n")
      (cstring airplayTextContentType))
  else pure ()

/-- The `SET_PARAMETER` branch of `airplay_handlers_route`. -/
def handleSetParameter (request : AirPlayRtspRequest) : HandlerM μ Unit :=
  if request.bodyLength = 0 ∨ contentTypeIs request airplayTextContentType ∨
      contentTypeIs request "application/x-dmap-tagged" ∨ contentTypeIs request "image/jpeg" then
    pure ()
  else respondStatus 400

/-- `handle_reverse` -/
def handleReverse (request : AirPlayRtspRequest) : HandlerM μ Unit := do
  if request.method ≠ cstring "POST" then respondStatus 405
  else if request.protocol ≠ cstring "HTTP/1.1" then respondStatus 400
  else do
    respondStatus 101
    respond (AirPlayRtspResponse.addHeader (cstring "Connection") (cstring "Upgrade"))
    respond (AirPlayRtspResponse.addHeader (cstring "Upgrade") (cstring "PTTH/1.0"))
    respond fun response => some { response with registerReverseConnection := true }

/-! ## The route -/

/-- The methods that need a transport: `GET_PARAMETER`, `SET_PARAMETER`. -/
def whileSetUp (body : HandlerM μ Unit) : HandlerM μ Unit := do
  let entry ← get
  if entry.session.state ≠ .setup ∧ entry.session.state ≠ .recording then respondStatus 455
  else body

/-- `airplay_handlers_route` after the remote video module. -/
def routeMethod (request : AirPlayRtspRequest) :
    HandlerM μ Unit := do
  if request.method = cstring "OPTIONS" then
    respond (AirPlayRtspResponse.addHeader (cstring "Public")
      (cstring "SETUP, RECORD, FLUSH, TEARDOWN, OPTIONS, GET_PARAMETER, SET_PARAMETER"))
  else if request.uri = cstring "/server-info" then handleServerInfo config request
  else if request.uri = cstring "/info" then handleInfo config request
  else if request.uri = cstring "/fp-setup" then handleFairplay config request
  else if request.uri = cstring "/fp-setup2" then handleFairplaySetup2 request
  else if asciiBytes "/setProperty?" <+: request.uri.bytes then handleSetProperty request
  else if asciiBytes "/getProperty?" <+: request.uri.bytes then handleGetProperty request
  else if request.uri = cstring "/feedback" ∧ request.method = cstring "POST" then pure ()
  else if request.uri = cstring "/audioMode" then handleAudioMode request
  else if request.method = cstring "SETUP" then handleSetup config request
  else if request.method = cstring "RECORD" then handleRecord config
  else if request.method = cstring "GET_PARAMETER" then whileSetUp (handleGetParameter request)
  else if request.method = cstring "SET_PARAMETER" then whileSetUp (handleSetParameter request)
  else if request.method = cstring "FLUSH" then do
    let entry ← get
    if entry.session.state = .recording then pure () else respondStatus 455
  else if request.method = cstring "TEARDOWN" then handleTeardown config request
  else respondStatus 501

/-- The remote video step of `airplay_handlers_route`; true when the request was handled. -/
def routeRemoteVideo (request : AirPlayRtspRequest) :
    HandlerM μ Bool := do
  match config.remoteVideo with
  | none => pure false
  | some route => do
    let entry ← get
    let result ← outside (route entry.session.logicalSessionId request entry.response)
    modify fun s => { s with response := result.response }
    if result.routed then pure result.handled else refuse

/-- `airplay_handlers_route`, for a session that has its context. -/
def handlersRoute (request : AirPlayRtspRequest) :
    HandlerM μ Unit := do
  let entry ← get
  if handlerStateValid entry.session entry.context = false then do
    respond fun response => some response.close
    respondStatus 500
  else if request.uri = cstring "/reverse" then handleReverse request
  else do
    let handled ← routeRemoteVideo config request
    if handled then pure () else routeMethod config request

end Routes

/-! ## Connections -/

/-- A connection as the handlers know it: `context` is the `protocol_context` of its session. -/
structure AirPlayHandlerConnection (μ : Type) where
  session : AirPlayRtspSession
  context : Option AirPlayHandlerSession
  media : μ
  calls : List AirPlayMediaCall

namespace AirPlayHandlerConnection

variable {μ : Type}

/-- `airplay_rtsp_session_init`, then `airplay_rtsp_session_set_peer_ipv4`. -/
def init (id : UInt64) (peerIpv4Address : UInt32) (media : μ) : AirPlayHandlerConnection μ :=
  ⟨⟨id, id, 0, peerIpv4Address, .connected⟩, none, media, []⟩

/-- What the handlers work on: `session_context` creates the context if there is none. -/
def enter (connection : AirPlayHandlerConnection μ) (response : AirPlayRtspResponse) :
    AirPlayHandlerState μ :=
  ⟨connection.session, connection.context.getD .fresh, response, connection.media,
    connection.calls⟩

/-- What the handlers leave behind. -/
def leave (s : AirPlayHandlerState μ) : AirPlayHandlerConnection μ :=
  ⟨s.session, some s.context, s.media, s.calls⟩

/-- `airplay_handlers_route`: whether the request was handled, the connection and the response
after it. -/
def route (config : AirPlayHandlersConfig μ) (connection : AirPlayHandlerConnection μ)
    (request : AirPlayRtspRequest) (response : AirPlayRtspResponse) :
    Bool × AirPlayHandlerConnection μ × AirPlayRtspResponse :=
  match handlersRoute config request (connection.enter response) with
  | .ok _ s => (true, leave s, s.response)
  | .error _ s => (false, leave s, s.response)

/-- `airplay_handlers_session_closed` -/
def sessionClosed (config : AirPlayHandlersConfig μ) (connection : AirPlayHandlerConnection μ) :
    AirPlayHandlerConnection μ :=
  let session := { connection.session with state := .closed }
  match connection.context, config.mirrorStopCallback with
  | some context, some stop =>
    if context.initialSetup then
      ⟨session, none, stop session.logicalSessionId connection.media,
        connection.calls ++ [.mirrorStop session.logicalSessionId]⟩
    else ⟨session, none, connection.media, connection.calls⟩
  | _, _ => ⟨session, none, connection.media, connection.calls⟩

end AirPlayHandlerConnection

end NXCast
