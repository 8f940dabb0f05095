import NXCast.Framework.Runs
import NXCast.Mirror.RuntimeCalls
import NXCast.Session.HandlerRuns

/-!
# Handlers and the mirror runtime

The handlers of one connection over the runtime itself: the media callbacks are the runtime's calls.
`Linked` relates the flags of the handler context to the runtime, and `Stuck` is the one state in which
they do not fit together: video and audio were recorded together, the video is gone, and `handle_record`
would start the audio once more, which the runtime takes for a mistake.  A SETUP never gets there.
-/

namespace NXCast

open AirPlayHandlerConnection MirrorMedia

/-! ## The handlers over the runtime -/

/-- Handlers whose media callbacks are the runtime's calls. -/
def mirrorConfig {ν : Type} (base : AirPlayHandlersConfig ν) (ports controlPorts : ℕ → Port) :
    AirPlayHandlersConfig (MirrorMedia ν) where
  friendlyName := base.friendlyName
  deviceId := base.deviceId
  pairingId := base.pairingId
  publicKey := base.publicKey
  features := base.features
  airplayTxt := base.airplayTxt
  deriveSessionKey session wrappedKey media :=
    let (key, rest) := base.deriveSessionKey session wrappedKey media.rest
    (key, { media with rest })
  fairplaySetup id message media :=
    let (result, rest) := base.fairplaySetup id message media.rest
    (result, { media with rest })
  transportPrepareCallback := some fun setup media =>
    media.transportPrepare ports setup.sessionId setup.peerIpv4Address setup.peerTimingPort
      setup.usesNtpTiming
  mirrorOpenCallback := some fun sessionId _ streamConnectionId media =>
    media.open ports sessionId streamConnectionId
  audioOpenCallback := some fun sessionId _ _ compressionType samplesPerFrame sampleRate media =>
    media.audioOpen ports controlPorts sessionId compressionType samplesPerFrame sampleRate
  audioRecordCallback := some fun sessionId media => media.recordAudio sessionId
  mediaRecordCallback := some fun sessionId media => media.record sessionId
  mirrorStopCallback := some fun sessionId media => media.stop sessionId
  streamStopCallback := some fun sessionId video audio media => media.stopStreams sessionId video audio
  remoteVideo := base.remoteVideo.map fun route sessionId request response media =>
    let (routed, rest) := route sessionId request response media.rest
    (routed, { media with rest })

/-- A request for the media of a connection. -/
inductive MediaRequest where
  | setup (request : AirPlayRtspRequest) (response : AirPlayRtspResponse)
  | record (response : AirPlayRtspResponse)
  | teardown (request : AirPlayRtspRequest) (response : AirPlayRtspResponse)

/-- A RECORD. -/
def MediaRequest.isRecord : MediaRequest → Bool
  | .record _ => true
  | _ => false

/-- What a handler leaves of a connection, whether it returns or stops. -/
def AirPlayHandlerConnection.after {μ α : Type} (connection : AirPlayHandlerConnection μ)
    (response : AirPlayRtspResponse) (handler : HandlerM μ α) : AirPlayHandlerConnection μ :=
  match handler (connection.enter response) with
  | .ok _ s => leave s
  | .error _ s => leave s

/-- A request is handled. -/
def AirPlayHandlerConnection.serveMedia {μ : Type} (config : AirPlayHandlersConfig μ)
    (connection : AirPlayHandlerConnection μ) : MediaRequest → AirPlayHandlerConnection μ
  | .setup request response => connection.after response (handleSetup config request)
  | .record response => connection.after response (handleRecord config)
  | .teardown request response => connection.after response (handleTeardown config request)

/-- A connection, and whether a RECORD has come since its transport was set up. -/
structure MirrorRun (ν : Type) where
  connection : AirPlayHandlerConnection (MirrorMedia ν)
  requested : Bool

namespace MirrorRun

variable {ν : Type}

/-- The flags of the handlers. -/
def flags (run : MirrorRun ν) : AirPlayHandlerSession := run.connection.context.getD .fresh

/-- The runtime behind the handlers. -/
def runtime (run : MirrorRun ν) : AirPlayMirrorRuntime := run.connection.media.runtime

/-- A new connection that belongs to a logical session. -/
def start (id sessionId : UInt64) (peerIpv4Address : UInt32) (media : MirrorMedia ν) : MirrorRun ν :=
  ⟨⟨⟨id, sessionId, 0, peerIpv4Address, .connected⟩, none, media, []⟩, false⟩

/-- One request. -/
def step (config : AirPlayHandlersConfig (MirrorMedia ν)) (run : MirrorRun ν) (request : MediaRequest) :
    MirrorRun ν :=
  let connection := AirPlayHandlerConnection.serveMedia config run.connection request
  ⟨connection, (connection.context.getD .fresh).initialSetup && (run.requested || request.isRecord)⟩

end MirrorRun

/-! ## The relation -/

section Linked

variable {ν : Type} {sessionId : UInt64} {requested : Bool} {s : AirPlayHandlerState (MirrorMedia ν)}

/-- No audio was refused when it should have been recorded. -/
def RecordsAccepted (calls : List AirPlayMediaCall) : Prop :=
  ∀ sessionId, AirPlayMediaCall.audioRecord sessionId false ∉ calls

lemma RecordsAccepted.append {calls : List AirPlayMediaCall} (h : RecordsAccepted calls)
    (call : AirPlayMediaCall) (hcall : ∀ sessionId, call ≠ .audioRecord sessionId false) :
    RecordsAccepted (calls ++ [call]) := by
  intro sessionId hmem
  obtain hmem | hmem := List.mem_append.mp hmem
  · exact h sessionId hmem
  · exact hcall sessionId (List.mem_singleton.mp hmem).symm

/-- The flags are those of the runtime; `requested` is that of the recording. -/
structure Linked (sessionId : UInt64) (requested : Bool) (s : AirPlayHandlerState (MirrorMedia ν)) :
    Prop where
  session : s.session.logicalSessionId = sessionId
  coherent : s.context.Coherent
  flag : s.context.recordRequested = requested
  streams : s.context.initialSetup = true →
    s.media.runtime.HoldsStreams sessionId s.context.mirrorSetup s.context.audioSetup
  empty : s.context.initialSetup = false → s.media.runtime.Emptied
  records : s.media.runtime.recording = true → requested = true
  started : s.context.recordingStarted = true ∨ s.context.audioRecordingStarted = true →
    s.media.runtime.recording = true
  accepted : RecordsAccepted s.calls

/-- Between two requests, streams of which a recording was requested are recorded. -/
structure Settled (sessionId : UInt64) (requested : Bool) (s : AirPlayHandlerState (MirrorMedia ν)) :
    Prop extends Linked sessionId requested s where
  complete : requested = true → (s.context.mirrorSetup || s.context.audioSetup) = true →
    s.media.runtime.recording = true

/-- All that is needed of a request that fails. -/
structure Stoppable (sessionId : UInt64) (s : AirPlayHandlerState (MirrorMedia ν)) : Prop where
  session : s.session.logicalSessionId = sessionId
  transport : s.context.initialSetup = true →
    sessionId ≠ 0 ∧ s.media.runtime.transportSessionId = sessionId
  empty : s.context.initialSetup = false → s.media.runtime.Emptied
  accepted : RecordsAccepted s.calls

/-- **Stuck**: the audio is recorded without the handlers' having started it, and no video stands in
front of it. -/
def AirPlayHandlerSession.StuckAt (context : AirPlayHandlerSession) (recording : Bool) : Prop :=
  context.mirrorSetup = false ∧ context.audioSetup = true ∧ context.audioRecordingStarted = false ∧
    recording = true

lemma Linked.stoppable (h : Linked sessionId requested s) : Stoppable sessionId s :=
  ⟨h.session, fun hinit => ⟨(h.streams hinit).nonzero, (h.streams hinit).transport⟩, h.empty,
    h.accepted⟩

lemma Linked.withResponse (h : Linked sessionId requested s) (response : AirPlayRtspResponse) :
    Linked sessionId requested { s with response } :=
  ⟨h.session, h.coherent, h.flag, h.streams, h.empty, h.records, h.started, h.accepted⟩

lemma Settled.withResponse (h : Settled sessionId requested s) (response : AirPlayRtspResponse) :
    Settled sessionId requested { s with response } :=
  ⟨h.toLinked.withResponse response, h.complete⟩

lemma Linked.withState (h : Linked sessionId requested s) (state : AirPlayRtspSessionState) :
    Linked sessionId requested { s with session := { s.session with state } } :=
  ⟨h.session, h.coherent, h.flag, h.streams, h.empty, h.records, h.started, h.accepted⟩

lemma Linked.no_streams (h : Linked sessionId requested s) (hinit : s.context.initialSetup = false) :
    s.context.mirrorSetup = false ∧ s.context.audioSetup = false := by
  constructor
  · by_contra hset
    exact Bool.false_ne_true (hinit.symm.trans (h.coherent.mirror (Bool.eq_true_of_not_eq_false hset)))
  · by_contra hset
    exact Bool.false_ne_true (hinit.symm.trans (h.coherent.audio (Bool.eq_true_of_not_eq_false hset)))

lemma Linked.requested_eq (h : Linked sessionId requested s) :
    (s.context.initialSetup && requested) = requested := by
  cases hasked : requested with
  | false => exact Bool.and_false _
  | true => rw [h.coherent.requested (h.flag.trans hasked), Bool.true_and]

lemma settled_fresh (hsess : s.session.logicalSessionId = sessionId) (streamConnectionId : UInt64)
    (hctx : s.context = { AirPlayHandlerSession.fresh with streamConnectionId })
    (hempty : s.media.runtime.Emptied) (hacc : RecordsAccepted s.calls) :
    Settled sessionId false s := by
  obtain ⟨session, context, response, media, calls⟩ := s
  subst hctx
  refine ⟨⟨hsess, coherent_fresh streamConnectionId, rfl, nofun, fun _ => hempty, ?_, ?_, hacc⟩,
    nofun⟩
  · intro hrec
    exact nomatch hempty.recording.symm.trans hrec
  · rintro (hstart | hstart)
    all_goals cases hstart

end Linked

/-! ## SETUP -/

open Settled

section Setup

open Program

variable {ν : Type} {sessionId : UInt64} {requested : Bool} {base : AirPlayHandlersConfig ν}
  {ports controlPorts : ℕ → Port}

lemma triple_callback_body {μ α : Type} {P : AirPlayHandlerState μ → Prop}
    {Q : α → AirPlayHandlerState μ → Prop} {E : Unit → AirPlayHandlerState μ → Prop}
    {body : μ → α × μ} {note : α → AirPlayMediaCall} (h : ∀ s, P s → Q (body s.media).1
      { s with media := (body s.media).2, calls := s.calls ++ [note (body s.media).1] }) :
    Triple P (callback body note) Q E :=
  h

lemma triple_outside_body {μ α : Type} {P : AirPlayHandlerState μ → Prop}
    {Q : α → AirPlayHandlerState μ → Prop} {E : Unit → AirPlayHandlerState μ → Prop}
    {body : μ → α × μ} (h : ∀ s, P s → Q (body s.media).1 { s with media := (body s.media).2 }) :
    Triple P (outside body) Q E :=
  h

/-- The relation inside a SETUP, and what is known if the recordings are stuck. -/
def SettingUp (sessionId : UInt64) (requested : Bool) (stuck : Prop)
    (s : AirPlayHandlerState (MirrorMedia ν)) : Prop :=
  Linked sessionId requested s ∧ s.context.initialSetup = true ∧
    (s.context.StuckAt s.media.runtime.recording → stuck)

variable {stuck : Prop} {s : AirPlayHandlerState (MirrorMedia ν)}

lemma SettingUp.stoppable (h : SettingUp sessionId requested stuck s) : Stoppable sessionId s :=
  h.1.stoppable

/-- The transport callback of `setup_initial`. -/
lemma linked_prepareTransport (setup : AirPlayTransportSetup) (hsess : setup.sessionId = sessionId) :
    Triple (fun s => Linked sessionId requested s ∧ s.context.initialSetup = false)
      (prepareTransport (mirrorConfig base ports controlPorts) setup)
      (fun _ s => SettingUp sessionId requested False
        { s with context := { s.context with initialSetup := true } })
      (fun _ => Stoppable sessionId) := by
  change Triple _ (callback (fun media : MirrorMedia ν => media.transportPrepare ports setup.sessionId
    setup.peerIpv4Address setup.peerTimingPort setup.usesNtpTiming) (.transportPrepare setup) >>=
      require) _ _
  refine .bind (Q := fun answer s => match answer with
    | some _ => SettingUp sessionId requested False
        { s with context := { s.context with initialSetup := true } }
    | none => Stoppable sessionId s) (triple_callback_body fun s hs => ?_) fun answer => ?_
  · obtain ⟨hs, hinit⟩ := hs
    obtain ⟨hmirror, haudio⟩ := hs.no_streams hinit
    have hleaves := leaves_transportPrepare (hs.empty hinit) ports setup.sessionId
      setup.peerIpv4Address setup.peerTimingPort setup.usesNtpTiming
    generalize s.media.transportPrepare ports setup.sessionId setup.peerIpv4Address
      setup.peerTimingPort setup.usesNtpTiming = result at hleaves ⊢
    obtain ⟨answer, media⟩ := result
    have hacc := hs.accepted.append (.transportPrepare setup answer) nofun
    cases answer with
    | some timingPort =>
      have hholds : media.runtime.HoldsStreams setup.sessionId false false := hleaves
      rw [hsess] at hholds
      have hidle : media.runtime.recording ≠ true := fun hrec =>
        nomatch hholds.held hrec
      refine ⟨⟨hs.session, ⟨fun _ => rfl, fun _ => rfl, fun _ => rfl, hs.coherent.recording,
        hs.coherent.audioRecording⟩, hs.flag, fun _ => ?_, nofun, fun h => absurd h hidle, ?_,
        hacc⟩, rfl, fun hstuck => absurd hstuck.2.2.2 hidle⟩
      · change media.runtime.HoldsStreams sessionId s.context.mirrorSetup s.context.audioSetup
        rw [hmirror, haudio]
        exact hholds
      · rintro (hstart | hstart)
        · exact absurd (hmirror.symm.trans (hs.coherent.recording hstart).1) Bool.false_ne_true
        · exact absurd (haudio.symm.trans (hs.coherent.audioRecording hstart).1) Bool.false_ne_true
    | none =>
      refine ⟨hs.session, fun hset => ?_, fun _ => hleaves, hacc⟩
      exact nomatch hinit.symm.trans hset
  · cases answer with
    | none => exact triple_refuse fun _ => id
    | some timingPort => exact .pure fun _ => id

/-- **`setup_initial`** prepares the transport of a runtime without a session. -/
lemma linked_setupInitial (root responseRoot : AirPlayPlistValue) :
    Triple (Linked sessionId requested)
      (setupInitial (mirrorConfig base ports controlPorts) root responseRoot)
      (fun _ => SettingUp sessionId requested False) (fun _ => Stoppable sessionId) := by
  refine .bind (triple_need fun _ hs => hs.stoppable) fun wrappedKey => ?_
  refine .bind (triple_need fun _ hs => hs.stoppable) fun iv => ?_
  refine .bind .get fun entry => ?_
  refine .ite (fun _ => triple_refuse fun s hs => hs.2.stoppable) fun hguard => ?_
  simp only [not_or, Bool.not_eq_true] at hguard
  refine .of_pre (p := entry.session.logicalSessionId = sessionId)
    (fun s hs => by rw [hs.1]; exact hs.2.session) fun hentry => ?_
  refine .bind (Q := fun _ s => Linked sessionId requested s ∧ s.context.initialSetup = false)
    (triple_outside_body fun s hs => ?_) fun key => ?_
  · obtain ⟨rfl, hs⟩ := hs
    exact ⟨⟨hs.session, hs.coherent, hs.flag, hs.streams, hs.empty, hs.records, hs.started,
      hs.accepted⟩, hguard.2.2⟩
  refine .bind (triple_need fun _ hs => hs.1.stoppable) fun key => ?_
  refine .bind (Q := fun _ s => Linked sessionId requested s ∧ s.context.initialSetup = false)
    (triple_setContext fun s hs => ?_) fun _ => ?_
  · obtain ⟨hs, hinit⟩ := hs
    exact ⟨⟨hs.session, ⟨hs.coherent.mirror, hs.coherent.audio, hs.coherent.requested,
      hs.coherent.recording, hs.coherent.audioRecording⟩, hs.flag, hs.streams, hs.empty, hs.records,
      hs.started, hs.accepted⟩, hinit⟩
  refine .ite (fun _ => triple_refuse fun s hs => hs.1.stoppable) fun _ => ?_
  refine .bind (linked_prepareTransport _ hentry) fun timingPort => ?_
  refine .bind (Q := fun _ => SettingUp sessionId requested False)
    (triple_setContext fun _ => id) fun _ => ?_
  exact triple_need fun _ hs => hs.stoppable

variable (stream : AirPlayPlistValue)

/-- **The type 110 branch** opens the mirror in the runtime and in the flags; then nothing is stuck. -/
lemma linked_setupMirrorStream :
    Triple (SettingUp sessionId requested stuck)
      (setupMirrorStream (mirrorConfig base ports controlPorts) stream)
      (fun _ => SettingUp sessionId requested False) (fun _ => Stoppable sessionId) := by
  refine .bind (triple_need fun _ hs => hs.stoppable) fun value => ?_
  refine .bind .get fun entry => ?_
  refine .ite (fun _ => triple_refuse fun s hs => hs.2.stoppable) fun hguard => ?_
  simp only [not_or, Bool.not_eq_true] at hguard
  have hopen : (require (mirrorConfig base ports controlPorts).mirrorOpenCallback :
      HandlerM (MirrorMedia ν) _) = pure fun sessionId _ streamConnectionId media =>
        media.open ports sessionId streamConnectionId := rfl
  rw [hopen, pure_bind]
  refine .bind (Q := fun answer s => match answer with
    | some _ => SettingUp sessionId requested False { s with context := { s.context with
        streamConnectionId := value, mirrorSetup := true } }
    | none => Stoppable sessionId s) (triple_callback_body fun s hs => ?_) fun answer => ?_
  · obtain ⟨rfl, hs, hinit, -⟩ := hs
    have hholds := hs.streams hinit
    rw [hguard.2] at hholds
    have hleaves := leaves_open hholds ports value
    rw [hs.session]
    dsimp only
    generalize entry.media.open ports sessionId value = result at hleaves ⊢
    obtain ⟨answer, media⟩ := result
    have hacc := hs.accepted.append (.mirrorOpen sessionId entry.context.aesKey value answer) nofun
    cases answer with
    | some port =>
      obtain ⟨hopened, hrec⟩ := hleaves
      refine ⟨⟨hs.session, ⟨fun _ => hinit, hs.coherent.audio, hs.coherent.requested,
        fun h => ⟨rfl, (hs.coherent.recording h).2⟩, hs.coherent.audioRecording⟩, hs.flag,
        fun _ => hopened, fun h => ?_, fun h => ?_, fun h => ?_, hacc⟩, hinit,
        fun hstuck => nomatch hstuck.1⟩
      · exact nomatch h.symm.trans hinit
      · exact hs.records (hrec.symm.trans h)
      · exact hrec.trans (hs.started h)
    | none =>
      refine ⟨hs.session, fun _ => ⟨hholds.nonzero, hleaves⟩, fun h => ?_, hacc⟩
      exact nomatch h.symm.trans hinit
  refine .bind (Q := fun _ s => SettingUp sessionId requested False { s with context := { s.context with
        streamConnectionId := value, mirrorSetup := true } }) ?_ fun dataPort => ?_
  · cases answer with
    | some port => exact .pure fun _ => id
    | none => exact triple_refuse fun _ => id
  refine .ite (fun _ => triple_refuse fun s hs => ?_) fun _ => ?_
  · exact ⟨hs.1.session, hs.stoppable.transport, hs.1.empty, hs.1.accepted⟩
  exact .bind (triple_setContext fun _ => id) fun _ => .pure fun _ => id

/-- **The type 96 branch** opens the audio in the runtime and in the flags.  It is not recorded then,
unless a mirror is. -/
lemma linked_setupAudioStream :
    Triple (SettingUp sessionId requested stuck)
      (setupAudioStream (mirrorConfig base ports controlPorts) stream)
      (fun _ => SettingUp sessionId requested False) (fun _ => Stoppable sessionId) := by
  refine .bind .get fun entry => ?_
  refine .ite (fun _ => triple_refuse fun s hs => hs.2.stoppable) fun hguard => ?_
  rw [Bool.not_eq_true] at hguard
  have hopen : (require (mirrorConfig base ports controlPorts).audioOpenCallback :
      HandlerM (MirrorMedia ν) _) = pure fun sessionId _ _ compressionType samplesPerFrame sampleRate media =>
        media.audioOpen ports controlPorts sessionId compressionType samplesPerFrame sampleRate := rfl
  rw [hopen, pure_bind]
  refine .bind (triple_need fun _ hs => hs.2.stoppable) fun compressionType => ?_
  refine .ite (fun _ => triple_refuse fun s hs => hs.2.stoppable) fun _ => ?_
  refine .bind (triple_need fun _ hs => hs.2.stoppable) fun samplesPerFrame => ?_
  refine .ite (fun _ => triple_refuse fun s hs => hs.2.stoppable) fun _ => ?_
  refine .ite (fun _ => triple_refuse fun s hs => hs.2.stoppable) fun _ => ?_
  refine .bind (Q := fun answer s => match answer with
    | some _ => SettingUp sessionId requested False { s with context := { s.context with
        audioSetup := true } }
    | none => Stoppable sessionId s) (triple_callback_body fun s hs => ?_) fun answer => ?_
  · obtain ⟨rfl, hs, hinit, -⟩ := hs
    have hholds := hs.streams hinit
    rw [hguard] at hholds
    rw [hs.session]
    generalize ((dictGet stream "sr").bind airplayPlistGetUint).getD 44100 = sampleRate
    have hleaves := leaves_audioOpen hholds ports controlPorts compressionType.toUInt8
      samplesPerFrame.toUInt16 sampleRate.toUInt32
    dsimp only
    generalize entry.media.audioOpen ports controlPorts sessionId compressionType.toUInt8
      samplesPerFrame.toUInt16 sampleRate.toUInt32 = result at hleaves ⊢
    obtain ⟨answer, media⟩ := result
    have hacc := hs.accepted.append (.audioOpen sessionId entry.context.aesKey
      entry.context.aesIv compressionType.toUInt8 samplesPerFrame.toUInt16 sampleRate.toUInt32 answer)
      nofun
    cases answer with
    | some opened =>
      obtain ⟨hopened, hrec⟩ := hleaves
      refine ⟨⟨hs.session, ⟨hs.coherent.mirror, fun _ => hinit, hs.coherent.requested,
        hs.coherent.recording, fun h => ⟨rfl, (hs.coherent.audioRecording h).2⟩⟩, hs.flag,
        fun _ => hopened, fun h => ?_, fun h => ?_, fun h => ?_, hacc⟩, hinit, fun hstuck => ?_⟩
      · exact nomatch h.symm.trans hinit
      · exact hs.records (hrec.symm.trans h)
      · exact hrec.trans (hs.started h)
      -- Nothing was open before, so nothing was recorded.
      have hheld := hholds.held (hrec.symm.trans hstuck.2.2.2)
      rw [hstuck.1] at hheld
      exact absurd hheld Bool.false_ne_true
    | none =>
      refine ⟨hs.session, fun _ => ⟨hholds.nonzero, hleaves⟩, fun h => ?_, hacc⟩
      exact nomatch h.symm.trans hinit
  refine .bind (Q := fun _ s => SettingUp sessionId requested False { s with context := { s.context with
        audioSetup := true } }) ?_ fun opened => ?_
  · cases answer with
    | some port => exact .pure fun _ => id
    | none => exact triple_refuse fun _ => id
  refine .ite (fun _ => triple_refuse fun s hs => ?_) fun _ => ?_
  · exact ⟨hs.1.session, hs.stoppable.transport, hs.1.empty, hs.1.accepted⟩
  refine .bind (Q := fun _ => SettingUp sessionId requested False) (triple_setContext fun _ => id)
    fun _ => ?_
  refine .bind (triple_need fun _ hs => hs.stoppable) fun response => ?_
  exact .pure fun _ => id

/-- A stream of a type. -/
def OfType (type : UInt64) (stream : AirPlayPlistValue) : Prop :=
  (dictGet stream "type").bind airplayPlistGetUint = some type

variable (streams : List AirPlayPlistValue)

lemma linked_setupMirrorPass
    (responseStreams : AirPlayPlistValue) :
    Triple (SettingUp sessionId requested stuck)
      (setupStreamPass (mirrorConfig base ports controlPorts) 110 streams responseStreams)
      (fun _ => SettingUp sessionId requested (stuck ∧ ∀ stream ∈ streams, OfType 96 stream))
      (fun _ => Stoppable sessionId) := by
  induction streams generalizing responseStreams stuck with
  | nil => exact .pure fun s hs => ⟨hs.1, hs.2.1, fun h => ⟨hs.2.2 h, nofun⟩⟩
  | cons stream streams ih =>
    refine .bind (Q := fun type s => SettingUp sessionId requested stuck s ∧ OfType type stream)
      (triple_require (fun type htype s hs => ⟨hs, htype⟩) fun _ hs => hs.stoppable) fun type => ?_
    refine .of_pre (fun s hs => hs.2) fun htype => ?_
    refine .ite (fun _ => triple_refuse fun s hs => hs.1.stoppable) fun hknown => ?_
    refine .ite (fun hother => ?_) fun hmirror => ?_
    · have haudio : OfType 96 stream := by
        simp only [not_and, not_not] at hknown
        rw [← hknown hother]
        exact htype
      refine (ih responseStreams).conseq (fun s hs => hs.1) (fun _ s hs => ?_) fun _ _ hs => hs
      refine ⟨hs.1, hs.2.1, fun hstuck => ⟨(hs.2.2 hstuck).1, fun item hitem => ?_⟩⟩
      obtain rfl | hitem := List.mem_cons.mp hitem
      · exact haudio
      · exact (hs.2.2 hstuck).2 item hitem
    · rw [ne_eq, not_not] at hmirror
      rw [if_pos hmirror]
      refine .bind ((linked_setupMirrorStream stream).pre fun s hs => hs.1) fun opened => ?_
      refine .bind (triple_need fun _ hs => hs.stoppable) fun responses => ?_
      exact (ih responses).conseq (fun _ => id)
        (fun _ s hs => ⟨hs.1, hs.2.1, fun hstuck => (hs.2.2 hstuck).1.elim⟩) fun _ _ hs => hs

lemma linked_setupAudioPass (responseStreams : AirPlayPlistValue) :
    Triple (SettingUp sessionId requested (streams ≠ [] ∧ ∀ stream ∈ streams, OfType 96 stream))
      (setupStreamPass (mirrorConfig base ports controlPorts) 96 streams responseStreams)
      (fun _ => SettingUp sessionId requested False) (fun _ => Stoppable sessionId) := by
  induction streams generalizing responseStreams with
  | nil => exact .pure fun s hs => ⟨hs.1, hs.2.1, fun h => (hs.2.2 h).1 rfl⟩
  | cons stream streams ih =>
    have hrest : ∀ s : AirPlayHandlerState (MirrorMedia ν), SettingUp sessionId requested False s →
        SettingUp sessionId requested (streams ≠ [] ∧ ∀ stream ∈ streams, OfType 96 stream) s :=
      fun s hs => ⟨hs.1, hs.2.1, fun hstuck => (hs.2.2 hstuck).elim⟩
    refine .bind (Q := fun type s => SettingUp sessionId requested
      (stream :: streams ≠ [] ∧ ∀ item ∈ stream :: streams, OfType 96 item) s ∧ OfType type stream)
      (triple_require (fun type htype s hs => ⟨hs, htype⟩) fun _ hs => hs.stoppable) fun type => ?_
    refine .of_pre (fun s hs => hs.2) fun htype => ?_
    refine .ite (fun _ => triple_refuse fun s hs => hs.1.stoppable) fun _ => ?_
    refine .ite (fun hother => ?_) fun haudio => ?_
    · refine (ih responseStreams).pre fun s hs => hrest s ⟨hs.1.1, hs.1.2.1, fun hstuck => ?_⟩
      exact hother (Option.some_inj.mp (htype.symm.trans ((hs.1.2.2 hstuck).2 stream (by simp))))
    rw [ne_eq, not_not] at haudio
    subst haudio
    refine .bind ((linked_setupAudioStream stream).pre fun s hs => hs.1) fun opened => ?_
    refine .bind (triple_need fun _ hs => hs.stoppable) fun responses => ?_
    exact (ih responses).pre hrest

/-- **`setup_streams`** opens at least one stream that was not there, so nothing is stuck. -/
lemma linked_setupStreams (streams responseRoot : AirPlayPlistValue) :
    Triple (Linked sessionId requested)
      (setupStreams (mirrorConfig base ports controlPorts) streams responseRoot)
      (fun _ => SettingUp sessionId requested False) (fun _ => Stoppable sessionId) := by
  refine .bind .get fun entry => ?_
  refine .bind (triple_need fun _ hs => hs.2.stoppable) fun items => ?_
  refine .ite (fun _ => triple_refuse fun s hs => hs.2.stoppable) fun hguard => ?_
  simp only [not_or, Bool.not_eq_false] at hguard
  refine .bind (Q := fun _ => SettingUp sessionId requested
    (True ∧ ∀ stream ∈ items, OfType 96 stream)) ?_ fun responseStreams => ?_
  · refine (linked_setupMirrorPass items _).pre fun s hs => ?_
    obtain ⟨rfl, hs⟩ := hs
    exact ⟨hs, hguard.1, fun _ => trivial⟩
  refine .bind (Q := fun _ => SettingUp sessionId requested False)
    ((linked_setupAudioPass items responseStreams).pre fun s hs => ?_) fun responseStreams => ?_
  · refine ⟨hs.1, hs.2.1, fun hstuck => ⟨?_, (hs.2.2 hstuck).2⟩⟩
    rintro rfl
    exact hguard.2.1 rfl
  exact triple_need fun _ hs => hs.stoppable

/-! ## Recording and stopping -/

lemma SettingUp.recorded (h : SettingUp sessionId requested False s)
    (hasked : s.context.recordRequested) (hmirror : s.context.mirrorSetup) :
    Settled sessionId requested { s with
      context := { s.context with recordingStarted := true }
      media := s.media.record sessionId
      calls := s.calls ++ [.mediaRecord sessionId] } := by
  obtain ⟨h, hinit, -⟩ := h
  have hholds := h.streams hinit
  rw [hmirror] at hholds
  obtain ⟨hrecorded, hrec⟩ := record_spec hholds
  refine ⟨⟨h.session, ⟨h.coherent.mirror, h.coherent.audio, h.coherent.requested,
    fun _ => ⟨hmirror, hasked⟩, h.coherent.audioRecording⟩, h.flag, fun _ => ?_, fun hset => ?_,
    fun _ => h.flag.symm.trans hasked, fun _ => hrec, h.accepted.append _ nofun⟩,
    fun _ _ => hrec⟩
  · change (s.media.record sessionId).runtime.HoldsStreams sessionId s.context.mirrorSetup
      s.context.audioSetup
    rw [hmirror]
    exact hrecorded
  · exact nomatch hset.symm.trans hinit

/-- The audio is recorded; the runtime does not refuse, for its recording is that of a mirror. -/
lemma SettingUp.audioRecorded (h : SettingUp sessionId requested False s)
    (hasked : s.context.recordRequested) (haudio : s.context.audioSetup)
    (hidle : s.context.audioRecordingStarted = false)
    (hmirror : s.context.mirrorSetup → s.context.recordingStarted) :
    Settled sessionId requested { s with
      context := { s.context with audioRecordingStarted := true }
      media := (s.media.recordAudio sessionId).2
      calls := s.calls ++ [.audioRecord sessionId (s.media.recordAudio sessionId).1] } := by
  obtain ⟨h, hinit, hstuck⟩ := h
  have hholds := h.streams hinit
  have hvideo : s.media.runtime.recording = s.context.mirrorSetup := by
    cases hset : s.context.mirrorSetup with
    | true => exact h.started (.inl (hmirror hset))
    | false =>
      by_contra hrec
      exact hstuck ⟨hset, haudio, hidle, Bool.eq_true_of_not_eq_false hrec⟩
  rw [haudio] at hholds
  obtain ⟨hacc, hrecorded, hrec⟩ := recordAudio_spec hholds hvideo
  refine ⟨⟨h.session, ⟨h.coherent.mirror, h.coherent.audio, h.coherent.requested,
    h.coherent.recording, fun _ => ⟨haudio, hasked⟩⟩, h.flag, fun _ => ?_, fun hset => ?_,
    fun _ => h.flag.symm.trans hasked, fun _ => hrec, ?_⟩, fun _ _ => hrec⟩
  · change (s.media.recordAudio sessionId).2.runtime.HoldsStreams sessionId s.context.mirrorSetup
      s.context.audioSetup
    rw [haudio]
    exact hrecorded
  · exact nomatch hset.symm.trans hinit
  · refine h.accepted.append _ fun sessionId hcall => ?_
    rw [hacc] at hcall
    cases hcall

variable {E : Unit → AirPlayHandlerState (MirrorMedia ν) → Prop}

/-- **Recording starts** without a refusal. -/
lemma linked_startRecording :
    Triple (fun s => SettingUp sessionId requested False s ∧ s.context.recordRequested)
      (startRecording (mirrorConfig base ports controlPorts))
      (fun _ s => Settled sessionId requested s ∧ s.context.initialSetup) E := by
  refine .bind .get fun entry => ?_
  refine .ite (fun hmirror => ?_) fun hidle => .ite (fun haudio => ?_) fun hnone => ?_
  · refine .bind (Q := fun _ s => SettingUp sessionId requested False entry ∧
      entry.context.recordRequested ∧
      s = { entry with context := { entry.context with recordingStarted := true } })
      (triple_setContext fun s hs => ?_) fun _ => ?_
    · obtain ⟨rfl, hs, hasked⟩ := hs
      exact ⟨hs, hasked, rfl⟩
    change Triple _ (callback (fun media : MirrorMedia ν => ((),
      media.record entry.session.logicalSessionId)) (fun _ => .mediaRecord
        entry.session.logicalSessionId) >>= fun _ => pure true) _ _
    refine .bind (Q := fun _ s => Settled sessionId requested s ∧ s.context.initialSetup)
      (triple_callback_body fun s hs => ?_) fun _ => .pure fun _ => id
    obtain ⟨hentry, hasked, rfl⟩ := hs
    rw [hentry.1.session]
    exact ⟨hentry.recorded hasked hmirror.1, hentry.2.1⟩
  · simp only [not_and, not_not] at hidle
    refine .bind (Q := fun _ s => SettingUp sessionId requested False entry ∧
      entry.context.recordRequested ∧
      s = { entry with context := { entry.context with audioRecordingStarted := true } })
      (triple_setContext fun s hs => ?_) fun _ => ?_
    · obtain ⟨rfl, hs, hasked⟩ := hs
      exact ⟨hs, hasked, rfl⟩
    change Triple _ (callback (fun media : MirrorMedia ν =>
      media.recordAudio entry.session.logicalSessionId)
      (.audioRecord entry.session.logicalSessionId)) _ _
    refine triple_callback_body fun s hs => ?_
    obtain ⟨hentry, hasked, rfl⟩ := hs
    rw [hentry.1.session]
    exact ⟨hentry.audioRecorded hasked haudio.1 (Bool.eq_false_of_not_eq_true haudio.2) hidle,
      hentry.2.1⟩
  · simp only [not_and, not_not] at hidle hnone
    refine .pure fun s hs => ?_
    obtain ⟨rfl, ⟨hs, hinit, -⟩, -⟩ := hs
    refine ⟨⟨hs, fun _ hsome => ?_⟩, hinit⟩
    obtain hmirror | haudio := (Bool.or_eq_true _ _).mp hsome
    · exact hs.started (.inl (hidle hmirror))
    · exact hs.started (.inr (hnone haudio))

/-- **Stopping the mirror** leaves a runtime without a session. -/
lemma linked_stopMirror :
    Triple (Stoppable sessionId) (stopMirror (mirrorConfig base ports controlPorts))
      (fun _ s => s.session.logicalSessionId = sessionId ∧ s.media.runtime.Emptied ∧
        RecordsAccepted s.calls) E := by
  refine .bind .get fun entry => ?_
  change Triple _ (if entry.context.initialSetup then
      callback (fun media : MirrorMedia ν => ((), media.stop entry.session.logicalSessionId))
        fun _ => .mirrorStop entry.session.logicalSessionId
    else pure ()) _ _
  refine .ite (fun hinit => triple_callback_body fun s hs => ?_) fun hinit => .pure fun s hs => ?_
  · obtain ⟨rfl, hs⟩ := hs
    obtain ⟨hnonzero, htrans⟩ := hs.transport hinit
    rw [hs.session]
    exact ⟨rfl, emptied_stop hnonzero htrans, hs.accepted.append _ nofun⟩
  · obtain ⟨rfl, hs⟩ := hs
    exact ⟨hs.session, hs.empty (Bool.eq_false_of_not_eq_true hinit), hs.accepted⟩

/-- Between two requests, with what a run remembers of the RECORDs. -/
def Rests (sessionId : UInt64) (requested : Bool) (s : AirPlayHandlerState (MirrorMedia ν)) : Prop :=
  Settled sessionId (s.context.initialSetup && requested) s

lemma Settled.rests (h : Settled sessionId requested s) : Rests sessionId requested s := by
  unfold Rests
  rw [h.requested_eq]
  exact h

/-- **Giving up** leaves a runtime without a session. -/
lemma linked_abandonTransport :
    Triple (Stoppable sessionId) (abandonTransport (mirrorConfig base ports controlPorts))
      (fun _ => Rests sessionId requested) (fun _ => Rests sessionId requested) := by
  refine .bind linked_stopMirror fun _ => ?_
  refine .bind (Q := fun _ s => s.session.logicalSessionId = sessionId ∧ s.media.runtime.Emptied ∧
      RecordsAccepted s.calls ∧ s.context = .fresh)
    (triple_setContext fun s hs => ⟨hs.1, hs.2.1, hs.2.2, rfl⟩) fun _ => ?_
  refine .bind (Q := fun _ => Rests sessionId requested)
    (triple_setSessionState fun s hs => ?_) fun _ => ?_
  · obtain ⟨hsess, hempty, hacc, hctx⟩ := hs
    rw [hctx]
    exact settled_fresh hsess 0 rfl hempty hacc
  · exact triple_respond (fun s hs response => withResponse hs response) fun _ => id

variable (request : AirPlayRtspRequest)

/-- **A SETUP**, up to its last check, keeps the relation or can be stopped. -/
lemma linked_setupSteps :
    Triple (Linked sessionId requested) (setupSteps (mirrorConfig base ports controlPorts) request)
      (fun _ s => Settled sessionId requested s ∧ s.context.initialSetup)
      (fun _ => Stoppable sessionId) := by
  refine .bind .get fun entry => ?_
  refine .bind (Q := fun _ => Linked sessionId requested)
    (triple_require (fun _ _ s hs => hs.2) fun s hs => hs.2.stoppable) fun root => ?_
  refine .ite (fun _ => triple_refuse fun _ hs => hs.stoppable) fun hsome => ?_
  generalize ((dictGet root "ekey").isSome || (dictGet root "eiv").isSome) = hasInitial at hsome ⊢
  refine .bind (Q := fun _ s => Linked sessionId requested s ∧
    (hasInitial → SettingUp sessionId requested False s)) ?_ fun responseRoot => ?_
  · refine .ite (fun _ => ?_) fun hnone => .pure fun s hs => ⟨hs, fun hset => absurd hset hnone⟩
    exact (linked_setupInitial root airplayPlistNewDict).conseq (fun _ hs => hs)
      (fun _ _ hs => ⟨hs.1, fun _ => hs⟩) fun _ _ hs => hs
  refine .bind (Q := fun _ => SettingUp sessionId requested False) ?_ fun responseRoot => ?_
  · split
    · rename_i hstrs
      refine .pure fun s hs => hs.2 ?_
      exact Bool.eq_true_of_not_eq_false fun hnone => hsome ⟨hnone, hstrs⟩
    · exact (linked_setupStreams _ responseRoot).pre fun _ hs => hs.1
  refine .bind (Q := fun _ => SettingUp sessionId requested False)
    (triple_respond (fun s hs response => ⟨hs.1.withResponse response, hs.2⟩)
      fun s hs => hs.stoppable) fun _ => ?_
  refine .bind (Q := fun _ => SettingUp sessionId requested False)
    (triple_setSessionState fun s hs => ⟨hs.1.withState _, hs.2⟩) fun _ => ?_
  refine .bind .get fun prepared => ?_
  refine .ite (fun hasked => ?_) fun hidle => .pure fun s hs => ?_
  · refine linked_startRecording.pre fun s hs => ?_
    obtain ⟨rfl, hs⟩ := hs
    exact ⟨hs, hasked⟩
  · obtain ⟨rfl, hs, hinit, -⟩ := hs
    exact ⟨⟨hs, fun hasked => absurd (hs.flag.trans hasked) hidle⟩, hinit⟩

/-- **`handle_setup`** keeps the relation. -/
lemma linked_handleSetup :
    Triple (Settled sessionId requested) (handleSetup (mirrorConfig base ports controlPorts) request)
      (fun _ => Rests sessionId requested) (fun _ => Rests sessionId requested) := by
  refine .bind .get fun entry => ?_
  refine .ite (fun _ => triple_respond (fun s hs response => (hs.2.withResponse response).rests)
    fun s hs => hs.2.rests) fun _ => ?_
  have hbody : Triple (Linked sessionId requested)
      (setupBody (mirrorConfig base ports controlPorts) request)
      (fun _ => Rests sessionId requested) (fun _ => Stoppable sessionId) := by
    refine .bind (linked_setupSteps request) fun recorded => ?_
    refine .bind .get fun final => ?_
    exact .ite (fun _ => .pure fun s hs => hs.2.1.rests)
      fun _ => triple_refuse fun s hs => hs.2.1.stoppable
  refine .bind ((Triple.attempt hbody).pre fun s hs => hs.2.toLinked) fun result => ?_
  cases result with
  | ok _ => exact .pure fun _ => id
  | error _ => exact linked_abandonTransport

end Setup

/-! ## RECORD and TEARDOWN -/

section Record

open Program

variable {ν : Type} {sessionId : UInt64} {requested : Bool} {base : AirPlayHandlersConfig ν}
  {ports controlPorts : ℕ → Port}

/-- The audio that a RECORD would start is recorded already. -/
def AirPlayHandlerSession.Stuck (context : AirPlayHandlerSession) : Prop :=
  context.StuckAt context.recordRequested

/-- **`handle_record`** keeps the relation, unless it is stuck. -/
lemma linked_handleRecord :
    Triple (fun s => Settled sessionId requested s ∧ InPhase s.session s.context ∧ ¬s.context.Stuck)
      (handleRecord (mirrorConfig base ports controlPorts))
      (fun _ => Rests sessionId true) (fun _ => Rests sessionId true) := by
  refine .bind .get fun entry => ?_
  refine .ite (fun hguard => ?_) fun hguard => ?_
  · have hrests : ∀ s : AirPlayHandlerState (MirrorMedia ν), entry = s ∧ Settled sessionId requested s ∧
        InPhase s.session s.context ∧ ¬s.context.Stuck → Rests sessionId true s := by
      rintro s ⟨rfl, hs, hphase, -⟩
      have hinit : entry.context.initialSetup = false := by
        by_contra hset
        have hset := Bool.eq_true_of_not_eq_false hset
        obtain hstate | hinit := hguard
        · obtain hstate' | hstate' := hphase.setup.mp hset
          · exact hstate.1 hstate'
          · exact hstate.2 hstate'
        · exact nomatch hinit.symm.trans hset
      have hidle : requested = false := by
        rw [← hs.requested_eq, hinit, Bool.false_and]
      unfold Rests
      rw [hinit, Bool.false_and, ← hidle]
      exact hs
    exact triple_respond (fun s hs response => withResponse (hrests s hs) response) hrests
  · simp only [not_or, Bool.not_eq_false] at hguard
    refine .bind (Q := fun _ s => SettingUp sessionId true False s ∧ s.context.recordRequested)
      (triple_setContext fun s hs => ?_) fun _ => ?_
    · obtain ⟨rfl, hs, -, hstuck⟩ := hs
      refine ⟨⟨⟨hs.session, ⟨hs.coherent.mirror, hs.coherent.audio, fun _ => hguard.2,
        fun h => ⟨(hs.coherent.recording h).1, rfl⟩, fun h => ⟨(hs.coherent.audioRecording h).1, rfl⟩⟩,
        rfl, hs.streams, hs.empty, fun _ => rfl, hs.started, hs.accepted⟩, hguard.2, fun h => ?_⟩, rfl⟩
      refine hstuck ⟨h.1, h.2.1, h.2.2.1, ?_⟩
      exact hs.flag.trans (hs.records h.2.2.2)
    refine .bind (Q := fun _ s => SettingUp sessionId true False s ∧ s.context.recordRequested)
      (triple_setSessionState fun s hs => ⟨⟨hs.1.1.withState _, hs.1.2⟩, hs.2⟩) fun _ => ?_
    refine .bind linked_startRecording fun recorded => ?_
    refine .ite (fun _ => ?_) fun _ => ?_
    · refine .bind (Q := fun _ => Settled sessionId true)
        (triple_respond (fun s hs response => hs.1.withResponse response) fun s hs => hs.1.rests)
        fun _ => ?_
      exact triple_respond (fun s hs response => (hs.withResponse response).rests) fun s hs => hs.rests
    · exact linked_abandonTransport.pre fun s hs => hs.1.stoppable

lemma Settled.withoutStreams {s : AirPlayHandlerState (MirrorMedia ν)}
    (h : Settled sessionId requested s) (video audio : Bool) {media : MirrorMedia ν}
    {calls : List AirPlayMediaCall}
    (hstrs : s.context.initialSetup → media.runtime.HoldsStreams sessionId (!video && s.context.mirrorSetup) (!audio && s.context.audioSetup))
    (hempty : s.context.initialSetup = false → media.runtime.Emptied)
    (hrec : (!video && s.context.mirrorSetup || !audio && s.context.audioSetup) → media.runtime.recording = s.media.runtime.recording)
    (hacc : RecordsAccepted calls) :
    Settled sessionId requested
      { s with context := s.context.withoutStreams video audio, media, calls } := by
  refine ⟨⟨h.session, h.coherent.withoutStreams video audio, ?_, ?_, ?_, ?_, ?_, hacc⟩, ?_⟩
  · simpa using h.flag
  · simpa using hstrs
  · simpa using hempty
  · intro hrecords
    change media.runtime.recording = true at hrecords
    cases hinit : s.context.initialSetup with
    | false => exact absurd ((hempty hinit).recording.symm.trans hrecords) Bool.false_ne_true
    | true =>
      have hleft := (hstrs hinit).held hrecords
      exact h.records ((hrec hleft).symm.trans hrecords)
  · intro hstart
    change media.runtime.recording = true
    simp only [withoutStreams_recordingStarted, withoutStreams_audioRecordingStarted,
      Bool.and_eq_true] at hstart
    obtain hstart | hstart := hstart
    · rw [hrec (by simp [hstart.1, (h.coherent.recording hstart.2).1])]
      exact h.started (.inl hstart.2)
    · rw [hrec (by simp [hstart.1, (h.coherent.audioRecording hstart.2).1])]
      exact h.started (.inr hstart.2)
  · intro hasked hleft
    change media.runtime.recording = true
    simp only [withoutStreams_mirrorSetup, withoutStreams_audioSetup] at hleft
    rw [hrec hleft]
    refine h.complete hasked ?_
    simp only [Bool.or_eq_true, Bool.and_eq_true] at hleft ⊢
    exact hleft.imp And.right And.right

/-- **A TEARDOWN of streams** takes them from both sides, or leaves them on both. -/
lemma linked_teardownStreams (video audio : Bool) :
    Triple (Settled sessionId requested)
      (teardownStreams (mirrorConfig base ports controlPorts) video audio)
      (fun _ => Rests sessionId requested) (fun _ => Rests sessionId requested) := by
  refine .bind .get fun entry => ?_
  refine .bind (Q := fun stopped s => if stopped then
      Settled sessionId requested { s with context := s.context.withoutStreams video audio }
    else Settled sessionId requested s) ?_ fun stopped => ?_
  · unfold stopStreams
    refine .bind .get fun found => ?_
    refine .ite (fun hsome => ?_) fun hnone => .pure fun s hs => ?_
    · change Triple _ (callback (fun media : MirrorMedia ν => media.stopStreams
        found.session.logicalSessionId (video && entry.context.mirrorSetup)
          (audio && entry.context.audioSetup)) _) _ _
      refine triple_callback_body fun s hs => ?_
      obtain ⟨rfl, rfl, hs⟩ := hs
      have hinit : entry.context.initialSetup := by
        simp only [Bool.or_eq_true, Bool.and_eq_true] at hsome
        obtain hmirror | haudio := hsome
        · exact hs.coherent.mirror hmirror.2
        · exact hs.coherent.audio haudio.2
      have hleft (stop set : Bool) : (set && !(stop && set)) = (!stop && set) := by
        cases stop <;> cases set <;> rfl
      obtain ⟨hholds, hrec⟩ := stopStreams_spec (hs.streams hinit)
        (video && entry.context.mirrorSetup) (audio && entry.context.audioSetup)
      rw [hs.session]
      generalize entry.media.stopStreams sessionId (video && entry.context.mirrorSetup)
        (audio && entry.context.audioSetup) = result at hholds hrec ⊢
      obtain ⟨stopped, media⟩ := result
      have hacc := hs.accepted.append (.streamStop sessionId (video && entry.context.mirrorSetup)
        (audio && entry.context.audioSetup) stopped) nofun
      have hempty : ∀ runtime : AirPlayMirrorRuntime, entry.context.initialSetup = false →
          runtime.Emptied :=
        fun _ hset => nomatch hset.symm.trans hinit
      cases stopped with
      | true =>
        simp only [if_true, hleft] at hholds hrec
        exact hs.withoutStreams video audio (fun _ => hholds) (hempty _) hrec hacc
      | false =>
        change media.runtime.HoldsStreams sessionId entry.context.mirrorSetup
          entry.context.audioSetup at hholds
        change ((entry.context.mirrorSetup || entry.context.audioSetup) →
          media.runtime.recording = entry.media.runtime.recording) at hrec
        refine hs.withoutStreams false false (fun _ => ?_) (hempty _) ?_ hacc
        · simpa using hholds
        · simpa using hrec
    · obtain ⟨rfl, rfl, hs⟩ := hs
      have hkept : (!video && entry.context.mirrorSetup) = entry.context.mirrorSetup ∧
          (!audio && entry.context.audioSetup) = entry.context.audioSetup := by
        revert hnone
        cases video <;> cases audio <;> simp
      refine hs.withoutStreams video audio ?_ hs.empty (fun _ => rfl) hs.accepted
      rw [hkept.1, hkept.2]
      exact hs.streams
  · cases stopped with
    | true =>
      exact .ite (fun _ => triple_setContext fun s hs => rests hs) fun hstop => absurd rfl hstop
    | false =>
      refine .ite (nofun) fun _ => ?_
      exact triple_respond (fun s hs response => (withResponse hs response).rests)
        fun s hs => rests hs

/-- **A TEARDOWN of the session** leaves a runtime without one. -/
lemma linked_teardownSession :
    Triple (Settled sessionId requested) (teardownSession (mirrorConfig base ports controlPorts))
      (fun _ => Rests sessionId requested) (fun _ => Rests sessionId requested) := by
  refine .bind (linked_stopMirror.pre fun s hs => hs.stoppable) fun _ => ?_
  refine .bind (Q := fun _ s => s.session.logicalSessionId = sessionId ∧ s.media.runtime.Emptied ∧
      RecordsAccepted s.calls ∧ ∃ streamConnectionId,
        s.context = { AirPlayHandlerSession.fresh with streamConnectionId })
    (triple_setContext fun s hs => ⟨hs.1, hs.2.1, hs.2.2, _, rfl⟩) fun _ => ?_
  refine .bind (Q := fun _ => Rests sessionId requested) (triple_setSessionState fun s hs => ?_)
    fun _ => ?_
  · obtain ⟨hsess, hempty, hacc, streamConnectionId, hctx⟩ := hs
    rw [hctx]
    exact settled_fresh hsess streamConnectionId rfl hempty hacc
  · exact triple_respond (fun s hs response => withResponse hs response) fun _ => id

/-- **`handle_teardown`** keeps the relation. -/
lemma linked_handleTeardown (request : AirPlayRtspRequest) :
    Triple (Settled sessionId requested)
      (handleTeardown (mirrorConfig base ports controlPorts) request)
      (fun _ => Rests sessionId requested) (fun _ => Rests sessionId requested) := by
  unfold handleTeardown
  dsimp only
  have hstat (statusCode : ℕ) :
      Triple (Settled (ν := ν) sessionId requested) (respondStatus statusCode)
        (fun _ => Rests sessionId requested) (fun _ => Rests sessionId requested) :=
    triple_respond (fun s hs response => (hs.withResponse response).rests) fun s hs => hs.rests
  split
  · exact hstat 400
  refine .bind .get fun entry => ?_
  refine .ite (fun _ => (hstat 455).pre fun s hs => hs.2) fun _ => ?_
  refine .ite (fun _ => (linked_teardownStreams _ _).pre fun s hs => hs.2) fun _ => ?_
  exact linked_teardownSession.pre fun s hs => hs.2

end Record

/-! ## Runs -/

section Runs

open Program

variable {ν : Type} {sessionId : UInt64} {base : AirPlayHandlersConfig ν} {ports controlPorts : ℕ → Port}

instance (context : AirPlayHandlerSession) : Decidable context.Stuck :=
  inferInstanceAs (Decidable (_ ∧ _))

/-- No RECORD while it is stuck. -/
def MirrorRun.Unstuck (run : MirrorRun ν) (request : MediaRequest) : Prop :=
  request.isRecord = true → ¬run.flags.Stuck

instance (run : MirrorRun ν) (request : MediaRequest) : Decidable (run.Unstuck request) :=
  inferInstanceAs (Decidable (_ → _))

/-- **The agreement**: the flags say which receivers the runtime holds for the session, a receiver records
exactly if a RECORD has come since the transport was set up, and the runtime has refused to record no
audio, which is what the session would be torn down for. -/
structure MirrorRun.Agrees (sessionId : UInt64) (run : MirrorRun ν) : Prop where
  mirror : run.flags.mirrorSetup = true ↔
    run.runtime.mirror.isSome = true ∧ run.runtime.sessionId = sessionId
  audio : run.flags.audioSetup = true ↔
    run.runtime.audio.isSome = true ∧ run.runtime.sessionId = sessionId
  mirrorRecording : ∀ receiver, run.runtime.mirror = some receiver →
    (receiver.recording = true ↔ run.requested = true)
  audioRecording : ∀ receiver, run.runtime.audio = some receiver →
    (receiver.recording = true ↔ run.requested = true)
  accepted : RecordsAccepted run.connection.calls

lemma after_eq {μ α : Type} (connection : AirPlayHandlerConnection μ) (response : AirPlayRtspResponse)
    (handler : HandlerM μ α) :
    ∃ s, connection.after response handler = .leave s ∧
      ∀ P Q : AirPlayHandlerState μ → Prop, Triple P handler (fun _ => Q) (fun _ => Q) →
        P (connection.enter response) → Q s := by
  unfold after
  cases hrun : handler (connection.enter response) with
  | ok a s =>
    refine ⟨s, rfl, fun P Q htriple hP => ?_⟩
    have hpost := htriple _ hP
    rw [hrun] at hpost
    exact hpost
  | error e s =>
    refine ⟨s, rfl, fun P Q htriple hP => ?_⟩
    have hpost := htriple _ hP
    rw [hrun] at hpost
    exact hpost

/-- The invariant of a run. -/
structure MirrorRun.Invariant (config : AirPlayHandlersConfig (MirrorMedia ν)) (sessionId : UInt64)
    (run : MirrorRun ν) : Prop where
  resting : run.connection.Resting config
  settled : ∀ response, Settled sessionId run.requested (run.connection.enter response)

variable {run : MirrorRun ν}

section

variable (h : run.Invariant (mirrorConfig base ports controlPorts) sessionId)

include h

lemma MirrorRun.Invariant.after {requested : Bool} {α : Type} {handler : HandlerM (MirrorMedia ν) α}
    (response : AirPlayRtspResponse) (hrest : Triple (AtRest (mirrorConfig base ports controlPorts))
      handler (fun _ => AtRest (mirrorConfig base ports controlPorts))
      (fun _ => AtRest (mirrorConfig base ports controlPorts)))
    (hlinked : Triple (fun s => s = run.connection.enter response)
      handler (fun _ => Rests sessionId requested) (fun _ => Rests sessionId requested)) :
    let connection := run.connection.after response handler
    MirrorRun.Invariant (mirrorConfig base ports controlPorts) sessionId
      ⟨connection, (connection.context.getD .fresh).initialSetup && requested⟩ := by
  obtain ⟨s, hleave, hs⟩ := after_eq run.connection response handler
  have hatRest := hs _ _ hrest (h.resting.enter response)
  have hrests := hs _ _ hlinked rfl
  rw [hleave]
  exact ⟨resting_leave hatRest, withResponse hrests⟩

/-- **One request** keeps the invariant. -/
lemma MirrorRun.Invariant.step {request : MediaRequest} (hunstuck : run.Unstuck request) :
    (run.step (mirrorConfig base ports controlPorts) request).Invariant
      (mirrorConfig base ports controlPorts) sessionId := by
  cases request with
  | setup request response =>
    have hstep := h.after response (triple_handleSetup rfl request)
      ((linked_handleSetup request).pre fun s hs => hs ▸ h.settled response)
    rw [← Bool.or_false run.requested] at hstep
    exact hstep
  | record response =>
    have hstep := h.after response (triple_handleRecord rfl) (linked_handleRecord.pre
      fun s hs => by
        subst hs
        exact ⟨h.settled response, h.resting.inPhase, hunstuck rfl⟩)
    rw [← Bool.or_true run.requested] at hstep
    exact hstep
  | teardown request response =>
    have hstep := h.after response (triple_handleTeardown rfl request)
      ((linked_handleTeardown request).pre fun s hs => hs ▸ h.settled response)
    rw [← Bool.or_false run.requested] at hstep
    exact hstep

end

lemma MirrorRun.Invariant.start (config : AirPlayHandlersConfig (MirrorMedia ν)) (id sessionId : UInt64)
    (peerIpv4Address : UInt32) {media : MirrorMedia ν} (hempty : media.runtime.Emptied) :
    (MirrorRun.start id sessionId peerIpv4Address media).Invariant config sessionId where
  resting := by
    have hinit : (init id peerIpv4Address media).Resting config :=
      resting_init id peerIpv4Address media
    exact ⟨hinit.coherent, ⟨hinit.inPhase.setup, hinit.inPhase.recording⟩, hinit.inTurn⟩
  settled response := settled_fresh rfl 0 rfl hempty nofun

lemma Settled.recording_iff {requested : Bool} {s : AirPlayHandlerState (MirrorMedia ν)}
    (h : Settled sessionId requested s) (hsome : (s.context.mirrorSetup || s.context.audioSetup)) :
    s.media.runtime.recording ↔ requested :=
  ⟨h.records, fun hasked => h.complete hasked hsome⟩

lemma MirrorRun.Invariant.agrees {config : AirPlayHandlersConfig (MirrorMedia ν)}
    (h : run.Invariant config sessionId) : run.Agrees sessionId := by
  have hs := h.settled ⟨cstring "", 0, [], [], false, false⟩
  have hacc : RecordsAccepted run.connection.calls := hs.accepted
  cases hinit : run.flags.initialSetup with
  | false =>
    have hempty : run.runtime.Emptied := hs.empty hinit
    obtain ⟨hmirror, haudio⟩ : run.flags.mirrorSetup = false ∧ run.flags.audioSetup = false :=
      hs.no_streams hinit
    refine ⟨?_, ?_, ?_, ?_, hacc⟩
    · simp [hmirror, hempty.mirror]
    · simp [haudio, hempty.audio]
    · simp [hempty.mirror]
    · simp [hempty.audio]
  | true =>
    have hholds : run.runtime.HoldsStreams sessionId run.flags.mirrorSetup run.flags.audioSetup :=
      hs.streams hinit
    have hrec : (run.flags.mirrorSetup || run.flags.audioSetup) →
        (run.runtime.recording ↔ run.requested) := hs.recording_iff
    have hsess : (run.flags.mirrorSetup || run.flags.audioSetup) →
        run.runtime.sessionId = sessionId := fun hsome => hholds.session.trans (if_pos hsome)
    refine ⟨⟨fun hset => ?_, fun hset => ?_⟩, ⟨fun hset => ?_, fun hset => ?_⟩, ?_, ?_, hacc⟩
    · exact ⟨hholds.mirrorHeld.trans hset, hsess (by rw [hset, Bool.true_or])⟩
    · exact hholds.mirrorHeld.symm.trans hset.1
    · exact ⟨hholds.audioHeld.trans hset, hsess (by rw [hset, Bool.or_true])⟩
    · exact hholds.audioHeld.symm.trans hset.1
    · intro receiver hrecv
      have hset : run.flags.mirrorSetup := by
        rw [← hholds.mirrorHeld, hrecv]
        rfl
      rw [hholds.mirrorRecording receiver hrecv]
      exact hrec (by rw [hset, Bool.true_or])
    · intro receiver hrecv
      have hset : run.flags.audioSetup := by
        rw [← hholds.audioHeld, hrecv]
        rfl
      rw [hholds.audioRecording receiver hrecv]
      exact hrec (by rw [hset, Bool.or_true])

/-- **Handlers and mirror runtime agree.**  Whatever SETUPs, RECORDs and TEARDOWNs come on a connection,
over a runtime that no other session uses, and whatever the worker and the receivers do meanwhile: the
flags are those of the runtime, the receivers record exactly if a RECORD has come, and no recording is
refused, as long as no RECORD comes while the audio of a recorded mirror stands alone. -/
theorem mirror_agreement (base : AirPlayHandlersConfig ν) (ports controlPorts : ℕ → Port)
    (id sessionId : UInt64) (peerIpv4Address : UInt32) (media : MirrorMedia ν)
    (hempty : media.runtime.Emptied) {run : MirrorRun ν}
    (hrun : Runs.Reachable (MirrorRun.step (mirrorConfig base ports controlPorts))
      (MirrorRun.start id sessionId peerIpv4Address media) MirrorRun.Unstuck run) :
    run.Agrees sessionId := by
  have hinvariant : run.Invariant (mirrorConfig base ports controlPorts) sessionId :=
    hrun.invariant (.start _ id sessionId peerIpv4Address hempty)
      fun _ _ h hunstuck => h.step hunstuck
  exact hinvariant.agrees

/-! ### Video and audio, recorded together -/

/-- The body of a request with streams and some other entries. -/
def streamsBody (entries : AirPlayPlistValue → Option AirPlayPlistValue)
    (streams : List (Option AirPlayPlistValue)) : List UInt8 :=
  let root := do
    let streams ← streams.foldlM (fun array stream => arrayAppend stream array) airplayPlistNewArray
    entries airplayPlistNewDict >>= dictSet "streams" (some streams)
  match root with
  | none => []
  | some root =>
    match airplayPlistEncode root with
    | .ok body => body
    | .error _ => []

/-- SETUP of the transport, of video and of audio. -/
def bothSetup : MediaRequest :=
  let body := streamsBody
    (fun root => dictSet "ekey" (airplayPlistNewData (List.replicate 72 1)) root
      >>= dictSet "eiv" (airplayPlistNewData (List.replicate 16 2)))
    [dictSet "type" (plistUint 110) airplayPlistNewDict >>= dictSet "streamConnectionID" (plistUint 9),
      dictSet "type" (plistUint 96) airplayPlistNewDict >>= dictSet "ct" (plistUint 8)
        >>= dictSet "spf" (plistUint 480)]
  .setup (mirrorInput "SETUP" body).request (mirrorInput "SETUP" body).response

/-- TEARDOWN of the video. -/
def videoTeardown : MediaRequest :=
  let body := streamsBody some [dictSet "type" (plistUint 110) airplayPlistNewDict]
  .teardown (mirrorInput "TEARDOWN" body).request (mirrorInput "TEARDOWN" body).response

/-- RECORD. -/
def plainRecord : MediaRequest := .record (mirrorInput "RECORD" []).response

/-- A connection over a runtime that has just been created. -/
def mirrorStart : MirrorRun Unit := .start 1 1 0 ⟨.created, 0, [], ()⟩

/-- Its handlers. -/
def servedConfig : AirPlayHandlersConfig (MirrorMedia Unit) :=
  mirrorConfig mirrorHandlers (fun _ => ⟨7010, by decide⟩) fun _ => ⟨7011, by decide⟩

/-- What `mirrorStart` is after some requests. -/
def mirrorServed (requests : List MediaRequest) : MirrorRun Unit :=
  Runs.run (MirrorRun.step servedConfig) mirrorStart requests

lemma emptied_created : AirPlayMirrorRuntime.created.Emptied :=
  ⟨rfl, rfl, rfl, rfl, rfl, rfl, rfl, rfl, rfl, rfl, rfl⟩

/-- The run, computed once: set up, without its video, and after one more RECORD. -/
lemma mirrorServed_facts :
    let both := mirrorServed [bothSetup]
    let stuck := mirrorServed [bothSetup, plainRecord, videoTeardown]
    let lost := mirrorServed [bothSetup, plainRecord, videoTeardown, plainRecord]
    ¬both.flags.Stuck ∧
      (stuck.flags.mirrorSetup = false ∧ stuck.flags.audioSetup ∧
        stuck.runtime.audio.map RuntimeReceiver.recording = some true) ∧
      (stuck.flags.Stuck ∧ stuck.runtime.recording) ∧
      .audioRecord 1 false ∈ lost.connection.calls ∧
        lost.connection.calls.getLast? = some (.mirrorStop 1) ∧ lost.flags = .fresh ∧
        lost.runtime.audio = none := by
  decide +kernel

/-- Video and audio are set up, recorded, and the video is torn down: the audio goes on. -/
theorem mirror_agreement_audio_left :
    let stuck := mirrorServed [bothSetup, plainRecord, videoTeardown]
    stuck.Agrees 1 ∧ stuck.flags.mirrorSetup = false ∧ stuck.flags.audioSetup = true ∧
      stuck.runtime.audio.map RuntimeReceiver.recording = some true := by
  obtain ⟨hboth, hleft, -⟩ := mirrorServed_facts
  have hunstuck : Runs.Along (MirrorRun.step servedConfig) MirrorRun.Unstuck mirrorStart
      [bothSetup, plainRecord, videoTeardown] :=
    ⟨nofun, fun _ => hboth, nofun, trivial⟩
  refine ⟨?_, hleft⟩
  exact mirror_agreement mirrorHandlers (fun _ => ⟨7010, by decide⟩) (fun _ => ⟨7011, by decide⟩) 1 1 0
    ⟨.created, 0, [], ()⟩ emptied_created (.along .start hunstuck)

/-- **Torn down by a RECORD.**  After that, a RECORD is refused by the runtime, which records already, and
the whole session is torn down. -/
theorem mirror_agreement_lost :
    let stuck := mirrorServed [bothSetup, plainRecord, videoTeardown]
    let lost := mirrorServed [bothSetup, plainRecord, videoTeardown, plainRecord]
    (stuck.flags.Stuck ∧ stuck.runtime.recording = true) ∧ ¬lost.Agrees 1 ∧
      lost.connection.calls.getLast? = some (.mirrorStop 1) ∧ lost.flags = .fresh ∧
      lost.runtime.audio = none := by
  obtain ⟨-, -, hstuck, hrefused, hlost⟩ := mirrorServed_facts
  exact ⟨hstuck, fun hagrees => hagrees.accepted 1 hrefused, hlost⟩

end Runs

end NXCast
