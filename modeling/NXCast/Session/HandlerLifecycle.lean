import NXCast.Session.Handlers

/-!
# The life cycle of a handler session

`TransportTurn` and `MirrorTurn` watch the callbacks of one connection: the first wants
prepare and stop to alternate, the second a recording only after its own mirror stream was
opened.  `AtRest` is what holds between two requests, `Underway` what still holds inside a
SETUP.  Handlers that only answer are `Inert`.
-/

namespace NXCast

open AirPlayHandlerSession

/-! ## Watching the callbacks -/

/-- Where the transport stands. -/
inductive TransportTurn where
  | unused
  | prepared
  | stopped
deriving DecidableEq, Repr

/-- The next callback; a second prepare before a stop and a second stop are out of turn. -/
def TransportTurn.next : TransportTurn → AirPlayMediaCall → Option TransportTurn
  | .prepared, .transportPrepare _ (some _) => none
  | _, .transportPrepare _ (some _) => some .prepared
  | .unused, .mirrorStop _ => some .unused
  | .prepared, .mirrorStop _ => some .stopped
  | .stopped, .mirrorStop _ => none
  | turn, _ => some turn

/-- Where the transport stands after some callbacks, if they were in turn. -/
def transportTurn (calls : List AirPlayMediaCall) : Option TransportTurn :=
  calls.foldlM TransportTurn.next .unused

/-- Where the mirror stream stands. -/
inductive MirrorTurn where
  | none
  | opened
  | recorded
deriving DecidableEq, Repr

/-- The next callback; a recording needs a mirror stream that is open and not recorded yet. -/
def MirrorTurn.next : MirrorTurn → AirPlayMediaCall → Option MirrorTurn
  | turn, .mirrorOpen _ _ _ (some dataPort) => if dataPort = 0 then some turn else some .opened
  | .opened, .mediaRecord _ => some .recorded
  | _, .mediaRecord _ => Option.none
  | _, .mirrorStop _ => some .none
  | _, .streamStop _ true _ true => some .none
  | turn, _ => some turn

/-- Where the mirror stream stands after some callbacks, if they were in turn. -/
def mirrorTurn (calls : List AirPlayMediaCall) : Option MirrorTurn :=
  calls.foldlM MirrorTurn.next .none

lemma transportTurn_append {calls : List AirPlayMediaCall} {turn : TransportTurn}
    (h : transportTurn calls = some turn) (call : AirPlayMediaCall) :
    transportTurn (calls ++ [call]) = turn.next call := by
  unfold transportTurn at h ⊢
  rw [List.foldlM_append, h]
  simp

lemma mirrorTurn_append {calls : List AirPlayMediaCall} {turn : MirrorTurn}
    (h : mirrorTurn calls = some turn) (call : AirPlayMediaCall) :
    mirrorTurn (calls ++ [call]) = turn.next call := by
  unfold mirrorTurn at h ⊢
  rw [List.foldlM_append, h]
  simp

/-! ## The invariant -/

/-- What the flags say of each other. -/
structure AirPlayHandlerSession.Coherent (context : AirPlayHandlerSession) : Prop where
  mirror : context.mirrorSetup = true → context.initialSetup = true
  audio : context.audioSetup = true → context.initialSetup = true
  requested : context.recordRequested = true → context.initialSetup = true
  recording : context.recordingStarted = true →
    context.mirrorSetup = true ∧ context.recordRequested = true
  audioRecording : context.audioRecordingStarted = true →
    context.audioSetup = true ∧ context.recordRequested = true

/-- What the state of the session says of the flags. -/
structure InPhase (session : AirPlayRtspSession) (context : AirPlayHandlerSession) : Prop where
  setup : context.initialSetup = true ↔ session.state = .setup ∨ session.state = .recording
  recording : context.recordRequested = true ↔ session.state = .recording

/-- What the flags say of the callbacks. -/
structure InTurn {μ : Type} (config : AirPlayHandlersConfig μ) (context : AirPlayHandlerSession)
    (calls : List AirPlayMediaCall) : Prop where
  transport : ∃ turn, transportTurn calls = some turn ∧
    (turn = .prepared ↔
      context.initialSetup = true ∧ config.transportPrepareCallback.isSome = true) ∧
    (config.transportPrepareCallback = none → turn = .unused)
  mirror : ∃ turn, mirrorTurn calls = some turn ∧
    (context.mirrorSetup = true → context.recordingStarted = false → turn = .opened)

/-- What holds inside a SETUP that found the session in a state. -/
structure Underway {μ : Type} (config : AirPlayHandlersConfig μ) (found : AirPlayRtspSessionState)
    (s : AirPlayHandlerState μ) : Prop where
  coherent : s.context.Coherent
  inTurn : InTurn config s.context s.calls
  state : s.session.state = found
  recording : s.context.recordRequested = true ↔ found = .recording

/-- What holds between two requests. -/
structure AtRest {μ : Type} (config : AirPlayHandlersConfig μ) (s : AirPlayHandlerState μ) :
    Prop where
  coherent : s.context.Coherent
  inPhase : InPhase s.session s.context
  inTurn : InTurn config s.context s.calls

variable {session : AirPlayRtspSession}

section InTurn

variable {μ : Type} {config : AirPlayHandlersConfig μ} {context context' : AirPlayHandlerSession}
  {calls : List AirPlayMediaCall}

variable (h : InTurn config context calls)

include h

lemma InTurn.of_flags (hinit : context'.initialSetup = context.initialSetup)
    (hmirror : context'.mirrorSetup → context'.recordingStarted = false → context.mirrorSetup ∧ context.recordingStarted = false) :
    InTurn config context' calls where
  transport := by
    obtain ⟨turn, hturn, hprepared, hunused⟩ := h.transport
    rw [← hinit] at hprepared
    exact ⟨turn, hturn, hprepared, hunused⟩
  mirror := by
    obtain ⟨turn, hturn, hopened⟩ := h.mirror
    refine ⟨turn, hturn, fun hset hidle => ?_⟩
    obtain ⟨hset, hidle⟩ := hmirror hset hidle
    exact hopened hset hidle

lemma InTurn.ignored {call : AirPlayMediaCall}
    (htrans : ∀ turn, TransportTurn.next turn call = some turn)
    (hmirror : ∀ turn, MirrorTurn.next turn call = some turn) :
    InTurn config context (calls ++ [call]) where
  transport := by
    obtain ⟨turn, hturn, hrest⟩ := h.transport
    exact ⟨turn, (transportTurn_append hturn call).trans (htrans turn), hrest⟩
  mirror := by
    obtain ⟨turn, hturn, hopened⟩ := h.mirror
    exact ⟨turn, (mirrorTurn_append hturn call).trans (hmirror turn), hopened⟩

lemma InTurn.prepare (hinit : context.initialSetup = false)
    (hprep : config.transportPrepareCallback.isSome) (setup : AirPlayTransportSetup)
    (timingPort : UInt16) :
    InTurn config { context with initialSetup := true }
      (calls ++ [.transportPrepare setup (some timingPort)]) where
  transport := by
    obtain ⟨turn, hturn, hprepared, -⟩ := h.transport
    refine ⟨.prepared, ?_, by simp [hprep], fun hnone => by simp [hnone] at hprep⟩
    rw [transportTurn_append hturn]
    cases turn with
    | prepared => simp [hinit] at hprepared
    | unused | stopped => rfl
  mirror := by
    obtain ⟨turn, hturn, hopened⟩ := h.mirror
    refine ⟨turn, (mirrorTurn_append hturn _).trans ?_, hopened⟩
    cases turn <;> rfl

lemma InTurn.unprepared (hprep : config.transportPrepareCallback = none) :
    InTurn config { context with initialSetup := true } calls where
  transport := by
    obtain ⟨turn, hturn, -, hunused⟩ := h.transport
    have hturnUnused := hunused hprep
    exact ⟨turn, hturn, by simp [hturnUnused, hprep], hunused⟩
  mirror := h.mirror

lemma InTurn.mirrorOpen (hmirror : context.mirrorSetup = false)
    (sessionId : UInt64) (key : List UInt8) (streamConnectionId : UInt64)
    (dataPort : Option UInt16) :
    InTurn config context (calls ++ [.mirrorOpen sessionId key streamConnectionId dataPort]) ∧
      ∀ port, dataPort = some port → port ≠ 0 →
        InTurn config { context with streamConnectionId := streamConnectionId, mirrorSetup := true }
          (calls ++ [.mirrorOpen sessionId key streamConnectionId dataPort]) := by
  obtain ⟨turn, hturn, hrest⟩ := h.transport
  obtain ⟨mirror, hmirrorTurn, -⟩ := h.mirror
  have htrans : transportTurn (calls ++ [.mirrorOpen sessionId key streamConnectionId dataPort])
      = some turn := by
    rw [transportTurn_append hturn]
    cases turn <;> rfl
  have hnext := mirrorTurn_append hmirrorTurn
    (.mirrorOpen sessionId key streamConnectionId dataPort)
  constructor
  · refine ⟨⟨turn, htrans, hrest⟩, ?_⟩
    rw [hnext]
    cases dataPort with
    | none => exact ⟨mirror, by cases mirror <;> rfl, fun hset => by simp [hmirror] at hset⟩
    | some port =>
      by_cases hport : port = 0
      · exact ⟨mirror, by simp [MirrorTurn.next, hport], fun hset => by simp [hmirror] at hset⟩
      · exact ⟨.opened, by simp [MirrorTurn.next, hport], fun _ _ => rfl⟩
  · rintro port rfl hport
    exact ⟨⟨turn, htrans, hrest⟩, .opened, by rw [hnext]; simp [MirrorTurn.next, hport],
      fun _ _ => rfl⟩

lemma InTurn.mediaRecord (hmirror : context.mirrorSetup)
    (hidle : context.recordingStarted = false) (sessionId : UInt64) :
    InTurn config { context with recordingStarted := true } (calls ++ [.mediaRecord sessionId]) where
  transport := by
    obtain ⟨turn, hturn, hrest⟩ := h.transport
    refine ⟨turn, ?_, hrest⟩
    rw [transportTurn_append hturn]
    cases turn <;> rfl
  mirror := by
    obtain ⟨turn, hturn, hopened⟩ := h.mirror
    refine ⟨.recorded, ?_, nofun⟩
    rw [mirrorTurn_append hturn, hopened hmirror hidle]
    rfl

lemma InTurn.mirrorStop (hinit : context.initialSetup)
    (sessionId : UInt64) (hclear : context'.initialSetup = false ∧ context'.mirrorSetup = false) :
    InTurn config context' (calls ++ [.mirrorStop sessionId]) where
  transport := by
    obtain ⟨turn, hturn, hprepared, hunused⟩ := h.transport
    rw [transportTurn_append hturn, hclear.1]
    cases hprep : config.transportPrepareCallback with
    | none =>
      rw [hunused hprep]
      exact ⟨.unused, rfl, by simp, fun _ => rfl⟩
    | some prepare =>
      have hturnPrepared : turn = .prepared := hprepared.mpr ⟨hinit, by rw [hprep]; rfl⟩
      rw [hturnPrepared]
      exact ⟨.stopped, rfl, by simp, nofun⟩
  mirror := by
    obtain ⟨turn, hturn, -⟩ := h.mirror
    refine ⟨.none, ?_, fun hset => by simp [hclear.2] at hset⟩
    rw [mirrorTurn_append hturn]
    cases turn <;> rfl

lemma InTurn.cleared (hinit : context.initialSetup = false)
    (hclear : context'.initialSetup = false ∧ context'.mirrorSetup = false) :
    InTurn config context' calls :=
  h.of_flags (hclear.1.trans hinit.symm) fun hset => by simp [hclear.2] at hset

lemma InTurn.streamStop (sessionId : UInt64) (video audio stopped : Bool)
    (hvideo : video → stopped → context'.mirrorSetup = false)
    (hinit : context'.initialSetup = context.initialSetup)
    (hmirror : context'.mirrorSetup → context'.recordingStarted = false → context.mirrorSetup ∧ context.recordingStarted = false) :
    InTurn config context' (calls ++ [.streamStop sessionId video audio stopped]) where
  transport := by
    obtain ⟨turn, hturn, hprepared, hunused⟩ := h.transport
    rw [← hinit] at hprepared
    refine ⟨turn, ?_, hprepared, hunused⟩
    rw [transportTurn_append hturn]
    cases turn <;> rfl
  mirror := by
    obtain ⟨turn, hturn, hopened⟩ := h.mirror
    rw [mirrorTurn_append hturn]
    by_cases hboth : video ∧ stopped = true
    · obtain ⟨rfl, rfl⟩ := hboth
      refine ⟨.none, by cases turn <;> rfl, fun hset => ?_⟩
      rw [hvideo rfl rfl] at hset
      cases hset
    · refine ⟨turn, ?_, fun hset hidle => ?_⟩
      · cases turn <;> cases video <;> cases stopped <;> first | rfl | exact absurd ⟨rfl, rfl⟩ hboth
      · obtain ⟨hset, hidle⟩ := hmirror hset hidle
        exact hopened hset hidle

end InTurn

/-! ## Rules for the steps of handlers -/

section Rules

open Program

variable {μ α : Type} {P : AirPlayHandlerState μ → Prop} {Q : α → AirPlayHandlerState μ → Prop}
  {E : Unit → AirPlayHandlerState μ → Prop}

lemma triple_refuse (h : ∀ s, P s → E () s) : Triple P (refuse : HandlerM μ α) Q E :=
  .throw h

lemma triple_require {value : Option α} (hsome : ∀ a, value = some a → ∀ s, P s → Q a s)
    (hnone : ∀ s, P s → E () s) : Triple P (require value : HandlerM μ α) Q E := by
  cases value with
  | none => exact triple_refuse hnone
  | some a => exact .pure (hsome a rfl)

lemma triple_need {value : Option α} (h : ∀ s, P s → E () s) :
    Triple P (require value : HandlerM μ α) (fun _ => P) E :=
  triple_require (fun _ _ _ hs => hs) h

lemma triple_outside {body : μ → α × μ}
    (h : ∀ s, P s → ∀ a media, Q a { s with media }) : Triple P (outside body) Q E :=
  fun s hs => h s hs _ _

lemma triple_callback {body : μ → α × μ} {note : α → AirPlayMediaCall}
    (h : ∀ s, P s → ∀ a media, Q a { s with media, calls := s.calls ++ [note a] }) :
    Triple P (callback body note) Q E :=
  fun s hs => h s hs _ _

lemma triple_setContext {Q : Unit → AirPlayHandlerState μ → Prop}
    {update : AirPlayHandlerSession → AirPlayHandlerSession}
    (h : ∀ s, P s → Q () { s with context := update s.context }) :
    Triple P (setContext update) Q E :=
  h

lemma triple_setSessionState {Q : Unit → AirPlayHandlerState μ → Prop}
    {state : AirPlayRtspSessionState}
    (h : ∀ s, P s → Q () { s with session := { s.session with state } }) :
    Triple P (setSessionState state) Q E :=
  h

lemma triple_respond {Q : Unit → AirPlayHandlerState μ → Prop}
    {build : AirPlayRtspResponse → Option AirPlayRtspResponse}
    (hsome : ∀ s, P s → ∀ response, Q () { s with response }) (hnone : ∀ s, P s → E () s) :
    Triple P (respond build) Q E := by
  intro s hs
  unfold respond
  cases build s.response with
  | none => exact hnone s hs
  | some response => exact hsome s hs response

end Rules

/-! ## SETUP -/

section Setup

open Program

variable {μ : Type} {config : AirPlayHandlersConfig μ} {found : AirPlayRtspSessionState}
  {s : AirPlayHandlerState μ}

lemma Underway.withMedia (h : Underway config found s) (media : μ) :
    Underway config found { s with media } :=
  ⟨h.coherent, h.inTurn, h.state, h.recording⟩

lemma Underway.withResponse (h : Underway config found s) (response : AirPlayRtspResponse) :
    Underway config found { s with response } :=
  ⟨h.coherent, h.inTurn, h.state, h.recording⟩

lemma Underway.withKey (h : Underway config found s) (aesKey aesIv : List UInt8) :
    Underway config found { s with context := { s.context with aesKey, aesIv } } :=
  ⟨⟨h.coherent.mirror, h.coherent.audio, h.coherent.requested, h.coherent.recording,
    h.coherent.audioRecording⟩, h.inTurn.of_flags rfl fun hset hidle => ⟨hset, hidle⟩, h.state,
    h.recording⟩

/-- The invariant with the transport, once its flag is raised. -/
def UnderwayWithTransport (config : AirPlayHandlersConfig μ) (found : AirPlayRtspSessionState)
    (s : AirPlayHandlerState μ) : Prop :=
  Underway config found s ∧ s.context.initialSetup = true

/-- The invariant without a transport. -/
def UnderwayWithoutTransport (config : AirPlayHandlersConfig μ) (found : AirPlayRtspSessionState)
    (s : AirPlayHandlerState μ) : Prop :=
  Underway config found s ∧ s.context.initialSetup = false

/-- The transport is prepared, and its flag is the next thing to raise. -/
structure Prepared (config : AirPlayHandlersConfig μ) (found : AirPlayRtspSessionState)
    (s : AirPlayHandlerState μ) : Prop where
  coherent : s.context.Coherent
  inTurn : InTurn config { s.context with initialSetup := true } s.calls
  state : s.session.state = found
  recording : s.context.recordRequested = true ↔ found = .recording

lemma Prepared.raise (h : Prepared config found s) :
    UnderwayWithTransport config found
      { s with context := { s.context with initialSetup := true } } :=
  ⟨⟨⟨fun _ => rfl, fun _ => rfl, fun _ => rfl, h.coherent.recording, h.coherent.audioRecording⟩,
    h.inTurn, h.state, h.recording⟩, rfl⟩

/-- The transport callback of `setup_initial`. -/
lemma triple_prepare (setup : AirPlayTransportSetup) :
    Triple (UnderwayWithoutTransport config found) (prepareTransport config setup)
      (fun _ => Prepared config found) (fun _ => Underway config found) := by
  unfold prepareTransport
  cases hprep : config.transportPrepareCallback with
  | none =>
    refine .pure fun s hs => ?_
    exact ⟨hs.1.coherent, hs.1.inTurn.unprepared hprep, hs.1.state, hs.1.recording⟩
  | some prepare =>
    refine .bind (Q := fun answer s => match answer with
      | some _ => Prepared config found s
      | none => Underway config found s) (triple_callback fun s hs answer media => ?_)
      fun answer => ?_
    · obtain ⟨hs, hinit⟩ := hs
      cases answer with
      | none =>
        refine ⟨hs.coherent, hs.inTurn.ignored ?_ ?_, hs.state, hs.recording⟩
        all_goals
          intro turn
          cases turn <;> rfl
      | some timingPort =>
        refine ⟨hs.coherent, hs.inTurn.prepare hinit ?_ setup timingPort, hs.state, hs.recording⟩
        rw [hprep]
        rfl
    · cases answer with
      | none => exact triple_refuse fun _ => id
      | some timingPort => exact .pure fun _ => id

/-- **`setup_initial`** prepares the transport, or leaves everything as coherent as before. -/
lemma triple_setupInitial (root responseRoot : AirPlayPlistValue) :
    Triple (Underway config found) (setupInitial config root responseRoot)
      (fun _ => UnderwayWithTransport config found) (fun _ => Underway config found) := by
  refine .bind (triple_need fun _ hs => hs) fun wrappedKey => ?_
  refine .bind (triple_need fun _ hs => hs) fun iv => ?_
  refine .bind .get fun entry => ?_
  refine .ite (fun _ => triple_refuse fun s hs => hs.2) fun hguard => ?_
  simp only [not_or, Bool.not_eq_true] at hguard
  refine .bind (Q := fun _ => UnderwayWithoutTransport config found)
    (triple_outside fun s hs _ media => ?_) fun key => ?_
  · obtain ⟨rfl, hs⟩ := hs
    exact ⟨hs.withMedia media, hguard.2.2⟩
  refine .bind (triple_need fun _ hs => hs.1) fun key => ?_
  refine .bind (Q := fun _ => UnderwayWithoutTransport config found)
    (triple_setContext fun s hs => ⟨hs.1.withKey key iv, hs.2⟩) fun _ => ?_
  refine .ite (fun _ => triple_refuse fun s hs => hs.1) fun _ => ?_
  refine .bind (triple_prepare _) fun timingPort => ?_
  refine .bind (Q := fun _ => UnderwayWithTransport config found)
    (triple_setContext fun s hs => hs.raise) fun _ => ?_
  exact triple_need fun _ hs => hs.1

variable (stream : AirPlayPlistValue)

lemma triple_setupMirrorStream :
    Triple (UnderwayWithTransport config found) (setupMirrorStream config stream)
      (fun _ => UnderwayWithTransport config found) (fun _ => Underway config found) := by
  refine .bind (triple_need fun _ hs => hs.1) fun value => ?_
  refine .bind .get fun entry => ?_
  refine .ite (fun _ => triple_refuse fun s hs => hs.2.1) fun hguard => ?_
  simp only [not_or, Bool.not_eq_true] at hguard
  refine .bind (triple_need fun _ hs => hs.2.1) fun mirrorOpen => ?_
  refine .bind (Q := fun answer s => UnderwayWithTransport config found s ∧
    ∀ port, answer = some port → port ≠ 0 → InTurn config { s.context with
      streamConnectionId := value, mirrorSetup := true } s.calls)
    (triple_callback fun s hs answer media => ?_) fun answer => ?_
  · obtain ⟨rfl, hs, hinit⟩ := hs
    obtain ⟨hsame, hopened⟩ := hs.inTurn.mirrorOpen hguard.2 entry.session.logicalSessionId
      entry.context.aesKey value answer
    exact ⟨⟨⟨hs.coherent, hsame, hs.state, hs.recording⟩, hinit⟩, hopened⟩
  refine .bind (Q := fun dataPort s => UnderwayWithTransport config found s ∧
    (dataPort ≠ 0 → InTurn config { s.context with
      streamConnectionId := value, mirrorSetup := true } s.calls))
    (triple_require (fun port hport s hs => ⟨hs.1, hs.2 port hport⟩) fun _ hs => hs.1.1)
    fun dataPort => ?_
  refine .ite (fun _ => triple_refuse fun s hs => hs.1.1) fun hport => ?_
  refine .bind (triple_setContext fun s hs => ?_) fun _ => .pure fun _ => id
  obtain ⟨⟨hs, hinit⟩, hopened⟩ := hs
  exact ⟨⟨⟨fun _ => hinit, hs.coherent.audio, hs.coherent.requested,
    fun h => ⟨rfl, (hs.coherent.recording h).2⟩, hs.coherent.audioRecording⟩, hopened hport,
    hs.state, hs.recording⟩, hinit⟩

lemma triple_setupAudioStream :
    Triple (UnderwayWithTransport config found) (setupAudioStream config stream)
      (fun _ => UnderwayWithTransport config found) (fun _ => Underway config found) := by
  refine .bind .get fun entry => ?_
  refine .ite (fun _ => triple_refuse fun s hs => hs.2.1) fun _ => ?_
  refine .bind (triple_require (fun _ _ _ hs => hs.2) fun _ hs => hs.2.1) fun audioOpen => ?_
  refine .bind (triple_need fun _ hs => hs.1) fun compressionType => ?_
  refine .ite (fun _ => triple_refuse fun s hs => hs.1) fun _ => ?_
  refine .bind (triple_need fun _ hs => hs.1) fun samplesPerFrame => ?_
  refine .ite (fun _ => triple_refuse fun s hs => hs.1) fun _ => ?_
  refine .ite (fun _ => triple_refuse fun s hs => hs.1) fun _ => ?_
  refine .bind (Q := fun _ => UnderwayWithTransport config found)
    (triple_callback fun s hs answer media => ?_) fun answer => ?_
  · obtain ⟨hs, hinit⟩ := hs
    refine ⟨⟨hs.coherent, hs.inTurn.ignored ?_ ?_, hs.state, hs.recording⟩, hinit⟩
    all_goals
      intro turn
      cases turn <;> rfl
  refine .bind (triple_need fun _ hs => hs.1) fun ports => ?_
  refine .ite (fun _ => triple_refuse fun s hs => hs.1) fun _ => ?_
  refine .bind (Q := fun _ => UnderwayWithTransport config found)
    (triple_setContext fun s hs => ?_) fun _ => ?_
  · obtain ⟨hs, hinit⟩ := hs
    exact ⟨⟨⟨hs.coherent.mirror, fun _ => hinit, hs.coherent.requested, hs.coherent.recording,
      fun h => ⟨rfl, (hs.coherent.audioRecording h).2⟩⟩,
      hs.inTurn.of_flags rfl fun hset hidle => ⟨hset, hidle⟩, hs.state, hs.recording⟩, hinit⟩
  refine .bind (triple_need fun _ hs => hs.1) fun response => ?_
  exact .pure fun _ => id

lemma triple_setupStreamPass (expectedType : UInt64) (streams : List AirPlayPlistValue)
    (responseStreams : AirPlayPlistValue) :
    Triple (UnderwayWithTransport config found)
      (setupStreamPass config expectedType streams responseStreams)
      (fun _ => UnderwayWithTransport config found) (fun _ => Underway config found) := by
  induction streams generalizing responseStreams with
  | nil => exact .pure fun _ => id
  | cons stream streams ih =>
    refine .bind (triple_need fun _ hs => hs.1) fun type => ?_
    refine .ite (fun _ => triple_refuse fun s hs => hs.1) fun _ => ?_
    refine .ite (fun _ => ih responseStreams) fun _ => ?_
    refine .bind (Q := fun _ => UnderwayWithTransport config found) ?_ fun opened => ?_
    · exact .ite (fun _ => triple_setupMirrorStream stream) fun _ => triple_setupAudioStream stream
    · refine .bind (triple_need fun _ hs => hs.1) fun responses => ?_
      exact ih responses

/-- **`setup_streams`** runs only with a transport. -/
lemma triple_setupStreams (streams responseRoot : AirPlayPlistValue) :
    Triple (Underway config found) (setupStreams config streams responseRoot)
      (fun _ => UnderwayWithTransport config found) (fun _ => Underway config found) := by
  refine .bind .get fun entry => ?_
  refine .bind (triple_need fun _ hs => hs.2) fun items => ?_
  refine .ite (fun _ => triple_refuse fun s hs => hs.2) fun hguard => ?_
  simp only [not_or, Bool.not_eq_false] at hguard
  have hpass : Triple (UnderwayWithTransport config found)
      (setupStreamPass config 110 items airplayPlistNewArray >>= fun responseStreams =>
        setupStreamPass config 96 items responseStreams >>= fun responseStreams =>
          require (dictSet "streams" (some responseStreams) responseRoot))
      (fun _ => UnderwayWithTransport config found) (fun _ => Underway config found) := by
    refine .bind (triple_setupStreamPass 110 items _) fun responseStreams => ?_
    refine .bind (triple_setupStreamPass 96 items _) fun responseStreams => ?_
    exact triple_need fun _ hs => hs.1
  refine hpass.pre fun s hs => ?_
  obtain ⟨rfl, hs⟩ := hs
  exact ⟨hs, hguard.1⟩

/-! ## Recording and stopping -/

lemma AtRest.withResponse (h : AtRest config s) (response : AirPlayRtspResponse) :
    AtRest config { s with response } :=
  ⟨h.coherent, h.inPhase, h.inTurn⟩

lemma AtRest.withMedia (h : AtRest config s) (media : μ) : AtRest config { s with media } :=
  ⟨h.coherent, h.inPhase, h.inTurn⟩

/-- The session is recording, as far as it has streams. -/
def Recording (config : AirPlayHandlersConfig μ) (s : AirPlayHandlerState μ) : Prop :=
  AtRest config s ∧ s.context.recordRequested = true

lemma AtRest.ignored (h : AtRest config s) (media : μ) {call : AirPlayMediaCall}
    (htrans : ∀ turn, TransportTurn.next turn call = some turn)
    (hmirror : ∀ turn, MirrorTurn.next turn call = some turn) :
    AtRest config { s with media, calls := s.calls ++ [call] } :=
  ⟨h.coherent, h.inPhase, h.inTurn.ignored htrans hmirror⟩

lemma Recording.mirror (h : Recording config s) (hmirror : s.context.mirrorSetup)
    {calls : List AirPlayMediaCall}
    (hcalls : InTurn config { s.context with recordingStarted := true } calls) (media : μ) :
    AtRest config
      { s with context := { s.context with recordingStarted := true }, media, calls } :=
  ⟨⟨h.1.coherent.mirror, h.1.coherent.audio, h.1.coherent.requested,
    fun _ => ⟨hmirror, h.2⟩, h.1.coherent.audioRecording⟩,
    ⟨h.1.inPhase.setup, h.1.inPhase.recording⟩, hcalls⟩

lemma Recording.audio (h : Recording config s) (haudio : s.context.audioSetup) :
    AtRest config { s with context := { s.context with audioRecordingStarted := true } } :=
  ⟨⟨h.1.coherent.mirror, h.1.coherent.audio, h.1.coherent.requested, h.1.coherent.recording,
    fun _ => ⟨haudio, h.2⟩⟩, ⟨h.1.inPhase.setup, h.1.inPhase.recording⟩,
    h.1.inTurn.of_flags rfl fun hset hidle => ⟨hset, hidle⟩⟩

/-- **Recording starts** at most once for each stream. -/
lemma triple_startRecording :
    Triple (Recording config) (startRecording config) (fun _ => AtRest config)
      (fun _ => AtRest config) := by
  refine .bind .get fun entry => ?_
  refine .ite (fun hmirror => ?_) fun _ => .ite (fun haudio => ?_) fun _ => ?_
  · obtain ⟨hmirror, hidle⟩ := hmirror
    rw [Bool.not_eq_true] at hidle
    cases config.mediaRecordCallback with
    | none =>
      refine .bind (Q := fun _ => AtRest config) (triple_setContext fun s hs => ?_)
        fun _ => .pure fun _ => id
      obtain ⟨rfl, hs⟩ := hs
      exact hs.mirror hmirror (hs.1.inTurn.of_flags rfl nofun) _
    | some record =>
      -- The flag is raised first, so the state before it is kept until the callback.
      refine .bind (Q := fun _ s => Recording config entry ∧
        s = { entry with context := { entry.context with recordingStarted := true } })
        (triple_setContext fun s hs => ?_) fun _ => ?_
      · obtain ⟨rfl, hs⟩ := hs
        exact ⟨hs, rfl⟩
      refine .bind (Q := fun _ => AtRest config) (triple_callback fun s hs _ media => ?_)
        fun _ => .pure fun _ => id
      obtain ⟨hentry, rfl⟩ := hs
      exact hentry.mirror hmirror (hentry.1.inTurn.mediaRecord hmirror hidle _) media
  · refine .bind (Q := fun _ => AtRest config) (triple_setContext fun s hs => ?_) fun _ => ?_
    · obtain ⟨rfl, hs⟩ := hs
      exact hs.audio haudio.1
    cases config.audioRecordCallback with
    | none => exact .pure fun _ => id
    | some record =>
      refine triple_callback fun s hs accepted media => hs.ignored media ?_ ?_
      all_goals
        intro turn
        cases turn <;> rfl
  · refine .pure fun s hs => ?_
    obtain ⟨rfl, hs⟩ := hs
    exact hs.1

/-- Callbacks in turn: all that is needed of a SETUP or a RECORD that fails. -/
def Failing (config : AirPlayHandlersConfig μ) (s : AirPlayHandlerState μ) : Prop :=
  InTurn config s.context s.calls

/-- **Stopping the mirror**: the callbacks are in turn for a session without transport. -/
lemma triple_stopMirror (hstop : config.mirrorStopCallback.isSome)
    {E : Unit → AirPlayHandlerState μ → Prop} :
    Triple (Failing config) (stopMirror config)
      (fun _ s => ∀ context : AirPlayHandlerSession, context.initialSetup = false →
        context.mirrorSetup = false → InTurn config context s.calls) E := by
  refine .bind .get fun entry => ?_
  obtain ⟨stop, hstop⟩ := Option.isSome_iff_exists.mp hstop
  rw [hstop]
  refine .ite (fun hinit => triple_callback fun s hs _ media => ?_) fun hinit => .pure
    fun s hs => ?_
  · obtain ⟨rfl, hs⟩ := hs
    intro context hctx hmirror
    exact hs.mirrorStop hinit _ ⟨hctx, hmirror⟩
  · obtain ⟨rfl, hs⟩ := hs
    intro context hctx hmirror
    rw [Bool.not_eq_true] at hinit
    exact hs.cleared hinit ⟨hctx, hmirror⟩

variable (streamConnectionId : UInt64)

lemma coherent_fresh :
    AirPlayHandlerSession.Coherent { fresh with streamConnectionId } :=
  ⟨fun h => absurd h Bool.false_ne_true, fun h => absurd h Bool.false_ne_true,
    fun h => absurd h Bool.false_ne_true, fun h => absurd h Bool.false_ne_true,
    fun h => absurd h Bool.false_ne_true⟩

lemma inPhase_fresh (h : session.state = .connected ∨ session.state = .closed) :
    InPhase session { fresh with streamConnectionId } := by
  constructor
  all_goals
    constructor
    · exact nofun
    · obtain h | h := h <;> simp [h]

/-- **Giving up** leaves the session at rest. -/
lemma triple_abandonTransport (hstop : config.mirrorStopCallback.isSome) :
    Triple (Failing config) (abandonTransport config) (fun _ => AtRest config)
      (fun _ => AtRest config) := by
  refine .bind (triple_stopMirror hstop) fun _ => ?_
  refine .bind (Q := fun _ s => InTurn config .fresh s.calls ∧ s.context = .fresh)
    (triple_setContext fun s hs => ⟨hs .fresh rfl rfl, rfl⟩) fun _ => ?_
  refine .bind (Q := fun _ => AtRest config) (triple_setSessionState fun s hs => ?_) fun _ => ?_
  · obtain ⟨hturn, hctx⟩ := hs
    refine ⟨?_, ?_, ?_⟩
    · rw [hctx]
      exact coherent_fresh 0
    · rw [hctx]
      exact inPhase_fresh 0 (.inl rfl)
    · rw [hctx]
      exact hturn
  · exact triple_respond (fun s hs response => hs.withResponse response) fun _ => id

lemma AtRest.underway (h : AtRest config s) : Underway config s.session.state s :=
  ⟨h.coherent, h.inTurn, rfl, h.inPhase.recording⟩

lemma UnderwayWithTransport.settle (h : UnderwayWithTransport config found s) :
    AtRest config { s with session := { s.session with
      state := if found = .recording then .recording else .setup } } := by
  obtain ⟨h, hinit⟩ := h
  refine ⟨h.coherent, ⟨?_, ?_⟩, h.inTurn⟩
  · dsimp only
    split <;> simp [hinit]
  · dsimp only
    rw [h.recording]
    split <;> simp [*]

lemma triple_setupParts (root responseRoot : AirPlayPlistValue) {hasInitial : Bool}
    {streams : Option AirPlayPlistValue} (hsome : ¬(hasInitial = false ∧ streams = none)) :
    Triple (Underway config found)
      ((if hasInitial then setupInitial config root responseRoot else pure responseRoot) >>=
        fun responseRoot => match streams with
          | none => pure responseRoot
          | some streams => setupStreams config streams responseRoot)
      (fun _ => UnderwayWithTransport config found) (fun _ => Underway config found) := by
  refine .bind (Q := fun _ s => Underway config found s ∧
    (hasInitial → s.context.initialSetup)) ?_ fun responseRoot => ?_
  · refine .ite (fun _ => ?_) fun hnone => .pure fun s hs => ⟨hs, fun hset => absurd hset hnone⟩
    exact (triple_setupInitial root responseRoot).conseq (fun _ hs => hs)
      (fun _ _ hs => ⟨hs.1, fun _ => hs.2⟩) fun _ _ hs => hs
  cases streams with
  | none =>
    refine .pure fun s hs => ⟨hs.1, hs.2 ?_⟩
    exact eq_true_of_ne_false fun hnone => hsome ⟨hnone, rfl⟩
  | some streams =>
    exact (triple_setupStreams streams responseRoot).pre fun _ hs => hs.1

/-- **A SETUP**, up to its last check, leaves the session at rest or fails in turn. -/
lemma triple_setupSteps (request : AirPlayRtspRequest) :
    Triple (AtRest config) (setupSteps config request) (fun _ => AtRest config)
      (fun _ => Failing config) := by
  refine .bind .get fun entry => ?_
  refine .bind (Q := fun _ => Underway config entry.session.state)
    (triple_require (fun _ _ s hs => ?_) fun s hs => hs.2.inTurn) fun root => ?_
  · obtain ⟨rfl, hs⟩ := hs
    exact hs.underway
  refine .ite (fun _ => triple_refuse fun s hs => hs.inTurn) fun hsome => ?_
  rw [← bind_assoc]
  refine .bind (Q := fun _ => UnderwayWithTransport config entry.session.state)
    ((triple_setupParts root airplayPlistNewDict hsome).conseq (fun _ hs => hs)
      (fun _ _ hs => hs) fun _ _ hs => hs.inTurn) fun responseRoot => ?_
  refine .bind (Q := fun _ => UnderwayWithTransport config entry.session.state)
    (triple_respond (fun s hs response => ⟨hs.1.withResponse response, hs.2⟩)
      fun s hs => hs.1.inTurn) fun _ => ?_
  refine .bind (Q := fun _ => AtRest config)
    (triple_setSessionState fun s hs => hs.settle) fun _ => ?_
  refine .bind .get fun prepared => ?_
  refine .ite (fun hasked => ?_) fun _ => .pure fun s hs => hs.2
  refine (triple_startRecording).conseq (fun s hs => ?_) (fun _ _ hs => hs) fun _ _ hs => hs.inTurn
  obtain ⟨rfl, hs⟩ := hs
  exact ⟨hs, hasked⟩

/-- **`handle_setup`** leaves the session at rest. -/
lemma triple_handleSetup (hstop : config.mirrorStopCallback.isSome) (request : AirPlayRtspRequest) :
    Triple (AtRest config) (handleSetup config request) (fun _ => AtRest config)
      (fun _ => AtRest config) := by
  refine .bind .get fun entry => ?_
  refine .ite (fun _ => triple_respond (fun s hs response => hs.2.withResponse response)
    fun s hs => hs.2) fun _ => ?_
  have hbody : Triple (AtRest config) (setupBody config request) (fun _ => AtRest config)
      (fun _ => Failing config) := by
    refine .bind (triple_setupSteps request) fun recorded => ?_
    refine .bind .get fun final => ?_
    exact .ite (fun _ => .pure fun s hs => hs.2) fun _ => triple_refuse fun s hs => hs.2.inTurn
  refine .bind ((Triple.attempt hbody).pre fun s hs => hs.2) fun result => ?_
  cases result with
  | ok _ => exact .pure fun _ => id
  | error _ => exact triple_abandonTransport hstop

/-- **`handle_record`** leaves the session at rest. -/
lemma triple_handleRecord (hstop : config.mirrorStopCallback.isSome) :
    Triple (AtRest config) (handleRecord config) (fun _ => AtRest config)
      (fun _ => AtRest config) := by
  refine .bind .get fun entry => ?_
  refine .ite (fun _ => triple_respond (fun s hs response => hs.2.withResponse response)
    fun s hs => hs.2) fun hguard => ?_
  simp only [not_or, Bool.not_eq_false] at hguard
  refine .bind (Q := fun _ s => s.context.recordRequested ∧
    s.context.initialSetup ∧ s.context.Coherent ∧ InTurn config s.context s.calls)
    (triple_setContext fun s hs => ?_) fun _ => ?_
  · obtain ⟨rfl, hs⟩ := hs
    exact ⟨rfl, hguard.2, ⟨hs.coherent.mirror, hs.coherent.audio, fun _ => hguard.2,
      fun h => ⟨(hs.coherent.recording h).1, rfl⟩,
      fun h => ⟨(hs.coherent.audioRecording h).1, rfl⟩⟩,
      hs.inTurn.of_flags rfl fun hset hidle => ⟨hset, hidle⟩⟩
  refine .bind (Q := fun _ => Recording config) (triple_setSessionState fun s hs => ?_) fun _ => ?_
  · obtain ⟨hasked, hinit, hcoherent, hturn⟩ := hs
    refine ⟨⟨hcoherent, ⟨?_, ?_⟩, hturn⟩, hasked⟩
    · simp [hinit]
    · simp [hasked]
  refine .bind triple_startRecording fun recorded => ?_
  refine .ite (fun _ => ?_) fun _ => ?_
  · refine .bind (Q := fun _ => AtRest config)
      (triple_respond (fun s hs response => hs.withResponse response) fun _ => id) fun _ => ?_
    exact triple_respond (fun s hs response => hs.withResponse response) fun _ => id
  · exact (triple_abandonTransport hstop).pre fun s hs => hs.inTurn

/-! ## TEARDOWN -/

section WithoutStreams

variable (context : AirPlayHandlerSession) (video audio : Bool)

@[simp]
lemma withoutStreams_initialSetup :
    (context.withoutStreams video audio).initialSetup = context.initialSetup := by
  cases video <;> cases audio <;> rfl

@[simp]
lemma withoutStreams_recordRequested :
    (context.withoutStreams video audio).recordRequested = context.recordRequested := by
  cases video <;> cases audio <;> rfl

@[simp]
lemma withoutStreams_mirrorSetup :
    (context.withoutStreams video audio).mirrorSetup = (!video && context.mirrorSetup) := by
  cases video <;> cases audio <;> rfl

@[simp]
lemma withoutStreams_recordingStarted :
    (context.withoutStreams video audio).recordingStarted =
      (!video && context.recordingStarted) := by
  cases video <;> cases audio <;> rfl

@[simp]
lemma withoutStreams_audioSetup :
    (context.withoutStreams video audio).audioSetup = (!audio && context.audioSetup) := by
  cases video <;> cases audio <;> rfl

@[simp]
lemma withoutStreams_audioRecordingStarted :
    (context.withoutStreams video audio).audioRecordingStarted =
      (!audio && context.audioRecordingStarted) := by
  cases video <;> cases audio <;> rfl

end WithoutStreams

lemma AirPlayHandlerSession.Coherent.withoutStreams {context : AirPlayHandlerSession}
    (h : context.Coherent) (video audio : Bool) :
    (context.withoutStreams video audio).Coherent where
  mirror hset := by
    simp only [withoutStreams_mirrorSetup, Bool.and_eq_true] at hset
    simpa using h.mirror hset.2
  audio hset := by
    simp only [withoutStreams_audioSetup, Bool.and_eq_true] at hset
    simpa using h.audio hset.2
  requested hset := by
    simp only [withoutStreams_recordRequested] at hset
    simpa using h.requested hset
  recording hset := by
    simp only [withoutStreams_recordingStarted, Bool.and_eq_true] at hset
    simpa [hset.1] using h.recording hset.2
  audioRecording hset := by
    simp only [withoutStreams_audioRecordingStarted, Bool.and_eq_true] at hset
    simpa [hset.1] using h.audioRecording hset.2

lemma InPhase.withoutStreams {context : AirPlayHandlerSession}
    (h : InPhase session context) (video audio : Bool) :
    InPhase session (context.withoutStreams video audio) :=
  ⟨by simpa using h.setup, by simpa using h.recording⟩

/-- Between the stop of some streams and their flags. -/
structure StreamsStopped (config : AirPlayHandlersConfig μ) (video audio stopped : Bool)
    (s : AirPlayHandlerState μ) : Prop where
  coherent : s.context.Coherent
  inPhase : InPhase s.session s.context
  inTurn : InTurn config (if stopped then s.context.withoutStreams video audio else s.context)
    s.calls

lemma triple_stopStreams (video audio : Bool) (entry : AirPlayHandlerState μ) :
    Triple (fun s => entry = s ∧ AtRest config s)
      (stopStreams config (video && entry.context.mirrorSetup) (audio && entry.context.audioSetup))
      (fun stopped => StreamsStopped config video audio stopped) (fun _ => AtRest config) := by
  refine .bind .get fun found => ?_
  refine .ite (fun _ => ?_) fun hnone => .pure fun s hs => ?_
  · cases config.streamStopCallback with
    | none => exact .pure fun s hs => ⟨hs.2.2.coherent, hs.2.2.inPhase, hs.2.2.inTurn⟩
    | some stop =>
      refine triple_callback fun s hs stopped media => ?_
      obtain ⟨rfl, rfl, hs⟩ := hs
      refine ⟨hs.coherent, hs.inPhase, ?_⟩
      cases stopped with
      | false =>
        exact hs.inTurn.streamStop _ _ _ _ (nofun) rfl fun hset hidle => ⟨hset, hidle⟩
      | true =>
        refine hs.inTurn.streamStop _ _ _ _ (fun hvideo _ => ?_) ?_ fun hset hidle => ?_
        · simp only [Bool.and_eq_true] at hvideo
          simp [hvideo.1]
        · simp
        simp only [if_true, withoutStreams_mirrorSetup, Bool.and_eq_true, Bool.not_eq_true'] at hset
        simp only [if_true, withoutStreams_recordingStarted, hset.1, Bool.not_false,
          Bool.true_and] at hidle
        exact ⟨hset.2, hidle⟩
  · obtain ⟨-, rfl, hs⟩ := hs
    refine ⟨hs.coherent, hs.inPhase, hs.inTurn.of_flags (by simp) fun hset hidle => ?_⟩
    simp only [if_true, withoutStreams_mirrorSetup, Bool.and_eq_true, Bool.not_eq_true'] at hset
    simp only [if_true, withoutStreams_recordingStarted, hset.1, Bool.not_false,
      Bool.true_and] at hidle
    exact ⟨hset.2, hidle⟩

lemma triple_teardownStreams (video audio : Bool) :
    Triple (AtRest config) (teardownStreams config video audio) (fun _ => AtRest config)
      (fun _ => AtRest config) := by
  refine .bind .get fun entry => ?_
  refine .bind (triple_stopStreams video audio entry) fun stopped => ?_
  cases stopped with
  | true =>
    refine .ite (fun _ => triple_setContext fun s hs => ?_) fun hstop => absurd rfl hstop
    exact ⟨hs.coherent.withoutStreams video audio, hs.inPhase.withoutStreams video audio, hs.inTurn⟩
  | false =>
    refine .ite (nofun) fun _ => ?_
    exact triple_respond (fun s hs response => ⟨hs.coherent, hs.inPhase, hs.inTurn⟩)
      fun s hs => ⟨hs.coherent, hs.inPhase, hs.inTurn⟩

/-- **Tearing the session down** stops what was prepared. -/
lemma triple_teardownSession (hstop : config.mirrorStopCallback.isSome) :
    Triple (AtRest config) (teardownSession config) (fun _ => AtRest config)
      (fun _ => AtRest config) := by
  refine .bind ((triple_stopMirror hstop).pre fun s hs => hs.inTurn) fun _ => ?_
  refine .bind (Q := fun _ s => InTurn config s.context s.calls ∧
    ∃ streamConnectionId, s.context = { fresh with streamConnectionId })
    (triple_setContext fun s hs => ⟨hs _ rfl rfl, _, rfl⟩) fun _ => ?_
  refine .bind (Q := fun _ => AtRest config) (triple_setSessionState fun s hs => ?_) fun _ => ?_
  · obtain ⟨hturn, streamConnectionId, hctx⟩ := hs
    refine ⟨?_, ?_, hturn⟩
    · rw [hctx]
      exact coherent_fresh streamConnectionId
    · rw [hctx]
      exact inPhase_fresh streamConnectionId (.inr rfl)
  · exact triple_respond (fun s hs response => hs.withResponse response) fun _ => id

/-- **`handle_teardown`** leaves the session at rest. -/
lemma triple_handleTeardown (hstop : config.mirrorStopCallback.isSome)
    (request : AirPlayRtspRequest) :
    Triple (AtRest config) (handleTeardown config request) (fun _ => AtRest config)
      (fun _ => AtRest config) := by
  unfold handleTeardown
  dsimp only
  have hstat (statusCode : ℕ) : Triple (AtRest config) (respondStatus statusCode)
      (fun _ => AtRest config) (fun _ => AtRest config) :=
    triple_respond (fun s hs response => hs.withResponse response) fun _ => id
  split
  · exact hstat 400
  refine .bind .get fun entry => ?_
  refine .ite (fun _ => (hstat 455).pre fun s hs => hs.2) fun _ => ?_
  refine .ite (fun _ => (triple_teardownStreams _ _).pre fun s hs => hs.2) fun _ => ?_
  exact (triple_teardownSession hstop).pre fun s hs => hs.2

end Setup

end NXCast
