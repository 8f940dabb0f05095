import NXCast.Framework.Trace
import NXCast.Security.Pairing

/-!
# What pairing is good for

Any number of connections send requests and close.  A request of pair-setup holds the setup lock,
across the store too (`PairingRun.storing`); the requests of one connection come one after the
other, and none comes after its close.

Each function of a session is described once by what it may do to the session and by the events
that come of it (`PairingSetupMove`, `PairingVerifyMove`).  A run is sound if the events account
for the state of every session (`PairingRun.Sound`).
-/

namespace NXCast

open Trace List Option

/-! ## Runs -/

/-- A connection: its session of pair-verify, once it has one. -/
structure PairingConnection where
  closed : Bool
  pairing : Option AirPlayPairingSession

/-- The service and its connections, the request that is about to store its pair, and what has
been done. -/
structure PairingRun where
  service : AirPlayPairingService
  storing : Option (AirPlayPairingSession × AirPlayRtspResponse)
  connections : UInt64 → PairingConnection
  events : List AirPlayPairingEvent

/-- A step: a request of pair-setup, the rest of one that stores its pair, any other request, or
the end of a connection. -/
inductive PairingMove where
  | setup (connection : UInt64) (supply : AirPlayPairingSupply) (request : AirPlayRtspRequest)
      (response : AirPlayRtspResponse)
  | store (saved : Bool)
  | request (connection : UInt64) (supply : AirPlayPairingSupply) (request : AirPlayRtspRequest)
      (response : AirPlayRtspResponse)
  | close (connection : UInt64)

variable (crypto : AirPlayPairingCrypto) (config : AirPlayPairingConfig)

namespace PairingRun

/-- A connection gets a new session. -/
def setPairing (run : PairingRun) (connection : UInt64) (pairing : Option AirPlayPairingSession)
    (closed : Bool) : PairingRun :=
  { run with connections := fun other =>
      if other = connection then ⟨closed, pairing⟩ else run.connections other }

/-- `pairing_session_get` -/
def pairingOf (run : PairingRun) (connection : UInt64) (created : Bool) :
    Option AirPlayPairingSession :=
  (run.connections connection).pairing.or (if created then some .fresh else none)

/-- One step.  One that cannot be made yet, or no longer, changes nothing. -/
def step (run : PairingRun) : PairingMove → PairingRun
  | .setup connection supply request response =>
    if (run.connections connection).closed ∨ run.storing.isSome ∨ uriIsSetup request.uri = false then
      run
    else
      match pairingRouteSetup crypto config supply run.service.setup request response with
      | .inl reply =>
        { run with
          service := { run.service with setup := reply.setup }
          events := run.events ++ reply.events }
      | .inr storing => { run with storing := some storing }
  | .store saved =>
    match run.storing with
    | none => run
    | some (pairing, response) =>
      let (reply, store) := pairingRouteStore config saved pairing response run.service.store
      { run with
        service := ⟨reply.setup, store⟩
        storing := none
        events := run.events ++ reply.events }
  | .request connection supply request response =>
    if (run.connections connection).closed ∨ uriIsSetup request.uri then run
    else
      match run.pairingOf connection supply.created with
      | none => run
      | some pairing =>
        match pairingRouteConnection crypto config run.service.store connection supply pairing
          request response with
        | none => run.setPairing connection (some pairing) false
        | some reply =>
          { run.setPairing connection (some reply.pairing) false with
            events := run.events ++ reply.events }
  | .close connection => run.setPairing connection none true

/-- A service that has been created with a store. -/
def started (store : AirPlayPairingStore) : PairingRun :=
  ⟨⟨none, store⟩, none, fun _ => ⟨false, none⟩, []⟩

end PairingRun

/-! ## What the events say -/

namespace AirPlayPairingEvent

/-- An event of the pair-setup session. -/
def isSetup : AirPlayPairingEvent → Bool
  | .pinStarted _ | .challenged _ _ | .proofAttempted _ _ _ | .stored _ => true
  | _ => false

/-- A proof is checked. -/
def IsAttempt : AirPlayPairingEvent → Prop
  | .proofAttempted _ _ _ => True
  | _ => False

/-- An event of pair-verify on a connection. -/
def OfConnection (connection : UInt64) : AirPlayPairingEvent → Prop
  | .verifyStarted other _ _ _ | .verified other _ _ => other = connection
  | _ => False

/-- What an event has stored. -/
def putInto (store : AirPlayPairingStore) : AirPlayPairingEvent → AirPlayPairingStore
  | .stored entry => store.put entry
  | _ => store

end AirPlayPairingEvent

variable (events : List AirPlayPairingEvent)

/-- The events of the pair-setup session. -/
def setupEvents : List AirPlayPairingEvent :=
  events.filter AirPlayPairingEvent.isSetup

/-- The store after some events. -/
def storeAfter (initial : AirPlayPairingStore) (events : List AirPlayPairingEvent) :
    AirPlayPairingStore :=
  events.foldl AirPlayPairingEvent.putInto initial

/-- The SRP server has been made for a username and a PIN. -/
def SrpMadeFor (username pin : CString) (srp : AirPlaySrpServer) : Prop :=
  ∃ salt privateBytes,
    AirPlaySrpServer.create crypto.sha1 username pin salt privateBytes = some srp

/-- A PIN has been started, and no proof has been attempted since. -/
def Unattempted (pin : CString) : Prop :=
  Since events (.pinStarted pin) AirPlayPairingEvent.IsAttempt

/-- The last session of pair-setup has had a PIN started, a challenge issued for the username, and
the proof for this PIN accepted. -/
def ProvedFor (username : CString) : Prop :=
  ∃ pin srp clientPublic clientProof,
    [.pinStarted pin, .challenged username srp, .proofAttempted srp clientPublic clientProof] <:+
      setupEvents events ∧
    SrpMadeFor crypto username pin srp ∧
    (srp.verify crypto.sha1 clientPublic clientProof).1.isSome

/-- What is claimed of an event after the events before it. -/
def AirPlayPairingEvent.Right (initial : AirPlayPairingStore)
    (before : List AirPlayPairingEvent) : AirPlayPairingEvent → Prop
  | .stored entry => ProvedFor crypto before entry.username
  | .proofAttempted srp _ _ =>
    ∃ pin username, [.pinStarted pin, .challenged username srp] <:+ setupEvents before ∧
      SrpMadeFor crypto username pin srp ∧ Unattempted before pin
  | .pinDisplayed pin => before.getLast? = some (.pinStarted pin)
  | .verifyStarted _ _ clientEdPublic _ => (storeAfter initial before).contains clientEdPublic
  | .verified connection clientEdPublic signature =>
    ∃ clientXPublic serverXPublic,
      Since before (.verifyStarted connection clientXPublic clientEdPublic serverXPublic)
        (OfConnection connection) ∧
      crypto.ed25519Verify clientEdPublic (clientXPublic ++ serverXPublic) signature = true
  | .pinStarted _ | .pinDismissed | .challenged _ _ => True

/-! ## What a request does -/

/-- Nothing but calls of the dismiss callback. -/
def Dismissals : Prop := ∀ event ∈ events, event = .pinDismissed

/-- What becomes of the pair-setup session, and what is done. -/
inductive PairingSetupMove :
    Option AirPlayPairingSession → Option AirPlayPairingSession → List AirPlayPairingEvent → Prop
  | kept (setup : Option AirPlayPairingSession) : PairingSetupMove setup setup []
  | dropped (setup : Option AirPlayPairingSession) {events : List AirPlayPairingEvent}
      (hevents : Dismissals events) : PairingSetupMove setup none events
  | started (setup : Option AirPlayPairingSession) {dismissed : List AirPlayPairingEvent}
      (hdismissed : Dismissals dismissed) {displayed : List AirPlayPairingEvent}
      {pin : CString} (hdisplayed : displayed = [] ∨ displayed = [.pinDisplayed pin])
      {pairing : AirPlayPairingSession} (hstate : pairing.state = .pinStarted)
      (hpin : pairing.pin = pin) :
      PairingSetupMove setup (some pairing) (dismissed ++ .pinStarted pin :: displayed)
  | challenged {pairing pairing' : AirPlayPairingSession} (hstate : pairing.state = .pinStarted)
      (hstate' : pairing'.state = .srpChallenge) {srp : AirPlaySrpServer}
      (hmade : SrpMadeFor crypto pairing'.username pairing.pin srp) (hsrp : pairing'.srp = some srp)
      {dismissed : List AirPlayPairingEvent} (hdismissed : Dismissals dismissed) :
      PairingSetupMove (some pairing) (some pairing')
        (.challenged pairing'.username srp :: dismissed)
  | refused {pairing : AirPlayPairingSession} (hstate : pairing.state = .srpChallenge)
      {srp : AirPlaySrpServer} (hsrp : pairing.srp = some srp) (clientPublic : List UInt8)
      (clientProof : SrpDigest) {dismissed : List AirPlayPairingEvent}
      (hdismissed : Dismissals dismissed) :
      PairingSetupMove (some pairing) none
        (.proofAttempted srp clientPublic clientProof :: dismissed)
  | proved {pairing pairing' : AirPlayPairingSession} (hstate : pairing.state = .srpChallenge)
      (hstate' : pairing'.state = .srpVerified) (husername : pairing'.username = pairing.username)
      {srp : AirPlaySrpServer} (hsrp : pairing.srp = some srp) {clientPublic : List UInt8}
      {clientProof : SrpDigest}
      (haccepted : (srp.verify crypto.sha1 clientPublic clientProof).1.isSome) :
      PairingSetupMove (some pairing) (some pairing')
        [.proofAttempted srp clientPublic clientProof]

/-- What becomes of the session of a connection, and what is done. -/
inductive PairingVerifyMove (store : AirPlayPairingStore) (connection : UInt64)
    (pairing pairing' : AirPlayPairingSession) : List AirPlayPairingEvent → Prop
  | failed {events : List AirPlayPairingEvent} (hevents : Dismissals events)
      (hstate' : pairing'.state = .failed) :
      PairingVerifyMove store connection pairing pairing' events
  | started (hstate : pairing.state = .idle ∨ pairing.state = .paired)
      (hstate' : pairing'.state = .verifyChallenge)
      (hregistered : store.contains pairing'.clientEdPublic) :
      PairingVerifyMove store connection pairing pairing'
        [.verifyStarted connection pairing'.clientXPublic pairing'.clientEdPublic
          pairing'.serverXPublic]
  | finished (hstate : pairing.state = .verifyChallenge) (hstate' : pairing'.state = .verified)
      (hkey : pairing'.clientEdPublic = pairing.clientEdPublic) {signature : List UInt8}
      (hsigned : crypto.ed25519Verify pairing.clientEdPublic
        (pairing.clientXPublic ++ pairing.serverXPublic) signature = true) :
      PairingVerifyMove store connection pairing pairing'
        [.verified connection pairing.clientEdPublic signature]

section moves

variable {crypto config} {supply : AirPlayPairingSupply} {pairing : AirPlayPairingSession}
  {request : AirPlayRtspRequest} {response : AirPlayRtspResponse}

lemma Dismissals.append {events events' : List AirPlayPairingEvent} (h : Dismissals events)
    (h' : Dismissals events') : Dismissals (events ++ events') := by
  intro event hevent
  rcases mem_append.mp hevent with hevent | hevent
  · exact h event hevent
  · exact h' event hevent

lemma dismissals_dismissed (config : AirPlayPairingConfig) (pairing : AirPlayPairingSession) :
    Dismissals (config.dismissed pairing) := by
  rw [AirPlayPairingConfig.dismissed]
  split_ifs
  · exact fun event hevent => mem_singleton.mp hevent
  · exact nofun

lemma dismissals_failure (pairing : AirPlayPairingSession) (response : AirPlayRtspResponse) :
    Dismissals ((pairingSetFailure config pairing response).events ++
      config.dismissed (pairingSetFailure config pairing response).pairing) :=
  (dismissals_dismissed config pairing).append (dismissals_dismissed config _)

lemma setup_failure {setup : Option AirPlayPairingSession} (pairing : AirPlayPairingSession)
    (response : AirPlayRtspResponse) :
    PairingSetupMove crypto setup
      (pairingSetupEnd config (pairingSetFailure config pairing response)).setup
      (pairingSetupEnd config (pairingSetFailure config pairing response)).events := by
  exact .dropped setup (dismissals_failure pairing response)

lemma setupMove_pinStart (crypto : AirPlayPairingCrypto) (setup : Option AirPlayPairingSession) :
    PairingSetupMove crypto setup (pairingRoutePinStart config supply setup request response).setup
      (pairingRoutePinStart config supply setup request response).events := by
  have hrepl : Dismissals (setup.elim [] config.dismissed) := by
    cases setup with
    | none => exact nofun
    | some pairing => exact dismissals_dismissed config pairing
  have hdropped : PairingSetupMove crypto setup none (setup.elim [] config.dismissed ++
      (pairingSetupEnd config
        (pairingSetFailure config AirPlayPairingSession.fresh response)).events) := by
    exact .dropped setup (hrepl.append (dismissals_failure _ response))
  rw [pairingRoutePinStart]
  by_cases hnew : supply.created = false
  · rw [if_pos hnew]
    exact .dropped setup hrepl
  rw [if_neg hnew]
  by_cases hrejected : request.method ≠ cstring "POST" ∨ request.bodyLength ≠ 0 ∨
      AirPlayPairingSession.fresh.state ≠ .idle
  · rw [pairingHandlePinStart, if_pos hrejected]
    exact hdropped
  rw [pairingHandlePinStart, if_neg hrejected]
  cases pairingMakePin supply.pinDraws with
  | none => exact hdropped
  | some pin =>
    refine .started setup hrepl ?_ rfl rfl
    split_ifs
    · exact .inr rfl
    · exact .inl rfl

lemma setupMove_challenge {root : AirPlayPlistValue} :
    PairingSetupMove crypto (some pairing) (pairingSetupEnd config
        (pairingSetupChallenge crypto config supply pairing root response)).setup
      (pairingSetupEnd config
        (pairingSetupChallenge crypto config supply pairing root response)).events := by
  rw [pairingSetupChallenge]
  by_cases hstate : pairing.state = .pinStarted
  swap
  · rw [if_pos hstate]
    exact setup_failure pairing response
  rw [if_neg (not_not.mpr hstate)]
  cases challengeUser root with
  | none => exact setup_failure pairing response
  | some username =>
    dsimp only
    cases hnew : AirPlaySrpServer.create crypto.sha1 username pairing.pin supply.srpSalt
      supply.srpPrivate with
    | none => exact setup_failure pairing response
    | some srp =>
      dsimp only
      cases challengeResponse srp response with
      | none => exact setup_failure _ response
      | some response =>
        refine .challenged hstate rfl ⟨supply.srpSalt, supply.srpPrivate, hnew⟩ rfl ?_
        split_ifs
        · exact fun event hevent => mem_singleton.mp hevent
        · exact nofun

lemma setupMove_proof {root : AirPlayPlistValue} :
    PairingSetupMove crypto (some pairing)
      (pairingSetupEnd config (pairingSetupProof crypto config pairing root response)).setup
      (pairingSetupEnd config (pairingSetupProof crypto config pairing root response)).events := by
  rw [pairingSetupProof]
  split
  · rename_i srp hstate hsrp
    cases setupProofOf root with
    | none => exact setup_failure pairing response
    | some proof =>
      obtain ⟨clientPublic, clientProof⟩ := proof
      dsimp only
      cases hanswer : (srp.verify crypto.sha1 clientPublic clientProof).1.bind
        fun serverProof => proofResponse serverProof response with
      | none =>
        exact .refused hstate hsrp clientPublic clientProof (dismissals_failure _ response)
      | some response =>
        obtain ⟨serverProof, hproof, -⟩ := bind_eq_some_iff.mp hanswer
        refine .proved hstate ?_ ?_ hsrp ?_
        · rfl
        · rfl
        · rw [hproof]
          rfl
  · exact setup_failure pairing response

/-- A request of pair-setup, up to the store: what it does, or that its session has been
verified. -/
lemma pairingRouteSetup_spec (crypto : AirPlayPairingCrypto) (config : AirPlayPairingConfig)
    (supply : AirPlayPairingSupply) (setup : Option AirPlayPairingSession)
    (request : AirPlayRtspRequest) (response : AirPlayRtspResponse) :
    (∃ reply, pairingRouteSetup crypto config supply setup request response = .inl reply ∧
        PairingSetupMove crypto setup reply.setup reply.events) ∨
      ∃ pairing pairing' response',
        pairingRouteSetup crypto config supply setup request response = .inr (pairing', response') ∧
          setup = some pairing ∧ pairing.state = .srpVerified ∧
          pairing'.username = pairing.username := by
  unfold pairingRouteSetup
  split_ifs
  · exact .inl ⟨_, rfl, setupMove_pinStart crypto setup⟩
  cases setup with
  | none => exact .inl ⟨_, rfl, .kept none⟩
  | some pairing =>
    dsimp only
    rw [pairingHandleSetup]
    split_ifs
    · exact .inl ⟨_, rfl, setup_failure pairing response⟩
    cases decodeDict request with
    | none => exact .inl ⟨_, rfl, setup_failure pairing response⟩
    | some root =>
      dsimp only
      split_ifs
      · exact .inl ⟨_, rfl, setupMove_challenge⟩
      · exact .inl ⟨_, rfl, setupMove_proof⟩
      · rw [pairingSetupExchangeKey]
        split_ifs with hstate
        · exact .inl ⟨_, rfl, setup_failure pairing response⟩
        rw [not_or, not_not] at hstate
        cases exchangeKey crypto pairing root response with
        | none => exact .inl ⟨_, rfl, setup_failure _ response⟩
        | some exchanged =>
          exact .inr ⟨pairing, _, exchanged.2, rfl, rfl, hstate.1, rfl⟩
      · exact .inl ⟨_, rfl, setup_failure pairing response⟩

variable {store : AirPlayPairingStore} {connection : UInt64}

lemma verify_failure (failed : AirPlayPairingSession) :
    PairingVerifyMove crypto store connection pairing
      (pairingSetFailure config failed response).pairing
      (pairingSetFailure config failed response).events :=
  .failed (dismissals_dismissed config failed) rfl

lemma verifyMove_start :
    PairingVerifyMove crypto store connection pairing
      (pairingVerifyStart crypto config store connection supply pairing request response).pairing
      (pairingVerifyStart crypto config store connection supply pairing request response).events := by
  rw [pairingVerifyStart]
  by_cases hstate : (pairing.state ≠ .idle ∧ pairing.state ≠ .paired) ∨ request.bodyLength ≠ 68
  · rw [if_pos hstate]
    exact verify_failure pairing
  rw [if_neg hstate]
  by_cases hreg : store.contains ((request.body.drop 36).take 32) = false
  · rw [if_pos hreg]
    exact verify_failure _
  rw [if_neg hreg]
  cases verifyKeys crypto supply ((request.body.drop 4).take 32) with
  | none => exact verify_failure _
  | some keys =>
    obtain ⟨serverXPrivate, serverXPublic, sharedSecret⟩ := keys
    dsimp only
    cases verifyResponse crypto ((request.body.drop 4).take 32) serverXPublic sharedSecret
      response with
    | none => exact verify_failure _
    | some response =>
      refine .started ?_ rfl ?_
      · by_contra hother
        rw [not_or] at hother
        exact hstate (.inl hother)
      · simpa using hreg

lemma verifyMove_finish :
    PairingVerifyMove crypto store connection pairing
      (pairingVerifyFinish crypto config connection pairing request response).pairing
      (pairingVerifyFinish crypto config connection pairing request response).events := by
  rw [pairingVerifyFinish]
  split_ifs with hstate
  · exact verify_failure pairing
  rw [not_or, not_not] at hstate
  cases verifyStream crypto pairing.sharedSecret with
  | none => exact verify_failure pairing
  | some stream =>
    dsimp only
    split_ifs with hsigned
    · exact verify_failure pairing
    cases response.setBody [] (cstring airplayOctetContentType) with
    | none => exact verify_failure pairing
    | some response =>
      refine .finished hstate.1 ?_ ?_ ?_
      · rfl
      · rfl
      · simpa using hsigned

lemma pairingRouteConnection_spec {reply : AirPlayPairingReply}
    (h : pairingRouteConnection crypto config store connection supply pairing request response =
      some reply) :
    PairingVerifyMove crypto store connection pairing reply.pairing reply.events := by
  rw [pairingRouteConnection] at h
  split_ifs at h
  · cases h
    rw [pairingHandleVerify]
    split_ifs
    · exact verify_failure pairing
    · exact verifyMove_start
    · exact verifyMove_finish
    · exact verify_failure pairing
  · cases h
    exact verify_failure pairing

end moves

/-! ## The account of the events -/

/-- How the events account for the pair-setup session. -/
def SetupAccounted (pairing : AirPlayPairingSession) : Prop :=
  match pairing.state with
  | .pinStarted =>
    [.pinStarted pairing.pin] <:+ setupEvents events ∧ Unattempted events pairing.pin
  | .srpChallenge =>
    ∃ pin srp, pairing.srp = some srp ∧ SrpMadeFor crypto pairing.username pin srp ∧
      [.pinStarted pin, .challenged pairing.username srp] <:+ setupEvents events ∧
      Unattempted events pin
  | .srpVerified => ProvedFor crypto events pairing.username
  | _ => False

/-- How the events account for the session of a connection. -/
def VerifyAccounted (connection : UInt64)
    (pairing : AirPlayPairingSession) : Prop :=
  match pairing.state with
  | .idle | .failed => True
  | .verifyChallenge =>
    Since events (.verifyStarted connection pairing.clientXPublic pairing.clientEdPublic
      pairing.serverXPublic) (AirPlayPairingEvent.OfConnection connection)
  | .verified => ∃ signature, .verified connection pairing.clientEdPublic signature ∈ events
  | _ => False

section accounts

variable {crypto} {initial : AirPlayPairingStore} {events more : List AirPlayPairingEvent}
  {pairing : AirPlayPairingSession} {connection : UInt64}

lemma setupEvents_append : setupEvents (events ++ more) = setupEvents events ++ setupEvents more :=
  filter_append ..

lemma setupEvents_of_unrelated (h : ∀ event ∈ more, event.isSetup = false) :
    setupEvents (events ++ more) = setupEvents events := by
  have hnone : setupEvents more = [] := by
    apply filter_eq_nil_iff.mpr
    intro event hevent
    rw [h event hevent]
    exact Bool.false_ne_true
  rw [setupEvents_append, hnone, append_nil]

lemma ProvedFor.of_unrelated {username : CString} (h : ProvedFor crypto events username)
    (hmore : ∀ event ∈ more, event.isSetup = false) :
    ProvedFor crypto (events ++ more) username := by
  unfold ProvedFor
  rwa [setupEvents_of_unrelated hmore]

lemma Unattempted.of_unrelated {pin : CString} (h : Unattempted events pin)
    (hmore : ∀ event ∈ more, event.isSetup = false) : Unattempted (events ++ more) pin := by
  refine Since.append h fun later hlater hattempt => ?_
  have hother := hmore later hlater
  cases later with
  | proofAttempted _ _ _ => cases hother
  | _ => exact hattempt

/-- Events of other sessions leave the account of the pair-setup session. -/
lemma SetupAccounted.of_unrelated (h : SetupAccounted crypto events pairing)
    (hmore : ∀ event ∈ more, event.isSetup = false) :
    SetupAccounted crypto (events ++ more) pairing := by
  unfold SetupAccounted at h ⊢
  rw [setupEvents_of_unrelated hmore]
  cases hstate : pairing.state with
  | pinStarted =>
    rw [hstate] at h
    exact ⟨h.1, h.2.of_unrelated hmore⟩
  | srpChallenge =>
    rw [hstate] at h
    obtain ⟨pin, srp, hsrp, hmade, hsuffix, hunattempted⟩ := h
    exact ⟨pin, srp, hsrp, hmade, hsuffix, hunattempted.of_unrelated hmore⟩
  | srpVerified =>
    rw [hstate] at h
    exact ProvedFor.of_unrelated h hmore
  | _ =>
    rw [hstate] at h
    exact h

lemma VerifyAccounted.of_unrelated (h : VerifyAccounted events connection pairing)
    (hmore : ∀ event ∈ more, ¬event.OfConnection connection) :
    VerifyAccounted (events ++ more) connection pairing := by
  unfold VerifyAccounted at h ⊢
  cases hstate : pairing.state with
  | verifyChallenge =>
    rw [hstate] at h
    exact Since.append h hmore
  | verified =>
    rw [hstate] at h
    obtain ⟨signature, hmem⟩ := h
    exact ⟨signature, mem_append_left _ hmem⟩
  | _ =>
    rw [hstate] at h
    exact h

lemma Dismissals.unrelated (h : Dismissals more) : ∀ event ∈ more, event.isSetup = false := by
  intro event hevent
  rw [h event hevent]
  rfl

lemma Dismissals.right (h : Dismissals more)
    (hright : Each (AirPlayPairingEvent.Right crypto initial) events) :
    Each (AirPlayPairingEvent.Right crypto initial) (events ++ more) := by
  apply Each.append hright
  intro event hevent before
  rw [h event hevent]
  trivial

lemma suffix_concat {last : AirPlayPairingEvent} {session : List AirPlayPairingEvent}
    (h : session <:+ setupEvents events) (hlast : last.isSetup) :
    session ++ [last] <:+ setupEvents (events ++ [last]) := by
  obtain ⟨front, hfront⟩ := h
  refine ⟨front, ?_⟩
  rw [setupEvents_append, ← hfront, append_assoc]
  simp [setupEvents, hlast]

lemma SetupAccounted.attempt (h : SetupAccounted crypto events pairing)
    (initial : AirPlayPairingStore) (hstate : pairing.state = .srpChallenge)
    {srp : AirPlaySrpServer} (hsrp : pairing.srp = some srp) (clientPublic : List UInt8)
    (clientProof : SrpDigest) :
    AirPlayPairingEvent.Right crypto initial events
      (.proofAttempted srp clientPublic clientProof) := by
  unfold SetupAccounted at h
  rw [hstate] at h
  obtain ⟨pin, srp', hsrp', hmade, hsuffix, hunattempted⟩ := h
  obtain rfl := some.inj (hsrp.symm.trans hsrp')
  exact ⟨pin, pairing.username, hsuffix, hmade, hunattempted⟩

variable {setup' setup : Option AirPlayPairingSession}

/-- What is done in pair-setup is right, and accounts for the session that is left. -/
lemma PairingSetupMove.accounted
    (hmove : PairingSetupMove crypto setup setup' more)
    (hsetup : ∀ pairing, setup = some pairing → SetupAccounted crypto events pairing)
    (hright : Each (AirPlayPairingEvent.Right crypto initial) events) :
    (∀ pairing, setup' = some pairing → SetupAccounted crypto (events ++ more) pairing) ∧
      Each (AirPlayPairingEvent.Right crypto initial) (events ++ more) := by
  cases hmove with
  | kept => simpa using ⟨hsetup, hright⟩
  | dropped _ hevs => exact ⟨nofun, hevs.right hright⟩
  | @started _ dismissed hdis displayed pin hdisplayed pairing hstate hpin =>
    have hsplit : events ++ (dismissed ++ .pinStarted pin :: displayed) =
        (events ++ dismissed ++ [.pinStarted pin]) ++ displayed := by
      simp
    have hacct : SetupAccounted crypto (events ++ dismissed ++ [.pinStarted pin]) pairing := by
      unfold SetupAccounted
      rw [hstate, hpin]
      exact ⟨suffix_concat nil_suffix rfl, since_concat.mpr (.inl rfl)⟩
    have hstart : Each (AirPlayPairingEvent.Right crypto initial)
        (events ++ dismissed ++ [.pinStarted pin]) :=
      each_concat.mpr ⟨hdis.right hright, trivial⟩
    rw [hsplit]
    rcases hdisplayed with rfl | rfl
    · rw [append_nil]
      exact ⟨fun _ heq => some.inj heq ▸ hacct, hstart⟩
    · refine ⟨fun _ heq => some.inj heq ▸ hacct.of_unrelated ?_, ?_⟩
      · exact fun event hevent => mem_singleton.mp hevent ▸ rfl
      · exact each_concat.mpr ⟨hstart, getLast?_concat⟩
  | @challenged pairing pairing' hstate hstate' srp hmade hsrp dismissed hdis =>
    have hold := hsetup pairing rfl
    unfold SetupAccounted at hold
    rw [hstate] at hold
    obtain ⟨hsuffix, hunattempted⟩ := hold
    have hacct : SetupAccounted crypto (events ++ [.challenged pairing'.username srp])
        pairing' := by
      unfold SetupAccounted
      rw [hstate']
      refine ⟨pairing.pin, srp, hsrp, hmade, ?_, ?_⟩
      · exact suffix_concat hsuffix rfl
      · exact since_concat.mpr (.inr ⟨hunattempted, id⟩)
    have hchallenged : Each (AirPlayPairingEvent.Right crypto initial)
        (events ++ [.challenged pairing'.username srp]) :=
      each_concat.mpr ⟨hright, trivial⟩
    rw [append_cons]
    refine ⟨fun _ heq => ?_, hdis.right hchallenged⟩
    exact some.inj heq ▸ hacct.of_unrelated hdis.unrelated
  | @refused pairing hstate srp hsrp clientPublic clientProof dismissed hdis =>
    have hattempt := (hsetup pairing rfl).attempt initial hstate hsrp clientPublic clientProof
    rw [append_cons]
    exact ⟨nofun, hdis.right (each_concat.mpr ⟨hright, hattempt⟩)⟩
  | @proved pairing pairing' hstate hstate' husername srp hsrp clientPublic clientProof hacc =>
    have hattempt := (hsetup pairing rfl).attempt initial hstate hsrp clientPublic clientProof
    refine ⟨fun _ heq => ?_, each_concat.mpr ⟨hright, hattempt⟩⟩
    have hold := hsetup pairing rfl
    unfold SetupAccounted at hold
    rw [hstate] at hold
    obtain ⟨pin, srp', hsrp', hmade, hsuffix, -⟩ := hold
    obtain rfl := some.inj (hsrp.symm.trans hsrp')
    rw [← some.inj heq]
    unfold SetupAccounted
    rw [hstate', husername]
    exact ⟨pin, srp, clientPublic, clientProof, suffix_concat hsuffix rfl, hmade, hacc⟩

lemma Dismissals.frame (h : Dismissals more) :
    ∀ event ∈ more, (∀ store, event.putInto store = store) ∧
      ∀ connection, ¬event.OfConnection connection := by
  intro event hevent
  rw [h event hevent]
  exact ⟨fun _ => rfl, fun _ => id⟩

lemma PairingSetupMove.frame
    (hmove : PairingSetupMove crypto setup setup' more) :
    ∀ event ∈ more, (∀ store, event.putInto store = store) ∧
      ∀ connection, ¬event.OfConnection connection := by
  cases hmove with
  | kept => exact nofun
  | dropped _ hevs => exact hevs.frame
  | started _ hdis hdisplayed =>
    intro event hevent
    rcases mem_append.mp hevent with hevent | hevent
    · exact hdis.frame event hevent
    rcases hdisplayed with rfl | rfl
    · rw [mem_singleton.mp hevent]
      exact ⟨fun _ => rfl, fun _ => id⟩
    · rcases mem_pair.mp hevent with rfl | rfl
      all_goals exact ⟨fun _ => rfl, fun _ => id⟩
  | challenged _ _ _ _ hdis | refused _ _ _ _ hdis =>
    refine forall_mem_cons.mpr ⟨?_, hdis.frame⟩
    exact ⟨fun _ => rfl, fun _ => id⟩
  | proved =>
    intro event hevent
    rw [mem_singleton.mp hevent]
    exact ⟨fun _ => rfl, fun _ => id⟩

lemma storeAfter_of_unstored (h : ∀ event ∈ more, ∀ store, event.putInto store = store) :
    storeAfter initial (events ++ more) = storeAfter initial events := by
  rw [storeAfter, foldl_append]
  induction more with
  | nil => rfl
  | cons event more ih =>
    rw [foldl_cons, h event mem_cons_self]
    exact ih fun event hevent => h event (.tail _ hevent)

variable {store : AirPlayPairingStore} {pairing' : AirPlayPairingSession}

section

variable (hmove : PairingVerifyMove crypto store connection pairing pairing' more)

include hmove

/-- What is done in pair-verify is right, accounts for the session that is left, and concerns
nobody else. -/
lemma PairingVerifyMove.accounted
    (hstore : store = storeAfter initial events) (hpair : VerifyAccounted events connection pairing)
    (hright : Each (AirPlayPairingEvent.Right crypto initial) events) :
    VerifyAccounted (events ++ more) connection pairing' ∧
      Each (AirPlayPairingEvent.Right crypto initial) (events ++ more) := by
  cases hmove with
  | failed hevs hstate' =>
    refine ⟨?_, hevs.right hright⟩
    unfold VerifyAccounted
    rw [hstate']
    trivial
  | started hstate hstate' hreg =>
    rw [hstore] at hreg
    refine ⟨?_, each_concat.mpr ⟨hright, hreg⟩⟩
    unfold VerifyAccounted
    rw [hstate']
    exact since_concat.mpr (.inl rfl)
  | @finished hstate hstate' hkey signature hsigned =>
    unfold VerifyAccounted at hpair
    rw [hstate] at hpair
    refine ⟨?_, each_concat.mpr ⟨hright, _, _, hpair, hsigned⟩⟩
    unfold VerifyAccounted
    rw [hstate', hkey]
    exact ⟨signature, mem_append_right _ (mem_singleton_self _)⟩

lemma PairingVerifyMove.failed_of_failed
    (hfailed : pairing.state = .failed) : pairing'.state = .failed := by
  cases hmove with
  | failed _ hstate' => exact hstate'
  | started hstate =>
    rw [hfailed] at hstate
    rcases hstate with hstate | hstate
    all_goals cases hstate
  | finished hstate =>
    rw [hfailed] at hstate
    cases hstate

lemma PairingVerifyMove.frame :
    ∀ event ∈ more, (∀ store, event.putInto store = store) ∧ event.isSetup = false ∧
      ∀ other, other ≠ connection → ¬event.OfConnection other := by
  cases hmove with
  | failed hevs =>
    intro event hevent
    rw [hevs event hevent]
    exact ⟨fun _ => rfl, rfl, fun _ _ => id⟩
  | started | finished =>
    intro event hevent
    rw [mem_singleton.mp hevent]
    exact ⟨fun _ => rfl, rfl, fun _ hother heq => hother heq.symm⟩

end

lemma pairingRouteStore_spec (config : AirPlayPairingConfig) (saved : Bool)
    (pairing : AirPlayPairingSession) (response : AirPlayRtspResponse)
    (store : AirPlayPairingStore) :
    (pairingRouteStore config saved pairing response store).1.setup = none ∧
      ∃ dismissed, Dismissals dismissed ∧
        ((pairingRouteStore config saved pairing response store).1.events =
              .stored pairing.entry :: dismissed ∧
            (pairingRouteStore config saved pairing response store).2 = store.put pairing.entry ∨
          (pairingRouteStore config saved pairing response store).1.events = dismissed ∧
            (pairingRouteStore config saved pairing response store).2 = store) := by
  rw [pairingRouteStore]
  rcases store.upsert_cases pairing.entry saved with hstore | href
  · rw [hstore]
    dsimp only
    exact ⟨rfl, _, dismissals_dismissed config _, .inl ⟨rfl, rfl⟩⟩
  · rw [href]
    dsimp only
    exact ⟨rfl, _, dismissals_failure _ response, .inr ⟨rfl, rfl⟩⟩

end accounts

/-! ## Every run -/

/-- One step of a run. -/
def PairingStep (run run' : PairingRun) : Prop := ∃ move, run' = run.step crypto config move

namespace PairingRun

/-- The events account for everything in a run. -/
structure Sound (initial : AirPlayPairingStore) (run : PairingRun) : Prop where
  store : run.service.store = storeAfter initial run.events
  setup : ∀ pairing, run.service.setup = some pairing → SetupAccounted crypto run.events pairing
  storing : ∀ pairing response, run.storing = some (pairing, response) →
    ProvedFor crypto run.events pairing.username
  verify : ∀ connection pairing, (run.connections connection).pairing = some pairing →
    VerifyAccounted run.events connection pairing
  right : Each (AirPlayPairingEvent.Right crypto initial) run.events

variable {crypto config} {initial : AirPlayPairingStore} {run : PairingRun}

lemma sound_started (store : AirPlayPairingStore) : (started store).Sound crypto store :=
  ⟨rfl, nofun, nofun, nofun, each_nil⟩

variable {connection : UInt64}

lemma verify_setPairing {events : List AirPlayPairingEvent} {new : Option AirPlayPairingSession}
    {closed : Bool}
    (hothers : ∀ other pairing, other ≠ connection → (run.connections other).pairing =
      some pairing → VerifyAccounted events other pairing)
    (hnew : ∀ pairing, new = some pairing → VerifyAccounted events connection pairing) :
    ∀ other pairing, ((run.setPairing connection new closed).connections other).pairing =
      some pairing → VerifyAccounted events other pairing := by
  intro other pairing h
  rw [setPairing] at h
  dsimp only at h
  split_ifs at h with hother
  · rw [hother]
    exact hnew pairing h
  · exact hothers other pairing hother h

section

variable (h : run.Sound crypto initial)

include h

lemma Sound.setupStep (connection : UInt64)
    (supply : AirPlayPairingSupply) (request : AirPlayRtspRequest)
    (response : AirPlayRtspResponse) :
    (run.step crypto config (.setup connection supply request response)).Sound crypto initial := by
  rw [step]
  split_ifs with hblocked
  · exact h
  rw [not_or, not_or] at hblocked
  have hfree : run.storing = none := not_isSome_iff_eq_none.mp hblocked.2.1
  rcases pairingRouteSetup_spec crypto config supply run.service.setup request response with
    ⟨reply, hreply, hmove⟩ | ⟨pairing, pairing', response', hreply, hsetup, hstate, husername⟩
  · rw [hreply]
    have hframe := hmove.frame
    obtain ⟨hsetup, hright⟩ := hmove.accounted h.setup h.right
    refine ⟨?_, hsetup, ?_, ?_, hright⟩
    · exact h.store.trans (storeAfter_of_unstored fun event hevent => (hframe event hevent).1).symm
    · dsimp only
      rw [hfree]
      exact nofun
    · exact fun other pairing hpair => (h.verify other pairing hpair).of_unrelated
        fun event hevent => (hframe event hevent).2 other
  · rw [hreply]
    refine ⟨h.store, h.setup, ?_, h.verify, h.right⟩
    intro storing _ hstoring
    cases hstoring
    have hproved := h.setup pairing hsetup
    unfold SetupAccounted at hproved
    rw [hstate] at hproved
    rw [husername]
    exact hproved

lemma Sound.storeStep (saved : Bool) :
    (run.step crypto config (.store saved)).Sound crypto initial := by
  rw [step]
  cases hstoring : run.storing with
  | none => exact h
  | some storing =>
    obtain ⟨pairing, response⟩ := storing
    have hproved := h.storing pairing response hstoring
    obtain ⟨hsetup, dismissed, hdis, hcase⟩ :=
      pairingRouteStore_spec config saved pairing response run.service.store
    dsimp only
    generalize pairingRouteStore config saved pairing response run.service.store = result at hsetup hcase
    obtain ⟨reply, store⟩ := result
    have hnobody : ∀ {more : List AirPlayPairingEvent}, Dismissals more →
        ∀ event ∈ more, ∀ other, ¬event.OfConnection other :=
      fun hmore event hevent => (hmore.frame event hevent).2
    have hkept : ∀ {more : List AirPlayPairingEvent}, Dismissals more →
        ∀ event ∈ more, ∀ store, event.putInto store = store :=
      fun hmore event hevent => (hmore.frame event hevent).1
    rw [hsetup]
    rcases hcase with ⟨hevs, hstore⟩ | ⟨hevs, hstore⟩
    · rw [hevs, hstore]
      refine ⟨?_, nofun, nofun, fun other pairing hpair => ?_, ?_⟩
      · dsimp only
        rw [append_cons, storeAfter_of_unstored (hkept hdis), h.store]
        simp [storeAfter, AirPlayPairingEvent.putInto]
      · refine (h.verify other pairing hpair).of_unrelated ?_
        exact forall_mem_cons.mpr ⟨id, fun event hevent => hnobody hdis event hevent other⟩
      · dsimp only
        rw [append_cons]
        exact hdis.right (each_concat.mpr ⟨h.right, hproved⟩)
    · rw [hevs, hstore]
      refine ⟨?_, nofun, nofun, fun other pairing hpair => ?_, hdis.right h.right⟩
      · exact h.store.trans (storeAfter_of_unstored (hkept hdis)).symm
      · exact (h.verify other pairing hpair).of_unrelated
          fun event hevent => hnobody hdis event hevent other

lemma Sound.requestStep (connection : UInt64)
    (supply : AirPlayPairingSupply) (request : AirPlayRtspRequest)
    (response : AirPlayRtspResponse) :
    (run.step crypto config (.request connection supply request response)).Sound crypto
      initial := by
  rw [step]
  split_ifs
  · exact h
  cases hpair : run.pairingOf connection supply.created with
  | none => exact h
  | some pairing =>
    have hacct : VerifyAccounted run.events connection pairing := by
      rcases or_eq_some_iff.mp hpair with hold | ⟨-, hfresh⟩
      · exact h.verify connection pairing hold
      split_ifs at hfresh
      cases hfresh
      trivial
    dsimp only
    cases hreply : pairingRouteConnection crypto config run.service.store connection supply pairing
      request response with
    | none =>
      refine ⟨h.store, h.setup, h.storing, ?_, h.right⟩
      refine verify_setPairing (fun other pairing _ => h.verify other pairing) fun _ heq => ?_
      exact some.inj heq ▸ hacct
    | some reply =>
      have hmove := pairingRouteConnection_spec hreply
      have hframe := hmove.frame
      obtain ⟨hverify, hright⟩ := hmove.accounted h.store hacct h.right
      have hunrelated : ∀ event ∈ reply.events, event.isSetup = false :=
        fun event hevent => (hframe event hevent).2.1
      refine ⟨?_, ?_, ?_, ?_, hright⟩
      · exact h.store.trans (storeAfter_of_unstored fun event hevent => (hframe event hevent).1).symm
      · exact fun pairing hsetup => (h.setup pairing hsetup).of_unrelated hunrelated
      · exact fun pairing response hstoring =>
          (h.storing pairing response hstoring).of_unrelated hunrelated
      refine verify_setPairing (fun other pairing hother hpair => ?_) fun _ heq => ?_
      · exact (h.verify other pairing hpair).of_unrelated fun event hevent =>
          (hframe event hevent).2.2 other hother
      · exact some.inj heq ▸ hverify

lemma Sound.step (move : PairingMove) : (run.step crypto config move).Sound crypto initial := by
  cases move with
  | setup connection supply request response =>
    exact h.setupStep connection supply request response
  | store saved => exact h.storeStep saved
  | request connection supply request response =>
    exact h.requestStep connection supply request response
  | close connection =>
    refine ⟨h.store, h.setup, h.storing, ?_, h.right⟩
    exact verify_setPairing (fun other pairing _ => h.verify other pairing) nofun

end

lemma sound_of_steps (hrun : Relation.ReflTransGen (PairingStep crypto config) (started initial) run) :
    run.Sound crypto initial := by
  induction hrun with
  | refl => exact sound_started initial
  | tail _ hstep ih =>
    obtain ⟨move, rfl⟩ := hstep
    exact ih.step move

/-- A connection that is closed, or whose session has failed. -/
def Lost (run : PairingRun) (connection : UInt64) : Prop :=
  (run.connections connection).closed = true ∨
    ∃ pairing, (run.connections connection).pairing = some pairing ∧ pairing.state = .failed

lemma Lost.setPairing {other : UInt64} (h : run.Lost connection)
    {pairing : Option AirPlayPairingSession} {closed : Bool}
    (hsame : connection = other → closed ∨ ∃ failed, pairing = some failed ∧ failed.state =
      .failed) :
    (run.setPairing other pairing closed).Lost connection := by
  by_cases hother : connection = other
  · rw [Lost, PairingRun.setPairing]
    dsimp only
    rw [if_pos hother]
    exact hsame hother
  · rw [Lost, PairingRun.setPairing]
    dsimp only
    rw [if_neg hother]
    exact h

/-- A failed session stays what it is until its connection closes, and that is for good. -/
lemma Lost.step (h : run.Lost connection) (move : PairingMove) :
    (run.step crypto config move).Lost connection := by
  cases move with
  | setup other supply request response =>
    rw [PairingRun.step]
    split_ifs
    · exact h
    cases pairingRouteSetup crypto config supply run.service.setup request response with
    | inl | inr => exact h
  | store saved =>
    rw [PairingRun.step]
    cases run.storing with
    | none | some => exact h
  | request other supply request response =>
    rw [PairingRun.step]
    split_ifs with hblocked
    · exact h
    rw [not_or] at hblocked
    cases hpair : run.pairingOf other supply.created with
    | none => exact h
    | some pairing =>
      have hfailed : connection = other → pairing.state = .failed := by
        rintro rfl
        obtain ⟨failed, hold, hstate⟩ := h.resolve_left hblocked.1
        rw [pairingOf, hold, some_or] at hpair
        rw [← some.inj hpair]
        exact hstate
      dsimp only
      cases hreply : pairingRouteConnection crypto config run.service.store other supply pairing
        request response with
      | none => exact h.setPairing fun heq => .inr ⟨pairing, rfl, hfailed heq⟩
      | some reply =>
        have hlost : (run.setPairing other (some reply.pairing) false).Lost connection := by
          refine h.setPairing fun heq => .inr ⟨reply.pairing, rfl, ?_⟩
          exact (pairingRouteConnection_spec hreply).failed_of_failed (hfailed heq)
        exact hlost
  | close other => exact h.setPairing fun _ => .inl rfl

/-- Each entry of the store was there from the beginning or has been stored. -/
lemma mem_storeAfter {events : List AirPlayPairingEvent} {entry : AirPlayPairingStoreEntry}
    (h : entry ∈ (storeAfter initial events).entries) :
    entry ∈ initial.entries ∨ .stored entry ∈ events := by
  induction events using reverseRecOn with
  | nil => exact .inl h
  | append_singleton events last ih =>
    have hgrown : entry ∈ (storeAfter initial events).entries →
        entry ∈ initial.entries ∨ .stored entry ∈ events ++ [last] :=
      fun hold => (ih hold).imp_right (mem_append_left _)
    rw [storeAfter, foldl_append] at h
    cases last with
    | stored other =>
      rcases AirPlayPairingStore.mem_put h with hold | rfl
      · exact hgrown hold
      · exact .inr (mem_append_right _ (mem_singleton_self _))
    | _ => exact hgrown h

end PairingRun

/-- What is claimed of a run, and of all that it can become. -/
structure PairingRun.Safe (initial : AirPlayPairingStore) (run : PairingRun) : Prop where
  right : Each (AirPlayPairingEvent.Right crypto initial) run.events
  stored : ∀ entry ∈ run.service.store.entries,
    entry ∈ initial.entries ∨ .stored entry ∈ run.events
  verified : ∀ connection pairing, (run.connections connection).pairing = some pairing →
    pairing.state = .verified →
      ∃ signature, .verified connection pairing.clientEdPublic signature ∈ run.events
  setup_failed : ∀ pairing, run.service.setup = some pairing → pairing.state ≠ .failed
  failed : ∀ connection pairing, (run.connections connection).pairing = some pairing →
    pairing.state = .failed → ∀ run', Relation.ReflTransGen (PairingStep crypto config) run run' →
      run'.Lost connection

/-- **Pairing safety.**  In every run from a service with any store: a pair is stored at the end
of one pair-setup session in which, in this order, a PIN was started, a challenge issued for the
pair's username and its proof for the PIN accepted; a PIN has one proof attempted at most; a
connection is verified when the client's key was in the store at the start of the exchange and has
signed the two keys of this exchange; and a session that has failed stays so. -/
theorem pairing_safe (initial : AirPlayPairingStore) {run : PairingRun}
    (hrun : Relation.ReflTransGen (PairingStep crypto config) (.started initial) run) :
    run.Safe crypto config initial := by
  have hsound := PairingRun.sound_of_steps hrun
  refine ⟨hsound.right, fun entry hentry => ?_, fun connection pairing hpairing hstate => ?_,
    fun pairing hsetup hstate => ?_, fun connection pairing hpairing hstate run' hsteps => ?_⟩
  · rw [hsound.store] at hentry
    exact PairingRun.mem_storeAfter hentry
  · have haccounted := hsound.verify connection pairing hpairing
    unfold VerifyAccounted at haccounted
    rw [hstate] at haccounted
    exact haccounted
  · have haccounted := hsound.setup pairing hsetup
    unfold SetupAccounted at haccounted
    rw [hstate] at haccounted
    exact haccounted
  · induction hsteps with
    | refl => exact .inr ⟨pairing, hpairing, hstate⟩
    | tail _ hstep ih =>
      obtain ⟨move, rfl⟩ := hstep
      exact ih.step move

/-- Primitives that take everything for genuine. -/
def trustingCrypto : AirPlayPairingCrypto where
  sha1 _ := Vector.replicate 20 0
  sha512 _ := some (List.replicate 64 0)
  aesGcmEncrypt _ _ plaintext := some (plaintext, List.replicate 16 0)
  aesGcmDecrypt _ _ _ ciphertext := some ciphertext
  aesCtrStream _ _ _ := 0
  x25519Shared _ _ := some wipedKey
  ed25519Verify _ _ _ := true
  identityPublicKey := some wipedKey
  identitySign _ := some (List.replicate 64 0)

/-- A request of pair-verify on the first connection. -/
def verifyMove (body : List UInt8) : PairingMove :=
  .request 1 ⟨true, [], none, none, some (wipedKey, wipedKey)⟩
    ⟨cstring "POST", cstring "/pair-verify", cstring "RTSP/1.0", [], body, body.length, false, 0⟩
    ⟨cstring "RTSP/1.0", 200, [], [], false, false⟩

/-- A client that has paired before is verified. -/
theorem pairing_safe_verified :
    let store : AirPlayPairingStore := ⟨[⟨cstring "user", List.replicate 32 7⟩]⟩
    let start := verifyMove ([1, 0, 0, 0] ++ List.replicate 32 9 ++ List.replicate 32 7)
    let finish := verifyMove ([0, 0, 0, 0] ++ List.replicate 64 0)
    let config : AirPlayPairingConfig := ⟨true, true⟩
    let run := ((PairingRun.started store).step trustingCrypto config start).step trustingCrypto
      config finish
    run.Safe trustingCrypto config store ∧
      (run.connections 1).pairing.map AirPlayPairingSession.state = some .verified := by
  intro store start finish config run
  refine ⟨pairing_safe trustingCrypto config store ?_, by decide +kernel⟩
  exact (Relation.ReflTransGen.single ⟨start, rfl⟩).tail ⟨finish, rfl⟩

end NXCast
