import NXCast.Framework.Runs
import NXCast.Framework.Turns
import NXCast.Security.PairingSafety

/-!
# The PIN on the screen

`pairing.c` shows a PIN by one callback and takes it away by the other: when a request fails, when the
challenge is issued, when the session is replaced or ends, and when the service is destroyed.  All of these
but the challenge tell a PIN that is shown by the text in the session, and a run is in order if the two
callbacks have taken turns up to what the sessions hold (`PairingRun.Shows`).
-/

namespace NXCast

open Turns AirPlayPairingSession Option

/-! ## What is shown -/

/-- The display of a PIN is `true`, its dismissal `false`. -/
def AirPlayPairingEvent.pinTurn : AirPlayPairingEvent → Option Bool
  | .pinDisplayed _ => some true
  | .pinDismissed => some false
  | _ => none

/-- Both callbacks are there, as `integration.c` gives them. -/
def pinCallbacks : AirPlayPairingConfig := ⟨true, true⟩

/-- The session has a PIN. -/
def AirPlayPairingSession.hasPin (pairing : AirPlayPairingSession) : Bool :=
  decide (pairing.pin.strlen ≠ 0)

/-- The session of pair-setup has a PIN. -/
def setupHasPin (setup : Option AirPlayPairingSession) : Bool := setup.any AirPlayPairingSession.hasPin

/-- What the callbacks have come to behind some events, from a PIN shown or none. -/
abbrev pinAfter (shown : Bool) (events : List AirPlayPairingEvent) : Option Bool :=
  after AirPlayPairingEvent.pinTurn shown events

lemma pinAfter_append {shown : Bool} {events more : List AirPlayPairingEvent} :
    pinAfter shown (events ++ more) = (pinAfter shown events).bind fun shown => pinAfter shown more :=
  after_append more

/-- `airplay_pairing_service_destroy`: what has been done in the end. -/
def PairingRun.destroyed (config : AirPlayPairingConfig) (run : PairingRun) : List AirPlayPairingEvent :=
  run.events ++ run.service.setup.elim [] config.dismissed

/-- A session whose PIN was started has one. -/
def AirPlayPairingSession.PinKept (pairing : AirPlayPairingSession) : Prop :=
  pairing.state = .pinStarted → pairing.hasPin = true

/-! ## The functions of a session -/

/-- A function of a session has called the callbacks in turn, up to what the session holds. -/
structure AirPlayPairingReply.InTurn (reply : AirPlayPairingReply) (shown : Bool) : Prop where
  turns : pinAfter shown reply.events = some reply.pairing.hasPin
  kept : reply.pairing.PinKept

/-- A function of a session without a PIN has called neither callback. -/
structure AirPlayPairingReply.Silent (reply : AirPlayPairingReply) : Prop where
  others : ∀ event ∈ reply.events, event.pinTurn = none
  unpinned : reply.pairing.hasPin = false

section replies

variable {crypto : AirPlayPairingCrypto} {supply : AirPlayPairingSupply}
  {pairing : AirPlayPairingSession} {request : AirPlayRtspRequest} {response : AirPlayRtspResponse}
  {store : AirPlayPairingStore} {connection : UInt64} {shown : Bool}

lemma pinAfter_dismissed (pairing : AirPlayPairingSession) :
    pinAfter pairing.hasPin (pinCallbacks.dismissed pairing) = some false := by
  unfold AirPlayPairingConfig.dismissed
  cases hpin : pairing.hasPin with
  | true =>
    rw [if_pos (by simpa [pinCallbacks, hasPin] using hpin)]
    rfl
  | false =>
    rw [if_neg (by simpa [pinCallbacks, hasPin] using hpin)]
    rfl

variable (config : AirPlayPairingConfig)

lemma dismissed_of_unpinned (h : pairing.hasPin = false) :
    config.dismissed pairing = [] := by
  have hempty : ¬pairing.pin.strlen ≠ 0 := of_decide_eq_false h
  rw [AirPlayPairingConfig.dismissed, if_neg (by simp [hempty])]

lemma inTurn_failure (pairing : AirPlayPairingSession) (response : AirPlayRtspResponse) :
    (pairingSetFailure pinCallbacks pairing response).InTurn pairing.hasPin :=
  ⟨pinAfter_dismissed pairing, nofun⟩

lemma silent_failure (h : pairing.hasPin = false)
    (response : AirPlayRtspResponse) : (pairingSetFailure config pairing response).Silent := by
  refine ⟨fun event hevent => ?_, rfl⟩
  have hevs : event ∈ config.dismissed pairing := hevent
  rw [dismissed_of_unpinned config h] at hevs
  exact absurd hevs List.not_mem_nil

lemma strlen_pairingMakePin {draws : List (Option (UInt8 × UInt8))} {pin : CString}
    (h : pairingMakePin draws = some pin) : pin.strlen ≠ 0 := by
  have htext : ∀ value, (pinText value).strlen ≠ 0 := by
    intro value
    have hfirst : UInt8.ofNat (0x30 + value / 1000 % 10) ≠ 0 := by
      intro hzero
      have hnat := congrArg UInt8.toNat hzero
      rw [UInt8.toNat_ofNat'] at hnat
      change _ = 0 at hnat
      omega
    rw [pinText, CString.strlen, CString.ofBuffer, List.map_cons]
    dsimp only
    rw [List.takeWhile_cons, if_pos (decide_eq_true hfirst), List.length_cons]
    exact Nat.succ_ne_zero _
  fun_induction pairingMakePin draws with
  | case1 => cases h
  | case2 => cases h
  | case3 high low draws value hagain ih => exact ih h
  | case4 high low draws value hdone =>
    obtain rfl := some.inj h
    exact htext _

lemma inTurn_pinStart :
    (pairingHandlePinStart pinCallbacks supply .fresh request response).InTurn false := by
  have hfail := inTurn_failure fresh response
  rw [pairingHandlePinStart]
  split
  · exact hfail
  cases hpin : pairingMakePin supply.pinDraws with
  | none => exact hfail
  | some pin =>
    have hshown : decide (pin.strlen ≠ 0) = true := decide_eq_true (strlen_pairingMakePin hpin)
    exact ⟨congrArg some hshown.symm, fun _ => hshown⟩

/-- The challenge takes the PIN away without a look at the session: there is one. -/
lemma inTurn_challenge (h : pairing.PinKept) {root : AirPlayPlistValue} :
    (pairingSetupChallenge crypto pinCallbacks supply pairing root response).InTurn
      pairing.hasPin := by
  rw [pairingSetupChallenge]
  by_cases hstate : pairing.state = .pinStarted
  swap
  · rw [if_pos hstate]
    exact inTurn_failure pairing response
  rw [if_neg (not_not.mpr hstate)]
  cases challengeUser root with
  | none => exact inTurn_failure pairing response
  | some username =>
    dsimp only
    cases AirPlaySrpServer.create crypto.sha1 username pairing.pin supply.srpSalt
      supply.srpPrivate with
    | none => exact inTurn_failure pairing response
    | some srp =>
      dsimp only
      cases challengeResponse srp response with
      | none => exact inTurn_failure { pairing with srp := some srp, username } response
      | some response =>
        rw [h hstate]
        exact ⟨rfl, by rintro ⟨⟩⟩

lemma inTurn_proof {root : AirPlayPlistValue} :
    (pairingSetupProof crypto pinCallbacks pairing root response).InTurn pairing.hasPin := by
  rw [pairingSetupProof]
  split
  · rename_i srp hstate hsrp
    cases setupProofOf root with
    | none => exact inTurn_failure pairing response
    | some proof =>
      dsimp only
      cases (srp.verify crypto.sha1 proof.1 proof.2).1.bind
        fun serverProof => proofResponse serverProof response with
      | none =>
        obtain ⟨hturns, hkept⟩ := inTurn_failure
          { pairing with srp := some (srp.verify crypto.sha1 proof.1 proof.2).2 } response
        exact ⟨hturns, hkept⟩
      | some response => exact ⟨rfl, by rintro ⟨⟩⟩
  · exact inTurn_failure pairing response

variable {reply : AirPlayPairingReply}

lemma AirPlayPairingReply.InTurn.setupEnd (h : reply.InTurn shown) :
    pinAfter shown (pairingSetupEnd pinCallbacks reply).events =
        some (setupHasPin (pairingSetupEnd pinCallbacks reply).setup) ∧
      ∀ pairing, (pairingSetupEnd pinCallbacks reply).setup = some pairing → pairing.PinKept := by
  rw [pairingSetupEnd]
  split
  · refine ⟨?_, nofun⟩
    rw [pinAfter_append, h.turns]
    exact pinAfter_dismissed reply.pairing
  · refine ⟨h.turns, fun pairing hpair => ?_⟩
    rw [← some.inj hpair]
    exact h.kept

/-! ## Requests -/

lemma pinAfter_routeSetup (crypto : AirPlayPairingCrypto) (supply : AirPlayPairingSupply)
    (request : AirPlayRtspRequest) (response : AirPlayRtspResponse) {setup : Option AirPlayPairingSession}
    (hkept : ∀ pairing, setup = some pairing → pairing.PinKept) :
    (∃ reply, pairingRouteSetup crypto pinCallbacks supply setup request response = .inl reply ∧
        pinAfter (setupHasPin setup) reply.events = some (setupHasPin reply.setup) ∧
        ∀ pairing, reply.setup = some pairing → pairing.PinKept) ∨
      ∃ pairing response', pairingRouteSetup crypto pinCallbacks supply setup request response =
        .inr (pairing, response') ∧ pairing.hasPin = setupHasPin setup := by
  unfold pairingRouteSetup
  split
  · refine .inl ⟨_, rfl, ?_⟩
    have hrepl : pinAfter (setupHasPin setup) (setup.elim [] pinCallbacks.dismissed) =
        some false := by
      cases setup with
      | none => rfl
      | some pairing => exact pinAfter_dismissed pairing
    rw [pairingRoutePinStart]
    split
    · exact ⟨hrepl, by simp⟩
    have hstart : (pairingHandlePinStart pinCallbacks supply .fresh request response).InTurn false :=
      inTurn_pinStart
    obtain ⟨hturns, hend⟩ := hstart.setupEnd
    refine ⟨?_, hend⟩
    rw [pinAfter_append, hrepl]
    exact hturns
  cases setup with
  | none => exact .inl ⟨_, rfl, rfl, by simp⟩
  | some pairing =>
    have hpair := hkept pairing rfl
    have hfail : ∀ {failed : AirPlayPairingSession}, failed.hasPin = pairing.hasPin →
        (pairingSetFailure pinCallbacks failed response).InTurn pairing.hasPin := by
      intro failed hsame
      rw [← hsame]
      exact inTurn_failure failed response
    have hdone : ∀ {reply : AirPlayPairingReply}, reply.InTurn pairing.hasPin →
        pinAfter (setupHasPin (some pairing)) (pairingSetupEnd pinCallbacks reply).events =
            some (setupHasPin (pairingSetupEnd pinCallbacks reply).setup) ∧
          ∀ pairing, (pairingSetupEnd pinCallbacks reply).setup = some pairing → pairing.PinKept :=
      (·.setupEnd)
    dsimp only
    rw [pairingHandleSetup]
    split_ifs
    · exact .inl ⟨_, rfl, hdone (hfail rfl)⟩
    cases decodeDict request with
    | none => exact .inl ⟨_, rfl, hdone (hfail rfl)⟩
    | some root =>
      dsimp only
      split_ifs
      · exact .inl ⟨_, rfl, hdone (inTurn_challenge hpair)⟩
      · exact .inl ⟨_, rfl, hdone inTurn_proof⟩
      · rw [pairingSetupExchangeKey]
        split_ifs
        · exact .inl ⟨_, rfl, hdone (hfail rfl)⟩
        cases exchangeKey crypto pairing root response with
        | none => exact .inl ⟨_, rfl, hdone (hfail rfl)⟩
        | some exchanged => exact .inr ⟨_, _, rfl, rfl⟩
      · exact .inl ⟨_, rfl, hdone (hfail rfl)⟩

lemma pinAfter_routeStore (saved : Bool) (pairing : AirPlayPairingSession)
    (response : AirPlayRtspResponse) (store : AirPlayPairingStore) :
    pinAfter pairing.hasPin (pairingRouteStore pinCallbacks saved pairing response store).1.events =
        some (setupHasPin (pairingRouteStore pinCallbacks saved pairing response store).1.setup) ∧
      ∀ pairing', (pairingRouteStore pinCallbacks saved pairing response store).1.setup =
        some pairing' → pairing'.PinKept := by
  unfold pairingRouteStore
  generalize store.upsert pairing.entry saved = upserted
  obtain ⟨stored, store⟩ := upserted
  apply AirPlayPairingReply.InTurn.setupEnd
  cases stored with
  | true => exact ⟨rfl, nofun⟩
  | false => exact inTurn_failure { pairing with srp := none } response

lemma silent_verify (h : pairing.hasPin = false) :
    (pairingHandleVerify crypto pinCallbacks store connection supply pairing request
      response).Silent := by
  have hfail : ∀ {failed : AirPlayPairingSession}, failed.pin = pairing.pin →
      (pairingSetFailure pinCallbacks failed response).Silent := by
    intro failed hsame
    refine silent_failure pinCallbacks ?_ response
    rw [hasPin, hsame]
    exact h
  have hquiet : ∀ {reply : AirPlayPairingReply} {event : AirPlayPairingEvent},
      reply.events = [event] → event.pinTurn = none → reply.pairing.pin = pairing.pin →
      reply.Silent := by
    intro reply event hevs hturn hsame
    refine ⟨?_, ?_⟩
    · rw [hevs]
      intro other hother
      rw [List.mem_singleton.mp hother]
      exact hturn
    · rw [hasPin, hsame]
      exact h
  rw [pairingHandleVerify]
  split_ifs
  · exact hfail rfl
  · rw [pairingVerifyStart]
    split_ifs
    · exact hfail rfl
    dsimp only
    split_ifs
    · exact hfail rfl
    cases verifyKeys crypto supply ((request.body.drop 4).take 32) with
    | none => exact hfail rfl
    | some keys =>
      dsimp only
      cases verifyResponse crypto ((request.body.drop 4).take 32) keys.2.1 keys.2.2 response with
      | none => exact hfail rfl
      | some answer => exact hquiet rfl rfl rfl
  · rw [pairingVerifyFinish]
    split_ifs
    · exact hfail rfl
    cases verifyStream crypto pairing.sharedSecret with
    | none => exact hfail rfl
    | some stream =>
      dsimp only
      split_ifs
      · exact hfail rfl
      cases response.setBody [] (cstring airplayOctetContentType) with
      | none => exact hfail rfl
      | some answer => exact hquiet rfl rfl rfl
  · exact hfail rfl

lemma silent_routeConnection (h : pairing.hasPin = false)
    (hreply : pairingRouteConnection crypto pinCallbacks store connection supply pairing request
      response = some reply) : reply.Silent := by
  rw [pairingRouteConnection] at hreply
  split_ifs at hreply
  · rw [← some.inj hreply]
    exact silent_verify h
  · rw [← some.inj hreply]
    exact silent_failure pinCallbacks h response

end replies

/-! ## Runs -/

namespace PairingRun

/-- The callbacks have taken turns up to what the session of pair-setup holds, and no other session has a
PIN. -/
structure Shows (run : PairingRun) : Prop where
  turns : pinAfter false run.events = some (setupHasPin run.service.setup)
  kept : ∀ pairing, run.service.setup = some pairing → pairing.PinKept
  storing : ∀ pairing response, run.storing = some (pairing, response) →
    pairing.hasPin = setupHasPin run.service.setup
  connections : ∀ connection pairing, (run.connections connection).pairing = some pairing →
    pairing.hasPin = false

variable {crypto : AirPlayPairingCrypto} {run : PairingRun}

lemma shows_started (store : AirPlayPairingStore) : (started store).Shows := ⟨rfl, nofun, nofun, nofun⟩

lemma Shows.setPairing (h : run.Shows) {connection : UInt64} {new : Option AirPlayPairingSession}
    (hnew : ∀ pairing, new = some pairing → pairing.hasPin = false) (closed : Bool) :
    (run.setPairing connection new closed).Shows := by
  refine ⟨h.turns, h.kept, h.storing, fun other pairing hpair => ?_⟩
  unfold PairingRun.setPairing at hpair
  dsimp only at hpair
  split at hpair
  · exact hnew pairing hpair
  · exact h.connections other pairing hpair

lemma Shows.setupStep (h : run.Shows) (connection : UInt64) (supply : AirPlayPairingSupply)
    (request : AirPlayRtspRequest) (response : AirPlayRtspResponse) :
    (run.step crypto pinCallbacks (.setup connection supply request response)).Shows := by
  rw [step]
  split_ifs with hblocked
  · exact h
  rw [not_or, not_or] at hblocked
  have hfree : run.storing = none := not_isSome_iff_eq_none.mp hblocked.2.1
  rcases pinAfter_routeSetup crypto supply request response h.kept with
    ⟨reply, hreply, hturns, hkept⟩ | ⟨pairing, response', hreply, hpin⟩
  · rw [hreply]
    refine ⟨?_, hkept, ?_, h.connections⟩
    · dsimp only
      rw [pinAfter_append, h.turns]
      exact hturns
    · dsimp only
      rw [hfree]
      simp
  · rw [hreply]
    refine ⟨h.turns, h.kept, fun storing _ hstoring => ?_, h.connections⟩
    obtain ⟨rfl, -⟩ := Prod.mk.inj (some.inj hstoring)
    exact hpin

lemma Shows.storeStep (h : run.Shows) (saved : Bool) :
    (run.step crypto pinCallbacks (.store saved)).Shows := by
  rw [step]
  cases hstoring : run.storing with
  | none => exact h
  | some storing =>
    obtain ⟨hturns, hkept⟩ := pinAfter_routeStore saved storing.1 storing.2 run.service.store
    refine ⟨?_, hkept, ?_, h.connections⟩
    · dsimp only
      rw [pinAfter_append, h.turns, ← h.storing storing.1 storing.2 hstoring]
      exact hturns
    · simp

lemma Shows.requestStep (h : run.Shows) (connection : UInt64) (supply : AirPlayPairingSupply)
    (request : AirPlayRtspRequest) (response : AirPlayRtspResponse) :
    (run.step crypto pinCallbacks (.request connection supply request response)).Shows := by
  rw [step]
  split_ifs
  · exact h
  cases hpair : run.pairingOf connection supply.created with
  | none => exact h
  | some pairing =>
    have hpin : pairing.hasPin = false := by
      rcases or_eq_some_iff.mp hpair with hold | ⟨-, hfresh⟩
      · exact h.connections connection pairing hold
      split_ifs at hfresh
      rw [← some.inj hfresh]
      rfl
    dsimp only
    cases hreply : pairingRouteConnection crypto pinCallbacks run.service.store connection supply
      pairing request response with
    | none =>
      refine h.setPairing (fun other hother => ?_) false
      rw [← some.inj hother]
      exact hpin
    | some reply =>
      obtain ⟨hothers, hunpinned⟩ := silent_routeConnection hpin hreply
      have hset : (run.setPairing connection (some reply.pairing) false).Shows := by
        refine h.setPairing (fun other hother => ?_) false
        rw [← some.inj hother]
        exact hunpinned
      refine ⟨?_, hset.kept, hset.storing, hset.connections⟩
      rw [pinAfter_append, h.turns]
      exact after_of_others hothers

lemma Shows.step (h : run.Shows) (move : PairingMove) :
    (run.step crypto pinCallbacks move).Shows := by
  cases move with
  | setup connection supply request response =>
    exact h.setupStep connection supply request response
  | store saved => exact h.storeStep saved
  | request connection supply request response =>
    exact h.requestStep connection supply request response
  | close connection =>
    apply h.setPairing
    intro pairing hnone
    cases hnone

lemma shows_run (crypto : AirPlayPairingCrypto) (store : AirPlayPairingStore) (moves : List PairingMove) :
    (Runs.run (PairingRun.step crypto pinCallbacks) (started store) moves).Shows :=
  (Runs.Reachable.start.run moves).invariant (shows_started store) fun _ move h _ => h.step move

end PairingRun

/-- **The PIN's balance.**  Whatever requests come from whatever connections, and whatever becomes of them:
until the service is destroyed the two callbacks have been called in strict turns, the display first and the
dismissal last. -/
theorem pinDisplay_balanced (crypto : AirPlayPairingCrypto) (store : AirPlayPairingStore)
    (moves : List PairingMove) :
    ∃ count, ((Runs.run (PairingRun.step crypto pinCallbacks) (.started store) moves).destroyed
        pinCallbacks).filterMap AirPlayPairingEvent.pinTurn =
      (List.replicate count [true, false]).flatten := by
  have hshows := PairingRun.shows_run crypto store moves
  generalize Runs.run (PairingRun.step crypto pinCallbacks) (.started store) moves = run at hshows
  apply after_eq_some_false
  have hlast : pinAfter (setupHasPin run.service.setup)
      (run.service.setup.elim [] pinCallbacks.dismissed) = some false := by
    cases run.service.setup with
    | none => rfl
    | some pairing => exact pinAfter_dismissed pairing
  calc pinAfter false (run.destroyed pinCallbacks)
      = (pinAfter false run.events).bind fun shown =>
          pinAfter shown (run.service.setup.elim [] pinCallbacks.dismissed) := pinAfter_append
    _ = some false := by rw [hshows.turns]; exact hlast

end NXCast
