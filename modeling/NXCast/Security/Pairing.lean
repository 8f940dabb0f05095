import NXCast.Security.PairingStore
import NXCast.Session.Handlers

/-!
# Pairing

`pairing.c`.  One session of pair-setup stands in the service for all connections, and a request
of pair-setup runs under the setup lock from its start to its end; only the key exchange at its
end takes the store lock too, so that such a request is one step up to there
(`PairingSetupTurn`) and one step from there on.  Every connection has a session of pair-verify of
its own, and a request of it touches nothing else but the store, once.

The cryptographic primitives are parameters, as is the device's identity.  What a request is given
by the random generator, the allocator and the disk is an argument.  The list of events says what
a request has done, the calls of the two PIN callbacks among it.
-/

namespace NXCast

/-! ## Data -/

/-- `AirPlayPairingState` -/
inductive AirPlayPairingState where
  | idle
  | pinStarted
  | srpChallenge
  | srpVerified
  | paired
  | verifyChallenge
  | verified
  | failed
deriving DecidableEq, Repr

/-- The primitives of `crypto.c` and `identity.c`; one that may fail gives an option.  AES in
counter mode is its key stream. -/
structure AirPlayPairingCrypto where
  sha1 : List UInt8 → SrpDigest
  sha512 : List UInt8 → Option (List UInt8)
  aesGcmEncrypt : (key nonce plaintext : List UInt8) → Option (List UInt8 × List UInt8)
  aesGcmDecrypt : (key nonce tag ciphertext : List UInt8) → Option (List UInt8)
  aesCtrStream : (key counter : List UInt8) → ℕ → UInt8
  x25519Shared : (privateKey peerPublicKey : List UInt8) → Option (List UInt8)
  ed25519Verify : (publicKey message signature : List UInt8) → Bool
  identityPublicKey : Option (List UInt8)
  identitySign : (message : List UInt8) → Option (List UInt8)

/-- `AirPlayPairingConfig`: which of the two callbacks are there. -/
structure AirPlayPairingConfig where
  pinDisplayCallback : Bool
  pinDismissCallback : Bool

/-- `AirPlayPairingSession`.  A PIN that has been wiped is the empty text. -/
structure AirPlayPairingSession where
  state : AirPlayPairingState
  srp : Option AirPlaySrpServer
  pin : CString
  username : CString
  clientEdPublic : List UInt8
  clientXPublic : List UInt8
  serverXPrivate : List UInt8
  serverXPublic : List UInt8
  sharedSecret : List UInt8

/-- A key that `airplay_crypto_secure_zero` leaves. -/
def wipedKey : List UInt8 := List.replicate 32 0

/-- A session as `pairing_session_create` makes it. -/
def AirPlayPairingSession.fresh : AirPlayPairingSession :=
  ⟨.idle, none, .ofBuffer [], .ofBuffer [], wipedKey, wipedKey, wipedKey, wipedKey, wipedKey⟩

/-- What a request is given: whether a session can be made, the bytes drawn for a PIN until the
generator fails, the salt and the private value of SRP, and a key pair. -/
structure AirPlayPairingSupply where
  created : Bool
  pinDraws : List (Option (UInt8 × UInt8))
  srpSalt : Option (Vector UInt8 16)
  srpPrivate : Option (Vector UInt8 32)
  x25519Keypair : Option (List UInt8 × List UInt8)

/-- What a request has done. -/
inductive AirPlayPairingEvent where
  | pinStarted (pin : CString)
  | pinDisplayed (pin : CString)
  | pinDismissed
  | challenged (username : CString) (srp : AirPlaySrpServer)
  | proofAttempted (srp : AirPlaySrpServer) (clientPublic : List UInt8) (clientProof : SrpDigest)
  | stored (entry : AirPlayPairingStoreEntry)
  | verifyStarted (connection : UInt64) (clientXPublic clientEdPublic serverXPublic : List UInt8)
  | verified (connection : UInt64) (clientEdPublic signature : List UInt8)

/-- What a function of a session returns and leaves. -/
structure AirPlayPairingReply where
  handled : Bool
  pairing : AirPlayPairingSession
  response : AirPlayRtspResponse
  events : List AirPlayPairingEvent

variable (crypto : AirPlayPairingCrypto) (config : AirPlayPairingConfig)

variable (pairing : AirPlayPairingSession)

/-- The call of the dismiss callback, for a session that has a PIN. -/
def AirPlayPairingConfig.dismissed : List AirPlayPairingEvent :=
  if config.pinDismissCallback && decide (pairing.pin.strlen ≠ 0) then [.pinDismissed] else []

/-- The response of a failure: `airplay_rtsp_response_set_body` with nothing and status 470. -/
def AirPlayRtspResponse.rejectPairing (response : AirPlayRtspResponse) : AirPlayRtspResponse :=
  { response with body := [], closeConnection := true, statusCode := 470 }

/-- `pairing_set_failure` -/
def pairingSetFailure (response : AirPlayRtspResponse) :
    AirPlayPairingReply where
  handled := true
  pairing := { pairing with
    srp := none
    pin := .ofBuffer []
    serverXPrivate := wipedKey
    sharedSecret := wipedKey
    state := .failed }
  response := response.rejectPairing
  events := config.dismissed pairing

/-! ## Pair setup -/

/-- A number under 10000 in four digits. -/
def pinText (value : ℕ) : CString :=
  .ofBuffer ([value / 1000 % 10, value / 100 % 10, value / 10 % 10, value % 10].map fun digit =>
    UInt8.ofNat (0x30 + digit))

/-- `pairing_make_pin` -/
def pairingMakePin : List (Option (UInt8 × UInt8)) → Option CString
  | [] | none :: _ => none
  | some (high, low) :: draws =>
    let value := high.toNat * 256 + low.toNat
    if value ≥ 59994 then pairingMakePin draws else some (pinText (value % 9999 + 1))

variable (supply : AirPlayPairingSupply)

/-- `pairing_handle_pin_start` -/
def pairingHandlePinStart (pairing : AirPlayPairingSession)
    (request : AirPlayRtspRequest) (response : AirPlayRtspResponse) : AirPlayPairingReply :=
  if request.method ≠ cstring "POST" ∨ request.bodyLength ≠ 0 ∨ pairing.state ≠ .idle then
    pairingSetFailure config pairing response
  else
    match pairingMakePin supply.pinDraws with
    | none => pairingSetFailure config pairing response
    | some pin =>
      { handled := true
        pairing := { pairing with pin, state := .pinStarted }
        response
        events := .pinStarted pin ::
          (if config.pinDisplayCallback then [.pinDisplayed pin] else []) }

variable (request : AirPlayPlistValue)

/-- The user of a request for a challenge. -/
def challengeUser : Option CString := do
  let method ← (dictGet request "method").bind airplayPlistGetString
  let username ← (dictGet request "user").bind airplayPlistGetString
  guard (method = cstring "pin" ∧ username.strlen ≠ 0 ∧ username.strlen ≤ srpUsernameMax)
  return username

/-- The response to a request for a challenge. -/
def challengeResponse (srp : AirPlaySrpServer) (response : AirPlayRtspResponse) :
    Option AirPlayRtspResponse := do
  let root ← dictSet "pk" (airplayPlistNewData srp.publicKey) airplayPlistNewDict
  let root ← dictSet "salt" (airplayPlistNewData srp.salt.toList) root
  setPlistBody root response

/-- `pairing_setup_challenge` -/
def pairingSetupChallenge (pairing : AirPlayPairingSession)
    (request : AirPlayPlistValue) (response : AirPlayRtspResponse) : AirPlayPairingReply :=
  if pairing.state ≠ .pinStarted then pairingSetFailure config pairing response
  else
    match challengeUser request with
    | none => pairingSetFailure config pairing response
    | some username =>
      match AirPlaySrpServer.create crypto.sha1 username pairing.pin supply.srpSalt
        supply.srpPrivate with
      | none => pairingSetFailure config pairing response
      | some srp =>
        match challengeResponse srp response with
        | none => pairingSetFailure config { pairing with srp := some srp, username } response
        | some response =>
          { handled := true
            pairing := { pairing with
              srp := some srp
              username
              pin := .ofBuffer []
              state := .srpChallenge }
            response
            events := .challenged username srp ::
              (if config.pinDismissCallback then [.pinDismissed] else []) }

/-- The public value and the proof of a client. -/
def setupProofOf : Option (List UInt8 × SrpDigest) := do
  let clientPublic ← (dictGet request "pk").bind airplayPlistGetData
  let clientProof ← (dictGet request "proof").bind airplayPlistGetData
  guard (clientPublic.length ≠ 0 ∧ clientPublic.length ≤ srpPublicKeySize)
  if h : clientProof.length = srpProofSize then
    return (clientPublic, ⟨clientProof.toArray, by simpa using h⟩)
  else none

/-- The response to a proof that is accepted. -/
def proofResponse (serverProof : SrpDigest) (response : AirPlayRtspResponse) :
    Option AirPlayRtspResponse := do
  let root ← dictSet "proof" (airplayPlistNewData serverProof.toList) airplayPlistNewDict
  setPlistBody root response

/-- `pairing_setup_proof` -/
def pairingSetupProof
    (response : AirPlayRtspResponse) : AirPlayPairingReply :=
  match pairing.state, pairing.srp with
  | .srpChallenge, some srp =>
    match setupProofOf request with
    | none => pairingSetFailure config pairing response
    | some (clientPublic, clientProof) =>
      let attempted := AirPlayPairingEvent.proofAttempted srp clientPublic clientProof
      let (serverProof, srp) := srp.verify crypto.sha1 clientPublic clientProof
      match serverProof.bind fun serverProof => proofResponse serverProof response with
      | none =>
        let failure := pairingSetFailure config { pairing with srp := some srp } response
        { failure with events := attempted :: failure.events }
      | some response =>
        ⟨true, { pairing with srp := some srp, state := .srpVerified }, response, [attempted]⟩
  | _, _ => pairingSetFailure config pairing response

/-- `pairing_derive_label` -/
def pairingDeriveLabel (label : String) (secret : List UInt8) (outputSize : ℕ) :
    Option (List UInt8) :=
  if (asciiBytes label).length + secret.length > 96 ∨ outputSize > 64 then none
  else (crypto.sha512 (asciiBytes label ++ secret)).map fun hash => hash.take outputSize

/-- `nonce[15]++` -/
def incrementNonce (nonce : List UInt8) : List UInt8 := nonce.modify 15 (· + 1)

/-- The part of `pairing_setup_exchange_key` in front of the store: the client's key and the
response. -/
def exchangeKey
    (response : AirPlayRtspResponse) : Option (List UInt8 × AirPlayRtspResponse) := do
  let srp ← pairing.srp
  let encryptedPublic ← (dictGet request "epk").bind airplayPlistGetData
  let clientTag ← (dictGet request "authTag").bind airplayPlistGetData
  guard (encryptedPublic.length = 32 ∧ clientTag.length = 16)
  let sessionKey ← srp.readSessionKey
  let aesKey ← pairingDeriveLabel crypto "Pair-Setup-AES-Key" sessionKey 16
  let nonce ← pairingDeriveLabel crypto "Pair-Setup-AES-IV" sessionKey 16
  let clientEdPublic ← crypto.aesGcmDecrypt aesKey (incrementNonce nonce) clientTag encryptedPublic
  let serverPublic ← crypto.identityPublicKey
  let (encrypted, tag) ←
    crypto.aesGcmEncrypt aesKey (incrementNonce (incrementNonce nonce)) serverPublic
  let root ← dictSet "epk" (airplayPlistNewData encrypted) airplayPlistNewDict
  let root ← dictSet "authTag" (airplayPlistNewData tag) root
  let response ← setPlistBody root response
  return (clientEdPublic, response)

/-- A request of pair-setup up to its end, or up to the store: then the session has the client's
key, and the response is built. -/
inductive PairingSetupTurn where
  | done (reply : AirPlayPairingReply)
  | storing (pairing : AirPlayPairingSession) (response : AirPlayRtspResponse)

/-- `pairing_setup_exchange_key` up to the store. -/
def pairingSetupExchangeKey
    (response : AirPlayRtspResponse) : PairingSetupTurn :=
  if pairing.state ≠ .srpVerified ∨ pairing.srp = none then
    .done (pairingSetFailure config pairing response)
  else
    match exchangeKey crypto pairing request response with
    | none => .done (pairingSetFailure config { pairing with srp := none } response)
    | some (clientEdPublic, response) => .storing { pairing with clientEdPublic } response

/-- The entry that a session stores. -/
def AirPlayPairingSession.entry : AirPlayPairingStoreEntry :=
  ⟨pairing.username, pairing.clientEdPublic⟩

/-- `pairing_setup_exchange_key` from the store on; `stored` is the result of the upsert. -/
def pairingSetupExchanged (stored : Bool) (pairing : AirPlayPairingSession)
    (response : AirPlayRtspResponse) : AirPlayPairingReply :=
  if stored then
    { handled := true
      pairing := { pairing with srp := none, state := .paired }
      response
      events := [.stored pairing.entry] }
  else pairingSetFailure config { pairing with srp := none } response

/-- `pairing_handle_setup` up to its end or the store. -/
def pairingHandleSetup (pairing : AirPlayPairingSession)
    (request : AirPlayRtspRequest) (response : AirPlayRtspResponse) : PairingSetupTurn :=
  if request.method ≠ cstring "POST" then .done (pairingSetFailure config pairing response)
  else
    match decodeDict request with
    | none => .done (pairingSetFailure config pairing response)
    | some root =>
      if (dictGet root "method").isSome ∨ (dictGet root "user").isSome then
        .done (pairingSetupChallenge crypto config supply pairing root response)
      else if (dictGet root "proof").isSome then
        .done (pairingSetupProof crypto config pairing root response)
      else if (dictGet root "epk").isSome ∨ (dictGet root "authTag").isSome then
        pairingSetupExchangeKey crypto config pairing root response
      else .done (pairingSetFailure config pairing response)

/-! ## Pair verify -/

/-- `airplay_crypto_aes_ctr_crypt`, from an offset of the key stream on. -/
def aesCtrCrypt (stream : ℕ → UInt8) (offset : ℕ) (input : List UInt8) : List UInt8 :=
  input.mapIdx fun index byte => byte ^^^ stream (offset + index)

/-- The key stream of an exchange. -/
def verifyStream (sharedSecret : List UInt8) : Option (ℕ → UInt8) := do
  let key ← pairingDeriveLabel crypto "Pair-Verify-AES-Key" sharedSecret 16
  let nonce ← pairingDeriveLabel crypto "Pair-Verify-AES-IV" sharedSecret 16
  return crypto.aesCtrStream key nonce

/-- The keys of `pairing_verify_start`: the two of the server and the shared secret. -/
def verifyKeys (clientXPublic : List UInt8) :
    Option (List UInt8 × List UInt8 × List UInt8) := do
  let (serverXPrivate, serverXPublic) ← supply.x25519Keypair
  let sharedSecret ← crypto.x25519Shared serverXPrivate clientXPublic
  return (serverXPrivate, serverXPublic, sharedSecret)

/-- The response of `pairing_verify_start`. -/
def verifyResponse (clientXPublic serverXPublic sharedSecret : List UInt8)
    (response : AirPlayRtspResponse) : Option AirPlayRtspResponse := do
  let signature ← crypto.identitySign (serverXPublic ++ clientXPublic)
  let stream ← verifyStream crypto sharedSecret
  response.setBody (serverXPublic ++ aesCtrCrypt stream 0 signature)
    (cstring airplayOctetContentType)

/-- `pairing_verify_start` -/
def pairingVerifyStart (store : AirPlayPairingStore) (connection : UInt64)
    (supply : AirPlayPairingSupply) (pairing : AirPlayPairingSession) (request : AirPlayRtspRequest)
    (response : AirPlayRtspResponse) : AirPlayPairingReply :=
  if (pairing.state ≠ .idle ∧ pairing.state ≠ .paired) ∨ request.bodyLength ≠ 68 then
    pairingSetFailure config pairing response
  else
    let clientXPublic := (request.body.drop 4).take 32
    let clientEdPublic := (request.body.drop 36).take 32
    let pairing := { pairing with clientXPublic, clientEdPublic }
    if store.contains clientEdPublic = false then pairingSetFailure config pairing response
    else
      match verifyKeys crypto supply clientXPublic with
      | none => pairingSetFailure config pairing response
      | some (serverXPrivate, serverXPublic, sharedSecret) =>
        let pairing := { pairing with serverXPrivate, serverXPublic, sharedSecret }
        match verifyResponse crypto clientXPublic serverXPublic sharedSecret response with
        | none => pairingSetFailure config pairing response
        | some response =>
          { handled := true
            pairing := { pairing with state := .verifyChallenge }
            response
            events := [.verifyStarted connection clientXPublic clientEdPublic serverXPublic] }

/-- `pairing_verify_finish` -/
def pairingVerifyFinish (connection : UInt64) (pairing : AirPlayPairingSession)
    (request : AirPlayRtspRequest) (response : AirPlayRtspResponse) : AirPlayPairingReply :=
  if pairing.state ≠ .verifyChallenge ∨ request.bodyLength ≠ 68 then
    pairingSetFailure config pairing response
  else
    match verifyStream crypto pairing.sharedSecret with
    | none => pairingSetFailure config pairing response
    | some stream =>
      -- the first 64 bytes of the stream went into the server's own signature
      let signature := aesCtrCrypt stream 64 ((request.body.drop 4).take 64)
      if crypto.ed25519Verify pairing.clientEdPublic
          (pairing.clientXPublic ++ pairing.serverXPublic) signature = false then
        pairingSetFailure config pairing response
      else
        match response.setBody [] (cstring airplayOctetContentType) with
        | none => pairingSetFailure config pairing response
        | some response =>
          { handled := true
            pairing := { pairing with state := .verified, serverXPrivate := wipedKey }
            response
            events := [.verified connection pairing.clientEdPublic signature] }

/-- `pairing_handle_verify` -/
def pairingHandleVerify (store : AirPlayPairingStore) (connection : UInt64)
    (supply : AirPlayPairingSupply) (pairing : AirPlayPairingSession) (request : AirPlayRtspRequest)
    (response : AirPlayRtspResponse) : AirPlayPairingReply :=
  if request.method ≠ cstring "POST" ∨ request.bodyLength < 4 then
    pairingSetFailure config pairing response
  else if request.body.head? = some 1 then
    pairingVerifyStart crypto config store connection supply pairing request response
  else if request.body.head? = some 0 then
    pairingVerifyFinish crypto config connection pairing request response
  else pairingSetFailure config pairing response

/-! ## Routes -/

/-- What `airplay_pairing_route` works on besides a connection's own session. -/
structure AirPlayPairingService where
  setup : Option AirPlayPairingSession
  store : AirPlayPairingStore

/-- Whether a URI is one of pair-setup. -/
def uriIsSetup (uri : CString) : Bool :=
  decide (uri = cstring "/pair-pin-start") || decide (uri = cstring "/pair-setup-pin")

/-- What a request of pair-setup returns and leaves. -/
structure PairingSetupReply where
  handled : Bool
  setup : Option AirPlayPairingSession
  response : AirPlayRtspResponse
  events : List AirPlayPairingEvent

/-- The end of `pairing_route_setup`: a session that has failed or paired is destroyed. -/
def pairingSetupEnd (reply : AirPlayPairingReply) : PairingSetupReply :=
  if reply.pairing.state = .failed ∨ reply.pairing.state = .paired then
    ⟨reply.handled, none, reply.response, reply.events ++ config.dismissed reply.pairing⟩
  else ⟨reply.handled, some reply.pairing, reply.response, reply.events⟩

/-- `pairing_route_setup` for the start of a PIN; the session before it is destroyed. -/
def pairingRoutePinStart (setup : Option AirPlayPairingSession)
    (request : AirPlayRtspRequest) (response : AirPlayRtspResponse) : PairingSetupReply :=
  let replaced := setup.elim [] config.dismissed
  if supply.created = false then ⟨false, none, response, replaced⟩
  else
    let reply := pairingSetupEnd config (pairingHandlePinStart config supply .fresh request response)
    { reply with events := replaced ++ reply.events }

/-- `pairing_route_setup` up to its end, or up to the store: then with the session and the
response. -/
def pairingRouteSetup (setup : Option AirPlayPairingSession)
    (request : AirPlayRtspRequest) (response : AirPlayRtspResponse) :
    PairingSetupReply ⊕ AirPlayPairingSession × AirPlayRtspResponse :=
  if request.uri = cstring "/pair-pin-start" then
    .inl (pairingRoutePinStart config supply setup request response)
  else
    match setup with
    | none => .inl ⟨true, none, response.rejectPairing, []⟩
    | some pairing =>
      match pairingHandleSetup crypto config supply pairing request response with
      | .done reply => .inl (pairingSetupEnd config reply)
      | .storing pairing response => .inr (pairing, response)

/-- `pairing_route_setup` from the store on. -/
def pairingRouteStore (saved : Bool) (pairing : AirPlayPairingSession)
    (response : AirPlayRtspResponse) (store : AirPlayPairingStore) :
    PairingSetupReply × AirPlayPairingStore :=
  let (stored, store) := store.upsert pairing.entry saved
  (pairingSetupEnd config (pairingSetupExchanged config stored pairing response), store)

/-- `airplay_pairing_route` for the other requests of a connection that has its session; `none`
is left to `airplay_rtsp_default_route`. -/
def pairingRouteConnection (store : AirPlayPairingStore) (connection : UInt64)
    (supply : AirPlayPairingSupply) (pairing : AirPlayPairingSession) (request : AirPlayRtspRequest)
    (response : AirPlayRtspResponse) : Option AirPlayPairingReply :=
  if request.uri = cstring "/pair-verify" then
    some (pairingHandleVerify crypto config store connection supply pairing request response)
  else if (request.method = cstring "SETUP" ∨ request.method = cstring "RECORD") ∧
      pairing.state ≠ .verified then
    some (pairingSetFailure config pairing response)
  else none

end NXCast
