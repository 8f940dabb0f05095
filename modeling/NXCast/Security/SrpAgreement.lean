import NXCast.Security.Srp

/-!
# The SRP server and its client agree

A server is made once and asked to verify any number of proofs; what the calls change is the
session key and whether a proof has been accepted (`Ready`).  For a client with the right PIN
every number that `airplay_srp_server_verify` computes is the client's, so it accepts the
client's proof and no other.
-/

namespace NXCast

open BigEndian SrpClient

variable (sha1 : List UInt8 → SrpDigest)

/-- What `airplay_srp_server_create` makes of a username, a PIN, a salt and a private key, and
what no call changes. -/
structure AirPlaySrpServer.Ready (username pin : CString) (privateKey : ℕ)
    (server : AirPlaySrpServer) : Prop where
  username_eq : server.username = username
  modulus_eq : server.modulus = srpModulus
  generator_eq : server.generator = 2
  verifier_eq : server.verifier =
    2 ^ srpPasswordExponent sha1 username server.salt pin % srpModulus
  privateKey_eq : server.privateKey = privateKey
  serverPublic_eq : server.serverPublic = (SrpClient.multiplier sha1 *
    (2 ^ srpPasswordExponent sha1 username server.salt pin % srpModulus) % srpModulus +
      2 ^ privateKey % srpModulus) % srpModulus
  publicKey_eq : server.publicKey = srpPadded server.serverPublic
  unread : server.authenticated = false → server.sessionKey = srpZeroKey

/-- The client of a server: it reads the salt and the public value that the server sends. -/
def AirPlaySrpServer.client (server : AirPlaySrpServer) (username pin : CString) (exponent : ℕ) :
    SrpClient where
  username
  pin
  salt := server.salt
  serverPublic := BigEndian.value server.publicKey
  exponent

/-- One call of `airplay_srp_server_verify`. -/
structure SrpVerifyCall where
  clientPublicKey : List UInt8
  clientProof : SrpDigest

/-- The server after some calls. -/
def AirPlaySrpServer.verifyAll (server : AirPlaySrpServer) (calls : List SrpVerifyCall) :
    AirPlaySrpServer :=
  calls.foldl (fun server call => (server.verify sha1 call.clientPublicKey call.clientProof).2)
    server

namespace AirPlaySrpServer

variable {sha1} {username pin : CString} {privateKey : ℕ} {server : AirPlaySrpServer}

lemma hashPaddedPair_eq {left right : ℕ} (hleft : left < 2 ^ (8 * srpPublicKeySize))
    (hright : right < 2 ^ (8 * srpPublicKeySize)) :
    hashPaddedPair sha1 left right =
      some (value (sha1 (srpPadded left ++ srpPadded right)).toList) := by
  simp [hashPaddedPair, mpiWritePadded_eq hleft, mpiWritePadded_eq hright]

lemma two_lt_bound : 2 < 2 ^ (8 * srpPublicKeySize) := by decide +kernel

/-- Random bytes with their first bit set, as `airplay_srp_server_create` takes them. -/
def firstBitSet {n : ℕ} (bytes : Vector UInt8 (n + 1)) : Vector UInt8 (n + 1) :=
  bytes.set 0 (bytes.get ⟨0, n.succ_pos⟩ ||| 0x80) n.succ_pos

/-- **Creation.** A server that has been made is ready, with the salt the callback has given, its
first bit set. -/
theorem Ready.create {salt : Option (Vector UInt8 16)} {privateBytes : Option (Vector UInt8 32)}
    (h : create sha1 username pin salt privateBytes = some server) :
    ∃ given bytes, salt = some given ∧ privateBytes = some bytes ∧
      server.salt = firstBitSet given ∧ server.authenticated = false ∧
      server.Ready sha1 username pin (value (firstBitSet bytes).toList) := by
  rw [AirPlaySrpServer.create] at h
  obtain ⟨_, _, h⟩ := Option.bind_eq_some_iff.mp h
  obtain ⟨_, _, h⟩ := Option.bind_eq_some_iff.mp h
  obtain ⟨given, hgiven, h⟩ := Option.bind_eq_some_iff.mp h
  obtain ⟨bytes, hbytes, h⟩ := Option.bind_eq_some_iff.mp h
  have hmultiplier : hashPaddedPair sha1 srpModulus 2 = some (multiplier sha1) :=
    hashPaddedPair_eq srpModulus_lt two_lt_bound
  simp only [calculateVerifier, calculateServerPublic, hmultiplier, mpiExpMod,
    mpiWritePadded_eq (mod_srpModulus_lt _), Option.bind_eq_bind, Option.bind_some,
    Option.pure_def, Option.some.injEq] at h
  subst h
  exact ⟨given, bytes, hgiven, hbytes, rfl, rfl, rfl, rfl, rfl, rfl, rfl, rfl, rfl, fun _ => rfl⟩

/-! ## One proof -/

section

variable (h : server.Ready sha1 username pin privateKey)

include h

variable (exponent : ℕ)

lemma Ready.client_serverPublic :
    (server.client username pin exponent).serverPublic = server.serverPublic := by
  show value server.publicKey = server.serverPublic
  rw [h.publicKey_eq]
  apply srpPadded_value
  rw [h.serverPublic_eq]
  exact mod_srpModulus_lt _

lemma Ready.serverPublic_lt : server.serverPublic < 2 ^ (8 * srpPublicKeySize) := by
  rw [h.serverPublic_eq]
  exact mod_srpModulus_lt _

/-- **The secrets agree**: what the server computes of the client's public value is the
client's secret. -/
theorem Ready.sharedSecret :
    mpiExpMod ((server.client username pin exponent).clientPublic *
        mpiExpMod server.verifier ((server.client username pin exponent).scrambling sha1)
          server.modulus % server.modulus) server.privateKey server.modulus =
      (server.client username pin exponent).sharedSecret sha1 := by
  have hagree := PasswordExchange.secrets_agree_mod srpModulus 2 (multiplier sha1)
    (srpPasswordExponent sha1 username server.salt pin) exponent privateKey
    ((server.client username pin exponent).scrambling sha1)
  rw [← h.serverPublic_eq, ← h.client_serverPublic exponent] at hagree
  rw [SrpClient.sharedSecret, mpiExpMod, mpiExpMod, h.modulus_eq, h.verifier_eq, h.privateKey_eq]
  have hnat := congrArg Int.toNat hagree
  exact hnat

/-- What `calculate_client_proof` computes where the session key is the client's. -/
lemma Ready.calculateClientProof :
    ({ server with
        sessionKey := (server.client username pin exponent).sessionKey sha1 } :
      AirPlaySrpServer).calculateClientProof sha1
        (server.client username pin exponent).clientPublic =
      some ((server.client username pin exponent).proof sha1) := by
  simp only [AirPlaySrpServer.calculateClientProof, hashMpiMinimal, h.modulus_eq, h.generator_eq,
    h.username_eq, mpiWriteMinimal_eq srpModulus_lt, mpiWriteMinimal_eq two_lt_bound,
    mpiWriteMinimal_eq h.serverPublic_lt, clientPublic,
    mpiWriteMinimal_eq (mod_srpModulus_lt _), proof, h.client_serverPublic,
    Option.map_some, Option.bind_eq_bind, Option.bind_some, Option.pure_def]
  rfl

/-- **The exchange.** Whatever bytes spell the client's public value, `checkProof` accepts the
client's proof and no other. -/
theorem Ready.checkProof
    {clientPublicKey : List UInt8} (hkey : value clientPublicKey =
      (server.client username pin exponent).clientPublic)
    (clientProof : SrpDigest) :
    server.checkProof sha1 clientPublicKey clientProof =
      if clientProof = (server.client username pin exponent).proof sha1 then
        some ((server.client username pin exponent).expectedServerProof sha1,
          { server with
            sessionKey := (server.client username pin exponent).sessionKey sha1
            authenticated := true })
      else none := by
  set client := server.client username pin exponent with hcli
  have hnonzero : client.clientPublic % server.modulus ≠ 0 := by
    rw [h.modulus_eq, SrpClient.clientPublic, Nat.mod_mod]
    exact two_pow_mod_srpModulus_ne_zero _
  have hpublic_lt : client.clientPublic < 2 ^ (8 * srpPublicKeySize) := mod_srpModulus_lt _
  have hscrambling : hashPaddedPair sha1 client.clientPublic server.serverPublic =
      some (client.scrambling sha1) := by
    rw [hashPaddedPair_eq hpublic_lt h.serverPublic_lt, SrpClient.scrambling, hcli,
      h.client_serverPublic]
  have hsecret_lt : client.sharedSecret sha1 < 2 ^ (8 * srpPublicKeySize) := by
    rw [hcli, ← h.sharedSecret exponent, mpiExpMod, h.modulus_eq]
    exact mod_srpModulus_lt _
  have hsess : calculateSessionKey sha1 (client.sharedSecret sha1) =
      some (client.sessionKey sha1) := by
    simp [calculateSessionKey, mpiWriteMinimal_eq hsecret_lt, SrpClient.sessionKey]
  have hserver : calculateServerProof sha1 client.clientPublic (client.proof sha1)
      (client.sessionKey sha1) = some (client.expectedServerProof sha1) := by
    simp [calculateServerProof, mpiWriteMinimal_eq hpublic_lt, SrpClient.expectedServerProof]
  have hsecret := h.sharedSecret exponent
  have hproof := h.calculateClientProof exponent
  rw [← hcli] at hsecret hproof
  simp only [AirPlaySrpServer.checkProof, hkey, guard, if_pos hnonzero, hscrambling, hsecret,
    hsess, hproof, Option.bind_eq_bind, Option.bind_some, Option.pure_def]
  by_cases haccept : clientProof = client.proof sha1
  · simp [haccept, hserver]
  · simp [haccept, Ne.symm haccept]

end

/-! ## Any number of proofs -/

/-- What `airplay_srp_server_verify` can come to: a call that is refused at once changes nothing,
and the others set the session key or wipe it. -/
lemma verify_cases (sha1 : List UInt8 → SrpDigest) (server : AirPlaySrpServer)
    (clientPublicKey : List UInt8) (clientProof : SrpDigest) :
    server.verify sha1 clientPublicKey clientProof = (none, server) ∨
      server.authenticated = false ∧
        (server.verify sha1 clientPublicKey clientProof =
            (none, { server with sessionKey := srpZeroKey }) ∨
          ∃ serverProof sessionKey, server.verify sha1 clientPublicKey clientProof =
            (some serverProof, { server with sessionKey, authenticated := true })) := by
  rw [verify]
  split_ifs with href
  · exact .inl rfl
  have hauthenticated : server.authenticated = false := by
    simpa using not_or.mp href |>.1
  right
  refine ⟨hauthenticated, ?_⟩
  cases hcheck : server.checkProof sha1 clientPublicKey clientProof with
  | none => exact .inl rfl
  | some result =>
    obtain ⟨_, _, hcheck⟩ := Option.bind_eq_some_iff.mp hcheck
    obtain ⟨_, _, hcheck⟩ := Option.bind_eq_some_iff.mp hcheck
    obtain ⟨sessionKey, _, hcheck⟩ := Option.bind_eq_some_iff.mp hcheck
    obtain ⟨_, _, hcheck⟩ := Option.bind_eq_some_iff.mp hcheck
    obtain ⟨_, _, hcheck⟩ := Option.bind_eq_some_iff.mp hcheck
    obtain ⟨serverProof, _, hres⟩ := Option.bind_eq_some_iff.mp hcheck
    obtain rfl := Option.some.inj hres
    exact .inr ⟨serverProof, sessionKey, rfl⟩

/-- A call leaves the server ready, with the salt and the public value it has sent. -/
lemma Ready.verify (h : server.Ready sha1 username pin privateKey) (clientPublicKey : List UInt8)
    (clientProof : SrpDigest) :
    (server.verify sha1 clientPublicKey clientProof).2.Ready sha1 username pin privateKey ∧
      ∀ exponent, (server.verify sha1 clientPublicKey clientProof).2.client username pin exponent =
        server.client username pin exponent := by
  have hready := h
  obtain ⟨hname, hmodulus, hgenerator, hverifier, hprivate, hpublic, hkey, _⟩ := h
  obtain hrun | ⟨_, hrun | ⟨_, _, hrun⟩⟩ := verify_cases sha1 server clientPublicKey clientProof
  · rw [hrun]
    exact ⟨hready, fun _ => rfl⟩
  · rw [hrun]
    exact ⟨⟨hname, hmodulus, hgenerator, hverifier, hprivate, hpublic, hkey, fun _ => rfl⟩,
      fun _ => rfl⟩
  · rw [hrun]
    exact ⟨⟨hname, hmodulus, hgenerator, hverifier, hprivate, hpublic, hkey, nofun⟩, fun _ => rfl⟩

lemma verifyAll_concat (calls : List SrpVerifyCall) (call : SrpVerifyCall) :
    server.verifyAll sha1 (calls ++ [call]) =
      ((server.verifyAll sha1 calls).verify sha1 call.clientPublicKey call.clientProof).2 := by
  simp [verifyAll]

/-- **Every run** of calls leaves a ready server ready, for the same clients. -/
theorem Ready.verifyAll (h : server.Ready sha1 username pin privateKey)
    (calls : List SrpVerifyCall) :
    (server.verifyAll sha1 calls).Ready sha1 username pin privateKey ∧
      ∀ exponent, (server.verifyAll sha1 calls).client username pin exponent =
        server.client username pin exponent := by
  induction calls using List.reverseRecOn with
  | nil => exact ⟨h, fun _ => rfl⟩
  | append_singleton calls call ih =>
    obtain ⟨hready, hcli⟩ := ih
    obtain ⟨hready', hcli'⟩ := hready.verify call.clientPublicKey call.clientProof
    rw [verifyAll_concat]
    exact ⟨hready', fun exponent => (hcli' exponent).trans (hcli exponent)⟩

lemma accepted_of_authenticated (hfresh : server.authenticated = false)
    (calls : List SrpVerifyCall) (h : (server.verifyAll sha1 calls).authenticated = true) :
    ∃ before call after, calls = before ++ call :: after ∧
      ((server.verifyAll sha1 before).verify sha1 call.clientPublicKey call.clientProof).1 ≠
        none := by
  induction calls using List.reverseRecOn with
  | nil => exact absurd h (by simp [AirPlaySrpServer.verifyAll, hfresh])
  | append_singleton calls call ih =>
    rw [verifyAll_concat] at h
    obtain hrun | ⟨hpre, hrun | ⟨_, _, hrun⟩⟩ :=
      verify_cases sha1 (server.verifyAll sha1 calls) call.clientPublicKey call.clientProof
    · rw [hrun] at h
      obtain ⟨before, accepted, after, rfl, hacc⟩ := ih h
      exact ⟨before, accepted, after ++ [call], by simp, hacc⟩
    · rw [hrun] at h
      exact absurd h (by simp [hpre])
    · refine ⟨calls, call, [], rfl, ?_⟩
      rw [hrun]
      nofun

lemma create_isSome (sha1 : List UInt8 → SrpDigest) (username pin : CString)
    (salt : Vector UInt8 16) (privateBytes : Vector UInt8 32) (hname : username.strlen ≠ 0)
    (hmax : username.strlen ≤ srpUsernameMax) (hpin : pin.strlen = 4)
    (hdigs : ∀ digit ∈ pin.bytes, 0x30 ≤ digit ∧ digit ≤ 0x39) :
    ∃ server, create sha1 username pin (some salt) (some privateBytes) = some server := by
  have hmultiplier : hashPaddedPair sha1 srpModulus 2 = some (multiplier sha1) :=
    hashPaddedPair_eq srpModulus_lt two_lt_bound
  simp only [create, calculateVerifier, calculateServerPublic, hmultiplier, mpiExpMod,
    mpiWritePadded_eq (mod_srpModulus_lt _), Option.bind_eq_bind, Option.bind_some,
    Option.pure_def, guard, if_pos hdigs, hname, hmax, hpin, ne_eq, not_false_eq_true,
    and_self, if_true]
  exact ⟨_, rfl⟩

end AirPlaySrpServer

open AirPlaySrpServer in
/-- **SRP agreement.** After any calls of a server that have been rejected, and for every
exponent of a client with the server's username and PIN, `airplay_srp_server_verify` accepts the
client's proof, under any encoding of its public value: both have the same session key, and the
server answers with the proof the client expects.  It rejects every other proof and wipes the
session key.  The session key can be read only once a call has accepted a proof, and is zero
until then. -/
theorem srp_agreement {username pin : CString} {salt : Option (Vector UInt8 16)}
    {privateBytes : Option (Vector UInt8 32)} {server : AirPlaySrpServer}
    (hcreate : create sha1 username pin salt privateBytes = some server)
    (calls : List SrpVerifyCall) (exponent : ℕ) :
    ((server.verifyAll sha1 calls).authenticated = false →
      ∀ clientPublicKey, clientPublicKey.length ≤ srpPublicKeySize →
        BigEndian.value clientPublicKey = (server.client username pin exponent).clientPublic →
        (server.verifyAll sha1 calls).verify sha1 clientPublicKey
            ((server.client username pin exponent).proof sha1) =
          (some ((server.client username pin exponent).expectedServerProof sha1),
            { server.verifyAll sha1 calls with
              sessionKey := (server.client username pin exponent).sessionKey sha1
              authenticated := true }) ∧
        ∀ clientProof, clientProof ≠ (server.client username pin exponent).proof sha1 →
          (server.verifyAll sha1 calls).verify sha1 clientPublicKey clientProof =
            (none, { server.verifyAll sha1 calls with sessionKey := srpZeroKey })) ∧
    ((server.verifyAll sha1 calls).authenticated = false →
      (server.verifyAll sha1 calls).sessionKey = srpZeroKey ∧
        (server.verifyAll sha1 calls).readSessionKey = none) ∧
    ∀ sessionKey, (server.verifyAll sha1 calls).readSessionKey = some sessionKey →
      ∃ before call after, calls = before ++ call :: after ∧
        ((server.verifyAll sha1 before).verify sha1 call.clientPublicKey call.clientProof).1 ≠
          none := by
  obtain ⟨_, _, _, _, _, hfresh, hready⟩ := Ready.create hcreate
  obtain ⟨hcurrent, hclient⟩ := hready.verifyAll calls
  refine ⟨?_, ?_, ?_⟩
  · intro hopen clientPublicKey hlength hkey
    have hnonempty : clientPublicKey.length ≠ 0 := by
      intro hempty
      rw [List.length_eq_zero_iff.mp hempty] at hkey
      exact two_pow_mod_srpModulus_ne_zero exponent hkey.symm
    have hchecked : ¬((server.verifyAll sha1 calls).authenticated ∨ clientPublicKey.length = 0 ∨
        clientPublicKey.length > srpPublicKeySize) := by
      rw [hopen]
      simp [hnonempty, hlength]
    rw [← hclient exponent] at hkey ⊢
    have hcheck := hcurrent.checkProof exponent hkey
    constructor
    · rw [AirPlaySrpServer.verify, if_neg hchecked, hcheck, if_pos rfl]
    · intro clientProof hother
      rw [AirPlaySrpServer.verify, if_neg hchecked, hcheck, if_neg hother]
  · intro hopen
    refine ⟨hcurrent.unread hopen, ?_⟩
    rw [readSessionKey, hopen]
    rfl
  · intro sessionKey hread
    apply accepted_of_authenticated hfresh
    rw [readSessionKey] at hread
    by_contra hopen
    rw [if_neg hopen] at hread
    cases hread

/-- The account `A` with the PIN `1234` and the client exponent 1. -/
theorem srp_agreement_account :
    ∃ server, AirPlaySrpServer.create (fun _ => Vector.replicate 20 0) ⟨[0x41], by decide⟩
        ⟨[0x31, 0x32, 0x33, 0x34], by decide⟩ (some (Vector.replicate 16 0))
        (some (Vector.replicate 32 0)) = some server ∧
      ((server.verify (fun _ => Vector.replicate 20 0) [2]
        ((server.client ⟨[0x41], by decide⟩ ⟨[0x31, 0x32, 0x33, 0x34], by decide⟩ 1).proof
          fun _ => Vector.replicate 20 0)).2.readSessionKey).isSome := by
  obtain ⟨server, hcreate⟩ := AirPlaySrpServer.create_isSome (fun _ => Vector.replicate 20 0)
    ⟨[0x41], by decide⟩ ⟨[0x31, 0x32, 0x33, 0x34], by decide⟩ (Vector.replicate 16 0)
    (Vector.replicate 32 0) (by decide) (by decide) (by decide) (by decide +kernel)
  refine ⟨server, hcreate, ?_⟩
  have hfresh : server.authenticated = false := by
    obtain ⟨_, _, _, _, _, hfresh, _⟩ := AirPlaySrpServer.Ready.create hcreate
    exact hfresh
  have hvalue : BigEndian.value [2] = 2 ^ 1 % srpModulus := by decide +kernel
  have hagree := ((srp_agreement _ hcreate [] 1).1 hfresh [2] (by decide) hvalue).1
  rw [show server.verify _ [2] _ = _ from hagree]
  rfl

end NXCast
