import Mathlib.Data.FinEnum
import NXCast.Framework.BigEndian
import NXCast.Framework.CString
import NXCast.Framework.PasswordExchange
import Mathlib.Data.Nat.Size

/-!
# The SRP server

`srp.c`, and the client it talks to.  SHA-1 is a parameter, some function to 20 bytes; the
bignum library is arithmetic on natural numbers.  A number goes into a hash padded to 256 bytes
or in as few bytes as it takes, and zero takes one.

The client is not in the source: it is the other side of the exchange, with the hash inputs and
encodings of the server.
-/

namespace NXCast

/-! ## Sizes -/

/-- `AIRPLAY_SRP_PROOF_SIZE` -/
abbrev srpProofSize : ℕ := 20

/-- `AIRPLAY_SRP_PUBLIC_KEY_SIZE` -/
def srpPublicKeySize : ℕ := 256

/-- `AIRPLAY_SRP_SESSION_KEY_SIZE` -/
def srpSessionKeySize : ℕ := 40

/-- `AIRPLAY_SRP_USERNAME_MAX` -/
def srpUsernameMax : ℕ := 127

/-- What SHA-1 gives. -/
abbrev SrpDigest : Type := Vector UInt8 srpProofSize

/-- `g_srp_modulus_hex` -/
def srpModulus : ℕ :=
  0xAC6BDB41324A9A9BF166DE5E1389582FAF72B6651987EE07FC3192943DB56050A37329CBB4 * 16 ^ 438 +
  0xA099ED8193E0757767A13DD52312AB4B03310DCD7F48A9DA04FD50E8083969EDB767B0CF60 * 16 ^ 364 +
  0x95179A163AB3661A05FBD5FAAAE82918A9962F0B93B855F97993EC975EEAA80D740ADBF4FF * 16 ^ 290 +
  0x747359D041D5C33EA71D281E446B14773BCA97B43A23FB801676BD207A436C6481F1D2B907 * 16 ^ 216 +
  0x8717461A5B9D32E688F87748544523B524B0D57D5EA77A2775D2ECFA032CFBDBF52FB37861 * 16 ^ 142 +
  0x60279004E57AE6AF874E7303CE53299CCC041C7BC308D82A5698F3A8D0C38271AE35F8E9DB * 16 ^ 68 +
  0xFBB694B5C803D89F7AE435DE236D525F54759B65E372FCD68EF20FA7111F9E4AFF73

/-! ## Numbers as bytes -/

/-- `mbedtls_mpi_size` -/
def mpiSize (value : ℕ) : ℕ := (Nat.size value + 7) / 8

/-- `mbedtls_mpi_write_binary` -/
def mpiWriteBinary (value size : ℕ) : Option (List UInt8) :=
  if mpiSize value > size then none else some (BigEndian.encode size value)

/-- `mpi_write_minimal` -/
def mpiWriteMinimal (value : ℕ) : Option (List UInt8) :=
  let size := if mpiSize value = 0 then 1 else mpiSize value
  if size > srpPublicKeySize then none else mpiWriteBinary value size

/-- `mpi_write_padded` -/
def mpiWritePadded (value : ℕ) : Option (List UInt8) :=
  if mpiSize value > srpPublicKeySize then none else mpiWriteBinary value srpPublicKeySize

/-- `mbedtls_mpi_exp_mod` -/
def mpiExpMod (base exponent modulus : ℕ) : ℕ := base ^ exponent % modulus

/-! ## The server -/

/-- `AirPlaySrpServer` -/
structure AirPlaySrpServer where
  username : CString
  salt : Vector UInt8 16
  publicKey : List UInt8
  sessionKey : List UInt8
  modulus : ℕ
  generator : ℕ
  verifier : ℕ
  privateKey : ℕ
  serverPublic : ℕ
  authenticated : Bool

/-- A session key that has been wiped, or never set. -/
def srpZeroKey : List UInt8 := List.replicate srpSessionKeySize 0

variable (sha1 : List UInt8 → SrpDigest)

/-- `hash_mpi_minimal` -/
def hashMpiMinimal (value : ℕ) : Option SrpDigest := (mpiWriteMinimal value).map sha1

/-- `hash_padded_pair` -/
def hashPaddedPair (left right : ℕ) : Option ℕ := do
  let leftBytes ← mpiWritePadded left
  let rightBytes ← mpiWritePadded right
  return BigEndian.value (sha1 (leftBytes ++ rightBytes)).toList

/-- The exponent of a password, as `calculate_verifier` hashes it: a colon joins the two texts. -/
def srpPasswordExponent (username : CString) (salt : Vector UInt8 16) (pin : CString) : ℕ :=
  let credentialsHash := sha1 (username.bytes ++ [0x3A] ++ pin.bytes)
  BigEndian.value (sha1 (salt.toList ++ credentialsHash.toList)).toList

/-- `calculate_session_key` -/
def calculateSessionKey (sharedSecret : ℕ) : Option (List UInt8) := do
  let sharedBytes ← mpiWriteMinimal sharedSecret
  return (sha1 (sharedBytes ++ [0, 0, 0, 0])).toList ++ (sha1 (sharedBytes ++ [0, 0, 0, 1])).toList

/-- `calculate_server_proof` -/
def calculateServerProof (clientPublic : ℕ) (clientProof : SrpDigest) (sessionKey : List UInt8) :
    Option SrpDigest := do
  let publicBytes ← mpiWriteMinimal clientPublic
  return sha1 (publicBytes ++ clientProof.toList ++ sessionKey)

namespace AirPlaySrpServer

/-- `calculate_verifier` -/
def calculateVerifier (server : AirPlaySrpServer) (pin : CString) : AirPlaySrpServer :=
  { server with
    verifier := mpiExpMod server.generator
      (srpPasswordExponent sha1 server.username server.salt pin) server.modulus }

/-- `calculate_server_public` -/
def calculateServerPublic (server : AirPlaySrpServer) : Option AirPlaySrpServer := do
  let multiplier ← hashPaddedPair sha1 server.modulus server.generator
  let left := multiplier * server.verifier % server.modulus
  let right := mpiExpMod server.generator server.privateKey server.modulus
  let serverPublic := (left + right) % server.modulus
  let publicKey ← mpiWritePadded serverPublic
  return { server with serverPublic, publicKey }

/-- `airplay_srp_server_create`, with what the random callback has given. -/
def create (username pin : CString) (salt : Option (Vector UInt8 16))
    (privateBytes : Option (Vector UInt8 32)) : Option AirPlaySrpServer := do
  guard (username.strlen ≠ 0 ∧ username.strlen ≤ srpUsernameMax ∧ pin.strlen = 4)
  guard (∀ digit ∈ pin.bytes, 0x30 ≤ digit ∧ digit ≤ 0x39)
  let salt ← salt
  let privateBytes ← privateBytes
  let server : AirPlaySrpServer :=
    { username
      salt := salt.set 0 (salt[0] ||| 0x80)
      publicKey := []
      sessionKey := srpZeroKey
      modulus := srpModulus
      generator := 2
      verifier := 0
      privateKey := BigEndian.value (privateBytes.set 0 (privateBytes[0] ||| 0x80)).toList
      serverPublic := 0
      authenticated := false }
  (server.calculateVerifier sha1 pin).calculateServerPublic sha1

/-- `calculate_client_proof` -/
def calculateClientProof (server : AirPlaySrpServer) (clientPublic : ℕ) : Option SrpDigest := do
  let modulusHash ← hashMpiMinimal sha1 server.modulus
  let generatorHash ← hashMpiMinimal sha1 server.generator
  let usernameHash := sha1 server.username.bytes
  let xorHash := Vector.zipWith (· ^^^ ·) modulusHash generatorHash
  let clientBytes ← mpiWriteMinimal clientPublic
  let serverBytes ← mpiWriteMinimal server.serverPublic
  return sha1 (xorHash.toList ++ usernameHash.toList ++ server.salt.toList ++ clientBytes ++
    serverBytes ++ server.sessionKey)

/-- The part of `airplay_srp_server_verify` that may fail and be cleaned up. -/
def checkProof (server : AirPlaySrpServer) (clientPublicKey : List UInt8)
    (clientProof : SrpDigest) : Option (SrpDigest × AirPlaySrpServer) := do
  let clientPublic := BigEndian.value clientPublicKey
  guard (clientPublic % server.modulus ≠ 0)
  let scrambling ← hashPaddedPair sha1 clientPublic server.serverPublic
  let temporary := mpiExpMod server.verifier scrambling server.modulus
  let base := clientPublic * temporary % server.modulus
  let sharedSecret := mpiExpMod base server.privateKey server.modulus
  let sessionKey ← calculateSessionKey sha1 sharedSecret
  let server := { server with sessionKey }
  let expectedProof ← server.calculateClientProof sha1 clientPublic
  guard (expectedProof = clientProof)
  let serverProof ← calculateServerProof sha1 clientPublic expectedProof server.sessionKey
  return (serverProof, { server with authenticated := true })

/-- `airplay_srp_server_verify`: the server's proof, where the client's is accepted; otherwise
the buffer for it is wiped. -/
def verify (server : AirPlaySrpServer) (clientPublicKey : List UInt8) (clientProof : SrpDigest) :
    Option SrpDigest × AirPlaySrpServer :=
  if server.authenticated ∨ clientPublicKey.length = 0 ∨
      clientPublicKey.length > srpPublicKeySize then (none, server)
  else
    match server.checkProof sha1 clientPublicKey clientProof with
    | some (serverProof, server) => (some serverProof, server)
    | none => (none, { server with sessionKey := srpZeroKey })

/-- `airplay_srp_server_session_key` -/
def readSessionKey (server : AirPlaySrpServer) : Option (List UInt8) :=
  if server.authenticated then some server.sessionKey else none

end AirPlaySrpServer

/-! ## The client -/

/-- What a client knows: the account, the salt and the public value the server has sent, and its
own exponent. -/
structure SrpClient where
  username : CString
  pin : CString
  salt : Vector UInt8 16
  serverPublic : ℕ
  exponent : ℕ

/-- A number in 256 bytes. -/
def srpPadded (value : ℕ) : List UInt8 := BigEndian.encode srpPublicKeySize value

/-- A number in as few bytes as it takes, at least one. -/
def srpMinimal (value : ℕ) : List UInt8 := BigEndian.encode (max 1 (mpiSize value)) value

namespace SrpClient

/-- `A` -/
def clientPublic (client : SrpClient) : ℕ := 2 ^ client.exponent % srpModulus

/-- `u` -/
def scrambling (client : SrpClient) : ℕ :=
  BigEndian.value (sha1 (srpPadded client.clientPublic ++ srpPadded client.serverPublic)).toList

/-- `k` -/
def multiplier : ℕ := BigEndian.value (sha1 (srpPadded srpModulus ++ srpPadded 2)).toList

/-- `x` -/
def passwordExponent (client : SrpClient) : ℕ :=
  BigEndian.value (sha1 (client.salt.toList ++
    (sha1 (client.username.bytes ++ [0x3A] ++ client.pin.bytes)).toList)).toList

/-- `S = (B - k g ^ x) ^ (a + u x)` modulo `N` -/
def sharedSecret (client : SrpClient) : ℕ :=
  ((((client.serverPublic : ℤ) - multiplier sha1 * 2 ^ client.passwordExponent sha1) ^
    (client.exponent + client.scrambling sha1 * client.passwordExponent sha1)) % srpModulus).toNat

/-- `K` -/
def sessionKey (client : SrpClient) : List UInt8 :=
  (sha1 (srpMinimal (client.sharedSecret sha1) ++ [0, 0, 0, 0])).toList ++
    (sha1 (srpMinimal (client.sharedSecret sha1) ++ [0, 0, 0, 1])).toList

/-- `M1` -/
def proof (client : SrpClient) : SrpDigest :=
  sha1 ((Vector.zipWith (· ^^^ ·) (sha1 (srpMinimal srpModulus)) (sha1 (srpMinimal 2))).toList ++
    (sha1 client.username.bytes).toList ++ client.salt.toList ++
    srpMinimal client.clientPublic ++ srpMinimal client.serverPublic ++ client.sessionKey sha1)

/-- The proof the client expects of the server. -/
def expectedServerProof (client : SrpClient) : SrpDigest :=
  sha1 (srpMinimal client.clientPublic ++ (client.proof sha1).toList ++ client.sessionKey sha1)

end SrpClient

/-! ## Encodings -/

lemma srpModulus_pos : 0 < srpModulus := by decide +kernel

lemma srpModulus_lt : srpModulus < 2 ^ (8 * srpPublicKeySize) := by decide +kernel

lemma mpiSize_le {value : ℕ} (h : value < 2 ^ (8 * srpPublicKeySize)) :
    mpiSize value ≤ srpPublicKeySize := by
  have hbits : Nat.size value ≤ 8 * srpPublicKeySize := Nat.size_le.mpr h
  rw [mpiSize]
  omega

lemma mpiWritePadded_eq {value : ℕ} (h : value < 2 ^ (8 * srpPublicKeySize)) :
    mpiWritePadded value = some (srpPadded value) := by
  have hsize := mpiSize_le h
  rw [mpiWritePadded, if_neg (by omega), mpiWriteBinary, if_neg (by omega), srpPadded]

lemma mpiWriteMinimal_eq {value : ℕ} (h : value < 2 ^ (8 * srpPublicKeySize)) :
    mpiWriteMinimal value = some (srpMinimal value) := by
  have hsize := mpiSize_le h
  have hmax : (if mpiSize value = 0 then 1 else mpiSize value) = max 1 (mpiSize value) := by
    split_ifs <;> omega
  have hpositive : 1 ≤ srpPublicKeySize := by decide
  simp only [mpiWriteMinimal, hmax]
  rw [if_neg (by omega), mpiWriteBinary, if_neg (by omega), srpMinimal]

lemma srpPadded_value {value : ℕ} (h : value < 2 ^ (8 * srpPublicKeySize)) :
    BigEndian.value (srpPadded value) = value := by
  apply BigEndian.value_encode
  rw [Nat.pow_mul] at h
  exact h

lemma mod_srpModulus_lt (n : ℕ) : n % srpModulus < 2 ^ (8 * srpPublicKeySize) :=
  (Nat.mod_lt n srpModulus_pos).trans srpModulus_lt

/-- A power of two is no multiple of an odd number, so no client exponent is refused. -/
lemma two_pow_mod_srpModulus_ne_zero (n : ℕ) : 2 ^ n % srpModulus ≠ 0 := by
  intro hzero
  have hcoprime : Nat.Coprime srpModulus (2 ^ n) := by
    apply Nat.Coprime.pow_right
    decide +kernel
  have hdvd : srpModulus ∣ 2 ^ n := Nat.dvd_of_mod_eq_zero hzero
  have hone : srpModulus = 1 := Nat.Coprime.eq_one_of_dvd hcoprime hdvd
  exact absurd hone (by decide +kernel)

end NXCast
