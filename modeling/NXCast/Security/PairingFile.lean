import NXCast.Framework.Runs
import NXCast.Framework.TwoKeys
import NXCast.Rtsp.Text
import NXCast.Security.PairingStore

/-!
# The file of the pairing store

`pairing_store.c` as it stands on disk.  The file holds the arrays of the store byte for byte,
and is replaced by a rename once a copy has been written whole; an upsert that cannot save puts
back what it has overwritten.  SHA-256 is a parameter, and what the file system answers is an
argument.

An upsert overwrites the first entry that has the username or the key, so usernames and keys stay
unique as long as no upsert meets two entries, one by each (`pairingStore_law`).
-/

namespace NXCast

open List hiding Vector

open AirPlayPairingStoreEntry TwoKeys BigEndian

/-! ## Arrays -/

/-- A list as an array of its size. -/
def vectorOf (size : ℕ) (bytes : List UInt8) : Option (Vector UInt8 size) :=
  if h : bytes.length = size then some ⟨bytes.toArray, by simpa using h⟩ else none

lemma vectorOf_toList {size : ℕ} (vector : Vector UInt8 size) :
    vectorOf size vector.toList = some vector := by
  unfold vectorOf
  rw [dif_pos Vector.length_toList]
  congr 1

/-- `PAIRING_STORE_ENTRY_SIZE` -/
def pairingStoreEntrySize : ℕ := srpUsernameMax + 1 + 32

/-- `PAIRING_STORE_HEADER_SIZE` -/
def pairingStoreHeaderSize : ℕ := 16

/-- `PAIRING_STORE_CHECKSUM_SIZE` -/
def pairingStoreChecksumSize : ℕ := 32

/-- `PAIRING_STORE_RECORD_SIZE` -/
def pairingStoreRecordSize : ℕ :=
  pairingStoreHeaderSize + pairingStoreEntrySize * airplayPairingStoreMaxClients +
    pairingStoreChecksumSize

/-- `g_store_magic` -/
def pairingStoreMagic : List UInt8 := asciiBytes "NXAPPR01"

/-- `AirPlayPairingStoreEntry` in its arrays.  The name ends inside its array and is not empty. -/
structure PairingStoreClient where
  username : Vector UInt8 (srpUsernameMax + 1)
  publicKey : Vector UInt8 32
  terminated : (0 : UInt8) ∈ username.toList
  named : username.toList.head? ≠ some 0
deriving DecidableEq

open PairingStoreClient hiding username

namespace PairingStoreClient

/-- The name as the string functions see it. -/
def name (client : PairingStoreClient) : CString := CString.ofBuffer client.username.toList

/-- The entry as the model of the store in memory has it. -/
def toEntry (client : PairingStoreClient) : AirPlayPairingStoreEntry :=
  ⟨client.name, client.publicKey.toList⟩

/-- The bytes of an entry. -/
def bytes (client : PairingStoreClient) : List UInt8 :=
  client.username.toList ++ client.publicKey.toList

end PairingStoreClient

/-- `AirPlayPairingStore` in its arrays. -/
structure PairingStoreRecord where
  clients : List PairingStoreClient
  count_le : clients.length ≤ airplayPairingStoreMaxClients
deriving DecidableEq

/-- The store without a client. -/
def PairingStoreRecord.empty : PairingStoreRecord := ⟨[], Nat.zero_le _⟩

/-- The store as the model of the store in memory has it. -/
def PairingStoreRecord.toStore (store : PairingStoreRecord) : AirPlayPairingStore :=
  ⟨store.clients.map PairingStoreClient.toEntry⟩

/-! ## Encoding -/

section Encoding

variable (sha256 : List UInt8 → Vector UInt8 32)

/-- What the checksum of a record is taken of. -/
def PairingStoreRecord.body (store : PairingStoreRecord) : List UInt8 :=
  pairingStoreMagic ++ (BigEndian.encode 4 1 ++ (BigEndian.encode 4 store.clients.length ++
    (store.clients.flatMap PairingStoreClient.bytes ++
      List.replicate (pairingStoreEntrySize *
        (airplayPairingStoreMaxClients - store.clients.length)) 0)))

/-- `encode_store` -/
def encodeStore (store : PairingStoreRecord) : List UInt8 :=
  store.body ++ (sha256 store.body).toList

/-- An entry of a record: the name has to end inside its array. -/
def clientAt (record : List UInt8) : Option PairingStoreClient := do
  let username ← vectorOf (srpUsernameMax + 1) (record.take (srpUsernameMax + 1))
  let publicKey ← vectorOf 32 ((record.drop (srpUsernameMax + 1)).take 32)
  if h : (0 : UInt8) ∈ username.toList ∧ username.toList.head? ≠ some 0 then
    some ⟨username, publicKey, h.1, h.2⟩
  else none

/-- The loop of `decode_store`. -/
def clientsAt : ℕ → List UInt8 → Option (List PairingStoreClient)
  | 0, _ => some []
  | count + 1, record => do
    let client ← clientAt record
    let clients ← clientsAt count (record.drop pairingStoreEntrySize)
    return client :: clients

/-- `decode_store`, of a record of the full size. -/
def decodeStore (record : List UInt8) : Option PairingStoreRecord :=
  let body := record.take (pairingStoreRecordSize - pairingStoreChecksumSize)
  if record.take 8 ≠ pairingStoreMagic ∨ BigEndian.value ((record.drop 8).take 4) ≠ 1 then none
  else
    let count := BigEndian.value ((record.drop 12).take 4)
    if count > airplayPairingStoreMaxClients ∨ (sha256 body).toList ≠
        record.drop (pairingStoreRecordSize - pairingStoreChecksumSize) then none
    else do
      let clients ← clientsAt count (record.drop pairingStoreHeaderSize)
      if h : clients.length ≤ airplayPairingStoreMaxClients then some ⟨clients, h⟩ else none

lemma PairingStoreClient.length_bytes (client : PairingStoreClient) :
    client.bytes.length = pairingStoreEntrySize := by
  unfold bytes
  rw [length_append, Vector.length_toList, Vector.length_toList]
  rfl

lemma clientAt_bytes (client : PairingStoreClient) (rest : List UInt8) :
    clientAt (client.bytes ++ rest) = some client := by
  have hname : (client.bytes ++ rest).take (srpUsernameMax + 1) = client.username.toList := by
    rw [bytes, append_assoc]
    exact take_left' Vector.length_toList
  have hkey : ((client.bytes ++ rest).drop (srpUsernameMax + 1)).take 32 =
      client.publicKey.toList := by
    rw [bytes, append_assoc, drop_left' Vector.length_toList]
    exact take_left' Vector.length_toList
  unfold clientAt
  rw [hname, hkey, vectorOf_toList, vectorOf_toList]
  exact dif_pos ⟨client.terminated, client.named⟩

lemma clientsAt_bytes (clients : List PairingStoreClient) (rest : List UInt8) :
    clientsAt clients.length (clients.flatMap bytes ++ rest) = some clients := by
  induction clients with
  | nil => rfl
  | cons client clients ih =>
    rw [flatMap_cons, append_assoc, length_cons, clientsAt, clientAt_bytes,
      drop_left' client.length_bytes, ih]
    rfl

lemma length_flatMap_bytes (clients : List PairingStoreClient) :
    (clients.flatMap bytes).length = pairingStoreEntrySize * clients.length := by
  induction clients with
  | nil => rfl
  | cons client clients ih =>
    rw [flatMap_cons, length_append, ih, client.length_bytes, length_cons,
      Nat.mul_succ, Nat.add_comm]

variable (store : PairingStoreRecord)

lemma PairingStoreRecord.length_body :
    store.body.length = pairingStoreRecordSize - pairingStoreChecksumSize := by
  have hcount := store.count_le
  have hwhole : pairingStoreEntrySize * store.clients.length + pairingStoreEntrySize *
      (airplayPairingStoreMaxClients - store.clients.length) =
        pairingStoreEntrySize * airplayPairingStoreMaxClients := by
    rw [← Nat.mul_add, Nat.add_sub_cancel' hcount]
  have hmagic : pairingStoreMagic.length = 8 := by decide
  simp only [body, length_append, length_encode, length_flatMap_bytes,
    length_replicate, hmagic, hwhole]
  rfl

lemma encodeStore_eq :
    ∃ padding, encodeStore sha256 store = pairingStoreMagic ++ (encode 4 1 ++
      (encode 4 store.clients.length ++ (store.clients.flatMap bytes ++ padding))) := by
  refine ⟨replicate (pairingStoreEntrySize *
    (airplayPairingStoreMaxClients - store.clients.length)) 0 ++ (sha256 store.body).toList, ?_⟩
  unfold encodeStore
  conv_lhs => arg 1; unfold PairingStoreRecord.body
  simp only [append_assoc]

/-- **Round trip.**  What was encoded is decoded, in its order. -/
lemma decodeStore_encodeStore : decodeStore sha256 (encodeStore sha256 store) = some store := by
  have hbody : (encodeStore sha256 store).take (pairingStoreRecordSize - pairingStoreChecksumSize) =
      store.body := take_left' store.length_body
  have hchecksum : (encodeStore sha256 store).drop
      (pairingStoreRecordSize - pairingStoreChecksumSize) = (sha256 store.body).toList :=
    drop_left' store.length_body
  have hlen : pairingStoreMagic.length = 8 := by decide
  obtain ⟨padding, heq⟩ := encodeStore_eq sha256 store
  have hmagic : (encodeStore sha256 store).take 8 = pairingStoreMagic := by
    exact take_left' hlen
  have hbehind : (encodeStore sha256 store).drop 8 = encode 4 1 ++ (encode 4 store.clients.length ++
        (store.clients.flatMap bytes ++ padding)) := by
    rw [heq]
    exact drop_left' hlen
  have hversion : ((encodeStore sha256 store).drop 8).take 4 = encode 4 1 := by
    exact take_left' (length_encode 4 1)
  have hcount : (encodeStore sha256 store).drop 12 = encode 4 store.clients.length ++
      (store.clients.flatMap bytes ++ padding) := by
    show (encodeStore sha256 store).drop (8 + 4) = _
    rw [← drop_drop, hbehind]
    exact drop_left' (length_encode 4 1)
  have hvalue : value (((encodeStore sha256 store).drop 12).take 4) =
      store.clients.length := by
    rw [hcount, take_left' (length_encode 4 _)]
    refine value_encode (Nat.lt_of_le_of_lt store.count_le ?_)
    decide
  have hclients : (encodeStore sha256 store).drop pairingStoreHeaderSize =
      store.clients.flatMap bytes ++ padding := by
    show (encodeStore sha256 store).drop (12 + 4) = _
    rw [← drop_drop, hcount]
    exact drop_left' (length_encode 4 _)
  unfold decodeStore
  dsimp only
  rw [hbody, hchecksum, hmagic, hversion, hvalue, hclients, clientsAt_bytes, if_neg, if_neg]
  · exact dif_pos store.count_le
  · rintro (hmany | hother)
    · exact absurd store.count_le (Nat.not_le.mpr hmany)
    · exact hother rfl
  · rintro (hother | hother)
    · exact hother rfl
    · exact hother (by decide)

end Encoding

/-! ## Loading and saving -/

/-- The store in memory and what is in the file. -/
structure PairingStoreState where
  store : PairingStoreRecord
  file : Option (List UInt8)
deriving DecidableEq

/-- What the preparation of a record and the file system answer to `save_store`. -/
structure PairingSaveAnswers where
  encoded : Bool
  opened : Bool
  written : Bool
  synced : Bool
  closed : Bool
  renamed : Bool
deriving DecidableEq

/-- Everything goes well. -/
def PairingSaveAnswers.Good (answers : PairingSaveAnswers) : Prop :=
  answers.encoded = true ∧ answers.opened = true ∧ answers.written = true ∧
    answers.synced = true ∧ answers.closed = true ∧ answers.renamed = true

instance (answers : PairingSaveAnswers) : Decidable answers.Good :=
  inferInstanceAs (Decidable (_ ∧ _))

/-- A client that is to be stored. -/
structure PairingUpsert where
  username : CString
  publicKey : Vector UInt8 32
  answers : PairingSaveAnswers
deriving DecidableEq

section Saving

variable (sha256 : List UInt8 → Vector UInt8 32)

/-- `airplay_pairing_store_open`: a file that cannot be read or decoded is renamed out of the way,
and the store begins empty. -/
def airplayPairingStoreOpen (file : Option (List UInt8)) (readable renamed : Bool) :
    Option PairingStoreState :=
  match file with
  | none => some ⟨.empty, none⟩
  | some record =>
    match (if readable = true ∧ record.length = pairingStoreRecordSize then
        decodeStore sha256 record else none) with
    | some store => some ⟨store, some record⟩
    | none => if renamed then some ⟨.empty, none⟩ else none

/-- `save_store`: whether it has saved, and the file after it.  The record goes to a temporary
file, which is removed if it does not become the file. -/
def saveStore (answers : PairingSaveAnswers) (store : PairingStoreRecord)
    (file : Option (List UInt8)) : Bool × Option (List UInt8) :=
  if !answers.encoded then (false, file)
  else if !answers.opened then (false, file)
  else
    let ok := answers.written && answers.synced && answers.closed
    if ok then
      if answers.renamed then (true, some (encodeStore sha256 store)) else (false, file)
    else (false, file)

/-- The entry for a client: a name with zeros behind it. -/
def PairingStoreClient.of (username : CString) (publicKey : Vector UInt8 32)
    (h : ¬ (username.strlen = 0 ∨ username.strlen > srpUsernameMax)) : PairingStoreClient where
  username := ⟨(username.bytes ++ List.replicate (srpUsernameMax + 1 - username.strlen) 0).toArray,
    by
      have hstrlen : username.strlen = username.bytes.length := rfl
      simp
      omega⟩
  publicKey := publicKey
  terminated := by
    have hpos : srpUsernameMax + 1 - username.strlen ≠ 0 := by omega
    simp [hpos]
  named := by
    have hne : username.bytes ≠ [] := fun hnil => h (Or.inl (by rw [CString.strlen, hnil]; rfl))
    intro hzero
    rw [Vector.toList_mk, List.head?_append_of_ne_nil _ hne] at hzero
    exact username.nul_free (List.mem_of_mem_head? hzero)

/-- The first entry with the username or the key. -/
abbrev clientSlot (client : PairingStoreClient) (store : PairingStoreRecord) : Option ℕ :=
  TwoKeys.slotOf PairingStoreClient.name PairingStoreClient.publicKey client store.clients

/-- The clients with an entry in its slot. -/
abbrev clientsWith (client : PairingStoreClient) (store : PairingStoreRecord) :
    List PairingStoreClient :=
  TwoKeys.put PairingStoreClient.name PairingStoreClient.publicKey client store.clients

/-- `airplay_pairing_store_upsert` -/
def airplayPairingStoreUpsert (upsert : PairingUpsert) (state : PairingStoreState) :
    Bool × PairingStoreState :=
  if h : upsert.username.strlen = 0 ∨ upsert.username.strlen > srpUsernameMax then (false, state)
  else
    let client := PairingStoreClient.of upsert.username upsert.publicKey h
    let slot := clientSlot client state.store
    if hroom : slot = none ∧ state.store.clients.length ≥ airplayPairingStoreMaxClients then
      (false, state)
    else
      let written : PairingStoreRecord :=
        ⟨clientsWith client state.store, TwoKeys.length_put_le state.store.count_le hroom⟩
      let (saved, file) := saveStore sha256 upsert.answers written state.file
      if saved then (true, ⟨written, file⟩)
      else
        -- the entry that was overwritten is put back, or the new one taken away
        (false, ⟨⟨TwoKeys.rollback state.store.clients slot written.clients, by
          rw [TwoKeys.rollback_put]
          exact state.store.count_le⟩, file⟩)

end Saving

/-! ## The law -/

namespace PairingStoreClient

variable {username : CString} {publicKey : Vector UInt8 32}
  {h : ¬ (username.strlen = 0 ∨ username.strlen > srpUsernameMax)}

lemma name_of : (of username publicKey h).name = username := by
  have hpad : 0 < srpUsernameMax + 1 - username.strlen := by omega
  have hlist : (of username publicKey h).username.toList =
      username.bytes ++ replicate (srpUsernameMax + 1 - username.strlen) 0 := rfl
  apply CString.ext_bytes
  show takeWhile _ (of username publicKey h).username.toList = _
  obtain ⟨pad, hpad⟩ := Nat.exists_eq_succ_of_ne_zero (Nat.ne_of_gt hpad)
  rw [hlist, hpad, replicate_succ, takeWhile_append_of_pos, takeWhile_cons_of_neg, append_nil]
  · simp
  intro byte hbyte
  have hne : byte ≠ 0 := fun hzero => username.nul_free (hzero ▸ hbyte)
  simpa using hne

lemma publicKey_of : (of username publicKey h).publicKey = publicKey := rfl

lemma name_accepted (client : PairingStoreClient) :
    ¬ (client.name.strlen = 0 ∨ client.name.strlen > srpUsernameMax) := by
  have hbytes : client.name.bytes = client.username.toList.takeWhile (· ≠ 0) := rfl
  rintro (hnone | hmany)
  · obtain ⟨first, rest, hcons⟩ : ∃ first rest, client.username.toList = first :: rest := by
      refine exists_cons_of_ne_nil fun hnil => ?_
      have hsize : client.username.toList.length = srpUsernameMax + 1 := Vector.length_toList
      rw [hnil] at hsize
      cases hsize
    have hfirst : first ≠ 0 := by
      intro hzero
      apply client.named
      rw [hcons, hzero]
      rfl
    rw [CString.strlen, hbytes, hcons, takeWhile_cons_of_pos (by simpa using hfirst)] at hnone
    cases hnone
  · have hsize : client.username.toList.length ≤ client.name.strlen := by
      rw [Vector.length_toList]
      exact hmany
    have hwhole : client.username.toList.takeWhile (· ≠ 0) = client.username.toList :=
      ( takeWhile_prefix _).eq_of_length_le hsize
    have hfree := client.name.nul_free
    rw [hbytes, hwhole] at hfree
    exact hfree client.terminated

end PairingStoreClient

/-- Usernames are pairwise distinct, and keys are. -/
abbrev PairingStoreRecord.Distinct (store : PairingStoreRecord) : Prop :=
  TwoKeys.Distinct PairingStoreClient.name PairingStoreClient.publicKey store.clients

/-- An upsert that can be saved and meets two clients, one with its username and one with its
key. -/
def PairingUpsert.Clashes (upsert : PairingUpsert) (state : PairingStoreState) : Prop :=
  upsert.answers.Good ∧ ∃ named ∈ state.store.clients, ∃ keyed ∈ state.store.clients,
    named.name = upsert.username ∧ keyed.publicKey = upsert.publicKey ∧ named.name ≠ keyed.name

instance (upsert : PairingUpsert) (state : PairingStoreState) : Decidable (upsert.Clashes state) :=
  inferInstanceAs (Decidable (_ ∧ _))

section Law

variable (sha256 : List UInt8 → Vector UInt8 32)

/-- What is to hold of an upsert: uniqueness behind it, the key as the only one of the username
and the username as the only one of the key where it succeeds, and no change where it fails. -/
structure UpsertLaw (upsert : PairingUpsert) (state : PairingStoreState) : Prop where
  distinct : (airplayPairingStoreUpsert sha256 upsert state).2.store.Distinct
  stored : (airplayPairingStoreUpsert sha256 upsert state).1 = true →
    ∃ client ∈ (airplayPairingStoreUpsert sha256 upsert state).2.store.clients,
      client.name = upsert.username ∧ client.publicKey = upsert.publicKey
  sole : (airplayPairingStoreUpsert sha256 upsert state).1 = true →
    ∀ client ∈ (airplayPairingStoreUpsert sha256 upsert state).2.store.clients,
      client.name = upsert.username ↔ client.publicKey = upsert.publicKey
  unchanged : (airplayPairingStoreUpsert sha256 upsert state).1 = false →
    (airplayPairingStoreUpsert sha256 upsert state).2 = state

variable {sha256} {upsert : PairingUpsert} {state : PairingStoreState}

lemma saveStore_cases (sha256 : List UInt8 → Vector UInt8 32) (answers : PairingSaveAnswers)
    (store : PairingStoreRecord) (file : Option (List UInt8)) :
    (answers.Good ∧ saveStore sha256 answers store file = (true, some (encodeStore sha256 store))) ∨
      (¬ answers.Good ∧ saveStore sha256 answers store file = (false, file)) := by
  obtain ⟨encoded, opened, written, synced, closed, renamed⟩ := answers
  unfold PairingSaveAnswers.Good saveStore
  cases encoded <;> cases opened <;> cases written <;> cases synced <;> cases closed <;>
    cases renamed <;> simp

/-- What an upsert does: it has put the client into its slot and saved, or changed nothing. -/
lemma upsert_outcome (sha256 : List UInt8 → Vector UInt8 32) (upsert : PairingUpsert)
    (state : PairingStoreState) :
    (∃ client written, upsert.answers.Good ∧ client.name = upsert.username ∧
        client.publicKey = upsert.publicKey ∧ written.clients = clientsWith client state.store ∧
        airplayPairingStoreUpsert sha256 upsert state =
          (true, ⟨written, some (encodeStore sha256 written)⟩)) ∨
      (airplayPairingStoreUpsert sha256 upsert state = (false, state) ∧
        (upsert.answers.Good → upsert.username.strlen = 0 ∨
          upsert.username.strlen > srpUsernameMax ∨ ∀ client ∈ state.store.clients,
            client.name ≠ upsert.username ∧ client.publicKey ≠ upsert.publicKey)) := by
  unfold airplayPairingStoreUpsert
  split
  · next h =>
    refine .inr ⟨rfl, fun _ => ?_⟩
    exact h.imp_right .inl
  next h =>
  dsimp only
  split
  · next hroom =>
    refine .inr ⟨rfl, fun _ => .inr (.inr fun client hcli => ?_)⟩
    have hnone := slotOf_eq_none hroom.1 client hcli
    rwa [name_of] at hnone
  next hroom =>
  let client := of upsert.username upsert.publicKey h
  let written : PairingStoreRecord :=
    ⟨clientsWith client state.store, length_put_le state.store.count_le hroom⟩
  rcases saveStore_cases sha256 upsert.answers written state.file with
    ⟨hgood, hsave⟩ | ⟨hbad, hsave⟩
  · refine .inl ⟨client, written, hgood, name_of, publicKey_of, rfl, ?_⟩
    rw [hsave]
    rfl
  refine .inr ⟨?_, fun hgood => absurd hgood hbad⟩
  rw [hsave]
  rw [if_neg Bool.false_ne_true]
  congr 2
  simp only [rollback_put]

lemma upsert_unchanged (h : (airplayPairingStoreUpsert sha256 upsert state).1 = false) :
    (airplayPairingStoreUpsert sha256 upsert state).2 = state := by
  rcases upsert_outcome sha256 upsert state with ⟨client, written, -, -, -, -, heq⟩ | ⟨heq, -⟩
  · rw [heq] at h
    cases h
  · rw [heq]

/-- **One upsert.**  From a store with unique names and keys it does what it is to do exactly where
it does not clash. -/
lemma upsertLaw_iff (h : state.store.Distinct) :
    UpsertLaw sha256 upsert state ↔ ¬ upsert.Clashes state := by
  rcases upsert_outcome sha256 upsert state with
    ⟨client, written, hgood, hname, hkey, hwrote, heq⟩ | ⟨heq, hwhy⟩
  · have hmeets : upsert.Clashes state ↔ TwoKeys.MeetsTwo name
        publicKey client state.store.clients := by
      unfold PairingUpsert.Clashes TwoKeys.MeetsTwo
      rw [hname, hkey, and_iff_right hgood]
    have hdist : written.Distinct ↔ ¬ upsert.Clashes state := by
      rw [hmeets, ← distinct_put_iff h, PairingStoreRecord.Distinct, hwrote]
    constructor
    · intro hlaw
      have hkept := hlaw.distinct
      rw [heq] at hkept
      exact hdist.mp hkept
    intro hno
    have hkept : written.Distinct := hdist.mpr hno
    have hput : TwoKeys.Distinct name publicKey (clientsWith client state.store) := hwrote ▸ hkept
    have hmem : client ∈ written.clients := by
      rw [hwrote]
      exact mem_put_self
    have hsole : ∀ {other : PairingStoreClient}, other ∈ written.clients →
        other.name = client.name ∨ other.publicKey = client.publicKey → other = client := by
      intro other hother
      rw [hwrote] at hother
      exact eq_of_distinct_put hput hother
    refine ⟨?_, ?_, ?_, ?_⟩
    · rw [heq]
      exact hkept
    · intro _
      rw [heq]
      exact ⟨client, hmem, hname, hkey⟩
    · intro _ other hother
      rw [heq] at hother
      rw [← hname, ← hkey]
      constructor
      · intro hsame
        rw [hsole hother (.inl hsame)]
      · intro hsame
        rw [hsole hother (.inr hsame)]
    · exact upsert_unchanged
  · refine iff_of_true ⟨?_, ?_, ?_, upsert_unchanged⟩ ?_
    · rw [heq]
      exact h
    · intro hsaved
      rw [heq] at hsaved
      cases hsaved
    · intro hsaved
      rw [heq] at hsaved
      cases hsaved
    rintro ⟨hgood, named, hnamed, -, -, hsame, -⟩
    rcases hwhy hgood with hnone | hmany | hother
    · exact named.name_accepted (.inl (hsame ▸ hnone))
    · exact named.name_accepted (.inr (hsame ▸ hmany))
    · exact (hother named hnamed).1 hsame

end Law

/-! ## The store in memory -/

section Refinement

variable (sha256 : List UInt8 → Vector UInt8 32) (client : PairingStoreClient)

lemma toEntry_publicKey_inj (other : PairingStoreClient) :
    client.toEntry.publicKey = other.toEntry.publicKey ↔ client.publicKey = other.publicKey :=
  Vector.toList_inj

lemma slotOf_toStore (store : PairingStoreRecord) :
    store.toStore.slotOf client.toEntry = clientSlot client store :=
  slotOf_map (fun _ _ => .rfl) toEntry_publicKey_inj client store.clients

lemma put_toStore (store : PairingStoreRecord) :
    (store.toStore.put client.toEntry).entries =
      (clientsWith client store).map PairingStoreClient.toEntry := by
  have hput : put username publicKey client.toEntry (store.clients.map PairingStoreClient.toEntry) =
        (clientsWith client store).map PairingStoreClient.toEntry :=
    put_map (fun _ _ => .rfl) toEntry_publicKey_inj client store.clients
  rw [← hput]
  unfold AirPlayPairingStore.put put
  have hslot : store.toStore.slotOf client.toEntry = slotOf username publicKey client.toEntry
      (store.clients.map PairingStoreClient.toEntry) := rfl
  rw [hslot]
  cases slotOf username publicKey
    client.toEntry (store.clients.map PairingStoreClient.toEntry) <;> rfl

/-- **Refinement.**  What an upsert does to the store in its arrays is what pairing sees of it, and
the rollback of the source is the store as it was. -/
theorem upsert_toStore (upsert : PairingUpsert) (state : PairingStoreState) :
    ((airplayPairingStoreUpsert sha256 upsert state).1,
        (airplayPairingStoreUpsert sha256 upsert state).2.store.toStore) =
      state.store.toStore.upsert ⟨upsert.username, upsert.publicKey.toList⟩
        (decide upsert.answers.Good) := by
  unfold airplayPairingStoreUpsert AirPlayPairingStore.upsert
  split
  · rfl
  next h =>
  have hcli : (of upsert.username upsert.publicKey h).toEntry =
      ⟨upsert.username, upsert.publicKey.toList⟩ := by
    rw [toEntry, name_of, publicKey_of]
  have hlen : state.store.toStore.entries.length = state.store.clients.length :=
    length_map _
  rw [← hcli, slotOf_toStore, hlen]
  dsimp only
  split
  · rfl
  next hroom =>
  rcases saveStore_cases sha256 upsert.answers
      ⟨clientsWith (of upsert.username upsert.publicKey h) state.store,
        length_put_le state.store.count_le hroom⟩ state.file with
    ⟨hgood, hsave⟩ | ⟨hbad, hsave⟩
  · rw [hsave, decide_eq_true hgood]
    rw [if_pos rfl, if_pos rfl]
    congr 1
    rw [PairingStoreRecord.toStore, ← put_toStore]
  · rw [hsave, decide_eq_false hbad]
    rw [if_neg Bool.false_ne_true, if_neg Bool.false_ne_true]
    congr 2
    simp only [rollback_put]

end Refinement

/-! ## Runs -/

/-- The step of an upsert. -/
abbrev pairingStoreStep (sha256 : List UInt8 → Vector UInt8 32) (state : PairingStoreState)
    (upsert : PairingUpsert) : PairingStoreState :=
  (airplayPairingStoreUpsert sha256 upsert state).2

lemma distinct_of_reachable {sha256 : List UInt8 → Vector UInt8 32} {start state : PairingStoreState}
    (hstart : start.store.Distinct)
    (h : Runs.Reachable (pairingStoreStep sha256) start (fun s upsert => ¬ upsert.Clashes s) state) :
    state.store.Distinct := by
  refine h.invariant (P := fun s => s.store.Distinct) hstart ?_
  intro s upsert hdist hno
  exact ((upsertLaw_iff hdist).mpr hno).distinct

/-- Three clients that pair: another name with the key of the first one takes its entry, and leaves
the name with two. -/
theorem pairingStore_keeps_revoked :
    let sha256 : List UInt8 → Vector UInt8 32 := fun _ => Vector.replicate 32 0
    let good : PairingSaveAnswers := ⟨true, true, true, true, true, true⟩
    let upsert := fun (name : UInt8) (key : UInt8) => (⟨CString.ofBuffer [name],
      Vector.replicate 32 key, good⟩ : PairingUpsert)
    let state := Runs.run (pairingStoreStep sha256) ⟨.empty, none⟩ [upsert 97 1, upsert 98 2]
    let result := airplayPairingStoreUpsert sha256 (upsert 98 1) state
    airplayPairingStoreOpen sha256 none true true = some ⟨.empty, none⟩ ∧
      result.1 = true ∧ ¬ result.2.store.Distinct ∧
        result.2.store.clients.map (fun client => (client.name.bytes, client.publicKey)) =
          [([98], Vector.replicate 32 1), ([98], Vector.replicate 32 2)] ∧
        ¬ UpsertLaw sha256 (upsert 98 1) state := by
  intro sha256 good upsert state result
  have hclients : result.2.store.clients.map (fun client => (client.name.bytes, client.publicKey)) =
      [([98], Vector.replicate 32 1), ([98], Vector.replicate 32 2)] := by
    decide +kernel
  have htwice : ¬ (result.2.store.clients.map PairingStoreClient.name).Nodup := by
    decide +kernel
  refine ⟨rfl, ?_, fun h => htwice h.first, hclients, fun h => htwice h.distinct.first⟩
  decide +kernel

/-- **The pairing store.**  Decoding the encoding of a store gives the store back.  Of a store
loaded with unique names and keys, or empty, names and keys stay unique along every run of upserts
none of which clashes, and each upsert does what it is to do exactly where it does not clash. -/
theorem pairingStore_law (sha256 : List UInt8 → Vector UInt8 32) :
    (∀ store, decodeStore sha256 (encodeStore sha256 store) = some store) ∧
      ∀ file readable renamed start,
        airplayPairingStoreOpen sha256 file readable renamed = some start →
        start.store.Distinct → ∀ state,
          Runs.Reachable (pairingStoreStep sha256) start (fun s upsert => ¬ upsert.Clashes s)
            state →
          state.store.Distinct ∧
            ∀ upsert, UpsertLaw sha256 upsert state ↔ ¬ upsert.Clashes state := by
  refine ⟨decodeStore_encodeStore sha256, ?_⟩
  intro file readable renamed start _ hstart state hreachable
  have hdistinct := distinct_of_reachable hstart hreachable
  exact ⟨hdistinct, fun upsert => upsertLaw_iff hdistinct⟩

/-- A client that pairs again with a new key, and another one behind it. -/
theorem pairingStore_law_repaired :
    let sha256 : List UInt8 → Vector UInt8 32 := fun _ => Vector.replicate 32 0
    let good : PairingSaveAnswers := ⟨true, true, true, true, true, true⟩
    let upsert := fun (name : UInt8) (key : UInt8) => (⟨CString.ofBuffer [name],
      Vector.replicate 32 key, good⟩ : PairingUpsert)
    let state := Runs.run (pairingStoreStep sha256) ⟨.empty, none⟩ [upsert 97 1, upsert 97 3]
    state.store.clients.map (fun client => (client.name.bytes, client.publicKey)) =
        [([97], Vector.replicate 32 3)] ∧
      state.store.Distinct ∧ UpsertLaw sha256 (upsert 98 1) state := by
  intro sha256 good upsert state
  have hstart : Runs.Along (pairingStoreStep sha256) (fun s upsert => ¬ upsert.Clashes s)
      ⟨.empty, none⟩ [upsert 97 1, upsert 97 3] :=
    ⟨by decide +kernel, by decide +kernel, trivial⟩
  have hclients : state.store.clients.map (fun client => (client.name.bytes, client.publicKey)) =
      [([97], Vector.replicate 32 3)] := by
    decide +kernel
  obtain ⟨hdistinct, hlaw⟩ := (pairingStore_law sha256).2 none true true ⟨.empty, none⟩ rfl
    ⟨List.nodup_nil, List.nodup_nil⟩ state (Runs.Reachable.start.along hstart)
  exact ⟨hclients, hdistinct, (hlaw (upsert 98 1)).mpr (by decide +kernel)⟩

/-! ## Restarts -/

variable {sha256 : List UInt8 → Vector UInt8 32} {state : PairingStoreState}

/-- The file holds the store, or there is neither a client nor a file. -/
def PairingStoreState.Saved (sha256 : List UInt8 → Vector UInt8 32) (state : PairingStoreState) : Prop :=
  state = ⟨.empty, none⟩ ∨ ∃ record, state.file = some record ∧
    record.length = pairingStoreRecordSize ∧ decodeStore sha256 record = some state.store

lemma saved_of_open {file : Option (List UInt8)} {readable renamed : Bool}
    (h : airplayPairingStoreOpen sha256 file readable renamed = some state) : state.Saved sha256 := by
  unfold airplayPairingStoreOpen at h
  split at h
  · exact .inl (Option.some.inj h).symm
  next record =>
  split at h
  · next store hdecoded =>
    obtain ⟨⟨-, hlen⟩, hstore⟩ := Option.ite_none_right_eq_some.mp hdecoded
    rw [← Option.some.inj h]
    exact .inr ⟨record, rfl, hlen, hstore⟩
  · exact .inl (Option.some.inj (Option.ite_none_right_eq_some.mp h).2).symm

lemma PairingStoreState.Saved.step (h : state.Saved sha256) (upsert : PairingUpsert) :
    (pairingStoreStep sha256 state upsert).Saved sha256 := by
  rcases upsert_outcome sha256 upsert state with ⟨client, written, -, -, -, -, heq⟩ | ⟨heq, -⟩
  · rw [pairingStoreStep, heq]
    refine .inr ⟨_, rfl, ?_, decodeStore_encodeStore sha256 written⟩
    rw [encodeStore, length_append, written.length_body, Vector.length_toList]
    rfl
  · rwa [pairingStoreStep, heq]

lemma PairingStoreState.Saved.reopens (h : state.Saved sha256) (renamed : Bool) :
    airplayPairingStoreOpen sha256 state.file true renamed = some state := by
  rcases h with rfl | ⟨record, hfile, hlen, hstore⟩
  · rfl
  · simp only [airplayPairingStoreOpen, hfile, hlen, hstore, true_and, if_true]
    rw [← hfile]

/-- **Nothing is lost.**  After any upserts into a store that was opened, saved or failed, opening
its file again gives the store as it is in memory; and that is, as pairing sees it, what the upserts
make of the store in memory, one after the other. -/
theorem pairingStore_reopens {file : Option (List UInt8)} {readable renamed : Bool}
    {start : PairingStoreState}
    (hopen : airplayPairingStoreOpen sha256 file readable renamed = some start)
    (upserts : List PairingUpsert) :
    let state := Runs.run (pairingStoreStep sha256) start upserts
    (∀ renamed, airplayPairingStoreOpen sha256 state.file true renamed = some state) ∧
      state.store.toStore = upserts.foldl (fun store upsert =>
        (store.upsert ⟨upsert.username, upsert.publicKey.toList⟩ (decide upsert.answers.Good)).2)
          start.store.toStore := by
  intro state
  have hreachable : Runs.Reachable (pairingStoreStep sha256) start (fun _ _ => True) state :=
    Runs.Reachable.start.run upserts
  refine ⟨(hreachable.invariant (saved_of_open hopen) fun s upsert h _ => h.step upsert).reopens, ?_⟩
  clear hreachable hopen
  induction upserts generalizing start with
  | nil => rfl
  | cons upsert upserts ih =>
    rw [foldl_cons, ← upsert_toStore]
    exact ih

/-- A client that is saved, and one that is not. -/
theorem pairingStore_reopens_saved :
    let sha256 : List UInt8 → Vector UInt8 32 := fun _ => Vector.replicate 32 0
    let upsert := fun (name : UInt8) (renamed : Bool) => (⟨CString.ofBuffer [name],
      Vector.replicate 32 name, ⟨true, true, true, true, true, renamed⟩⟩ : PairingUpsert)
    let state := Runs.run (pairingStoreStep sha256) ⟨.empty, none⟩ [upsert 97 true, upsert 98 false]
    state.store.clients.map (fun client => client.name.bytes) = [[97]] ∧
      airplayPairingStoreOpen sha256 state.file true true = some state := by
  intro sha256 upsert state
  have hopen : airplayPairingStoreOpen sha256 none true true = some ⟨.empty, none⟩ := rfl
  refine ⟨?_, (pairingStore_reopens hopen [upsert 97 true, upsert 98 false]).1 true⟩
  decide +kernel

end NXCast
