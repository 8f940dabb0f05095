import NXCast.Security.Srp

/-!
# The pairing store

The clients that have paired, as `pairing_store.c` keeps them in memory.  An upsert replaces the
first entry that has the username or the key, and is taken back where the file cannot be saved;
whether it can is an argument.
-/

namespace NXCast

/-- `AIRPLAY_PAIRING_STORE_MAX_CLIENTS` -/
def airplayPairingStoreMaxClients : ℕ := 16

/-- `AirPlayPairingStoreEntry` -/
structure AirPlayPairingStoreEntry where
  username : CString
  publicKey : List UInt8
deriving DecidableEq

/-- `AirPlayPairingStore` -/
structure AirPlayPairingStore where
  entries : List AirPlayPairingStoreEntry
deriving DecidableEq

namespace AirPlayPairingStore

/-- `airplay_pairing_store_contains` -/
def contains (publicKey : List UInt8) (store : AirPlayPairingStore) : Bool :=
  store.entries.any fun entry => decide (entry.publicKey = publicKey)

/-- The entry that an upsert replaces. -/
def slotOf (entry : AirPlayPairingStoreEntry) (store : AirPlayPairingStore) : Option ℕ :=
  store.entries.findIdx? fun other =>
    decide (other.username = entry.username ∨ other.publicKey = entry.publicKey)

/-- The store with an entry in its slot, or behind the others. -/
def put (entry : AirPlayPairingStoreEntry) (store : AirPlayPairingStore) : AirPlayPairingStore :=
  match store.slotOf entry with
  | some slot => ⟨store.entries.set slot entry⟩
  | none => ⟨store.entries ++ [entry]⟩

/-- `airplay_pairing_store_upsert`; `saved` is what `save_store` returns. -/
def upsert (entry : AirPlayPairingStoreEntry) (saved : Bool) (store : AirPlayPairingStore) :
    Bool × AirPlayPairingStore :=
  if entry.username.strlen = 0 ∨ entry.username.strlen > srpUsernameMax then (false, store)
  else if store.slotOf entry = none ∧ store.entries.length ≥ airplayPairingStoreMaxClients then
    (false, store)
  else if saved then (true, store.put entry)
  else (false, store)

variable {entry other : AirPlayPairingStoreEntry} {store : AirPlayPairingStore}

lemma mem_put (h : other ∈ (store.put entry).entries) : other ∈ store.entries ∨ other = entry := by
  rw [put] at h
  split at h
  · exact List.mem_or_eq_of_mem_set h
  rcases List.mem_append.mp h with hold | hnew
  · exact .inl hold
  · exact .inr (List.mem_singleton.mp hnew)

/-- An upsert that succeeds puts the entry into the store, and any other leaves it. -/
lemma upsert_cases (entry : AirPlayPairingStoreEntry) (saved : Bool) (store : AirPlayPairingStore) :
    store.upsert entry saved = (true, store.put entry) ∨
      store.upsert entry saved = (false, store) := by
  rw [upsert]
  split_ifs
  · exact .inr rfl
  · exact .inr rfl
  · exact .inl rfl
  · exact .inr rfl

end AirPlayPairingStore

end NXCast
