import NXCast.Session.StoreTables

/-!
# The invariant of the logical session manager

Every call keeps `Sound`, so it holds after every sequence of calls
(`logicalSessionStore_invariant`).
-/

namespace NXCast

open AirPlayConnectionEntry Function Slots

namespace AirPlaySessionManager

/-! ## The ends of the operations -/

section Operations

variable {manager : AirPlaySessionManager} {references : UInt64 → ℕ} {slot : Fin 8}

lemma Sound.withConnections (h : manager.Sound references) {entry : Option AirPlayConnectionEntry}
    (hconsistent : (manager.setConnection slot entry).Consistent) :
    (manager.setConnection slot entry).Sound references :=
  ⟨hconsistent, ⟨h.media, h.owed⟩, h.live⟩

lemma Sound.withNextId (h : manager.Sound references) (nextLogicalSessionId : UInt64) :
    Sound { manager with nextLogicalSessionId } references :=
  ⟨⟨h.connectionIds, h.logicalIds, h.appleIds, h.counts, h.inUse, h.clients⟩,
    ⟨h.media, h.owed⟩, h.live⟩

variable {logical : AirPlayLogicalSessionEntry}

/-- What `release_logical_if_unreferenced` leaves. -/
lemma releaseLogicalIfUnreferenced_held {kept : AirPlayLogicalSessionEntry}
    (h : releaseLogicalIfUnreferenced logical = some kept) : kept.Held := by
  unfold releaseLogicalIfUnreferenced at h
  split at h
  · cases h
  rename_i hreferenced
  cases h
  rw [not_and_or] at hreferenced
  exact hreferenced

variable {position : Fin 8}

/-- **Releasing** a session that may have lost its last holder. -/
lemma Live.release (h : manager.Live)
    (hconsistent : (manager.setLogical position (some logical)).Consistent)
    (hledger : (manager.setLogical position (some logical)).Ledger references) :
    (manager.setLogical position (releaseLogicalIfUnreferenced logical)).Sound references := by
  have hself : (manager.setLogical position (some logical)).logicalSessions position =
      some logical := by
    rw [setLogical_logicalSessions, update_self]
  refine ⟨?_, ?_, h.setLogical fun kept hkept => releaseLogicalIfUnreferenced_held hkept⟩
  · unfold releaseLogicalIfUnreferenced
    split_ifs with hfree
    · have hremoved := hconsistent.removeLogical hself hfree.1
      rwa [setLogical_setLogical] at hremoved
    · exact hconsistent
  · unfold releaseLogicalIfUnreferenced
    split_ifs with hfree
    · have hremoved := hledger.removeLogical hself hfree.2
      rwa [setLogical_setLogical] at hremoved
    · exact hledger

variable {connection : AirPlayConnectionEntry}

lemma Consistent.held (h : manager.Consistent) (hslot : manager.connections slot = some connection)
    (hposition : manager.logicalSessions position = some logical)
    (hbound : connection.boundTo logical.logicalSessionId) : logical.Held := by
  have hpos := boundConnections_pos hslot hbound
  rw [← h.counts hposition] at hpos
  refine .inl fun hzero => ?_
  rw [hzero] at hpos
  exact absurd hpos (lt_irrefl 0)

/-- **Binding** a connection that was not bound, to a session that may be new. -/
lemma Live.bind (h : manager.Live)
    (hconsistent : (manager.setLogical position (some logical)).Consistent)
    (hledger : (manager.setLogical position (some logical)).Ledger references)
    (hslot : manager.connections slot = some connection)
    (hfree : connection.logicalSessionBound = false)
    (hcli : ∀ left right, connection.clientId = some left → logical.clientId = some right → left = right) :
    (manager.bindConnection slot connection position logical).Sound references := by
  have hself : (manager.setLogical position (some logical)).logicalSessions position =
      some logical := by
    rw [setLogical_logicalSessions, update_self]
  have hsame : (manager.setLogical position (some logical)).bindConnection slot connection
      position logical = manager.bindConnection slot connection position logical := by
    rw [bindConnection_of_unbound hfree, bindConnection_of_unbound hfree,
      setConnection_setLogical_comm, setConnection_setLogical_comm, setLogical_setLogical]
  have hattached := hconsistent.attach hslot hfree hself hcli
  rw [hsame] at hattached
  rw [bindConnection_of_unbound hfree] at hattached ⊢
  refine ⟨hattached, ?_, Live.setLogical h fun joined hjoin => ?_⟩
  · have hmedia : ((manager.setLogical position (some logical)).setLogical position
        (some (logical.joined connection))).Ledger references :=
      hledger.setLogical_same hconsistent.logicalIds hself rfl rfl
    rw [setLogical_setLogical] at hmedia
    exact ⟨hmedia.media, hmedia.owed⟩
  cases hjoin
  have hconnection : (manager.setConnection slot
      (some (connection.joining logical))).connections slot =
        some (connection.joining logical) := by
    rw [setConnection_connections, update_self]
  have hsess : ((manager.setConnection slot (some (connection.joining logical))).setLogical position
        (some (logical.joined connection))).logicalSessions position =
          some (logical.joined connection) := by
    rw [setLogical_logicalSessions, update_self]
  exact hattached.held hconnection hsess (boundTo_iff.mpr ⟨rfl, rfl⟩)

/-! ## Observing -/

@[simp] lemma observed_fst {position : Option (Fin 8)} :
    (manager.observed slot position).1 = manager := by
  unfold observed
  split <;> rfl

variable (connectionId : UInt64)

lemma observedConnection_some (observedKind : AirPlayConnectionKind)
    (connection : AirPlayConnectionEntry) :
    (observedConnection connectionId observedKind (some connection)).connectionId =
        connection.connectionId ∧
      (observedConnection connectionId observedKind (some connection)).logicalSessionId =
        connection.logicalSessionId ∧
      (observedConnection connectionId observedKind (some connection)).clientId =
        connection.clientId ∧
      (observedConnection connectionId observedKind (some connection)).logicalSessionBound =
        connection.logicalSessionBound := by
  unfold observedConnection
  dsimp only
  split <;> exact ⟨rfl, rfl, rfl, rfl⟩

/-- What is known of the slot `airplay_session_manager_observe` works on. -/
def Holds (manager : AirPlaySessionManager) (slot : Fin 8) (connectionId : UInt64)
    (connection : Option AirPlayConnectionEntry) : Prop :=
  manager.connections slot = connection ∧
    match connection with
    | some connection => connection.connectionId = connectionId
    | none => manager.findConnection connectionId = none

lemma Sound.observedConnection (h : manager.Sound references) {connectionId : UInt64}
    {connection : Option AirPlayConnectionEntry}
    (hslot : manager.Holds slot connectionId connection) (observedKind : AirPlayConnectionKind) :
    (manager.setConnection slot
      (some (observedConnection connectionId observedKind connection))).Sound references := by
  apply h.withConnections
  cases connection with
  | none =>
    obtain ⟨hslot, hfresh⟩ := hslot
    refine h.toConsistent.setConnection ?_ ?_ ?_ ?_
    · intro other found _ hother
      exact findConnection_none hfresh hother
    · intro logicalSessionId
      rw [hslot, worth_none]
      rfl
    · exact nofun
    · exact nofun
  | some connection =>
    obtain ⟨hslot, -⟩ := hslot
    obtain ⟨hid, hsess, hcli, hbound⟩ :=
      observedConnection_some connectionId observedKind connection
    have hboundTo : ∀ logicalSessionId,
        (AirPlaySessionManager.observedConnection connectionId observedKind
          (some connection)).boundTo logicalSessionId = connection.boundTo logicalSessionId := by
      intro logicalSessionId
      unfold boundTo
      rw [hsess, hbound]
    refine h.toConsistent.setConnection ?_ ?_ ?_ ?_
    · intro other found hne hother heq
      exact hne (h.connectionIds hother hslot (heq.trans hid))
    · intro logicalSessionId
      rw [hslot, worth_some, worth_some, hboundTo]
    · rw [hbound, hsess]
      exact h.inUse hslot
    · intro position logical clientId hpos
      rw [hboundTo, hcli]
      exact h.clients hslot hpos

/-- The session `airplay_session_manager_observe` chooses for a connection without one. -/
lemma observedLogical_some {connection : Option AirPlayConnectionEntry} {appleSessionId : CString}
    (hunbound : connection.filter (·.logicalSessionBound) = none)
    (h : manager.observedLogical connection (some appleSessionId) = .ok (some position)) :
    (∃ logical, manager.logicalSessions position = some logical) ∨
      manager.logicalSessions position = none ∧
        ∀ other logical, manager.logicalSessions other = some logical →
          logical.appleSessionId ≠ appleSessionId := by
  unfold observedLogical at h
  rw [hunbound] at h
  dsimp only at h
  split at h
  · rename_i found logical hfound
    cases h
    exact .inl ⟨logical, (search_some hfound).1⟩
  rename_i hmiss
  split at h
  · rename_i free hfree
    cases h
    exact .inr ⟨vacant_some hfree, fun _ _ => findLogicalByAppleId_none hmiss⟩
  · cases h

lemma bind_client_agree (h : ¬(connection.clientId.isSome ∧ logical.clientId.isSome ∧
      connection.clientId ≠ logical.clientId)) :
    ∀ left right, connection.clientId = some left → logical.clientId = some right →
      left = right := by
  intro left right hleft hright
  by_contra hne
  refine h ⟨?_, ?_, ?_⟩
  · rw [hleft]
    rfl
  · rw [hright]
    rfl
  · rw [hleft, hright]
    exact fun heq => hne (Option.some.inj heq)

lemma Sound.observeBind (h : manager.Sound references) {newConnection : Bool}
    {appleSessionId : CString} (hslot : manager.connections slot = some connection)
    (hunbound : connection.logicalSessionBound = false)
    (hpos : (∃ logical, manager.logicalSessions position = some logical) ∨ manager.logicalSessions position = none ∧ ∀ other logical, manager.logicalSessions other = some logical → logical.appleSessionId ≠ appleSessionId) :
    (manager.observeBind slot connection newConnection position appleSessionId).1.Sound
      references := by
  have hforget : (if newConnection = true then manager.setConnection slot none
      else manager).Sound references := by
    split
    · exact h.withConnections (h.toConsistent.forget hslot hunbound)
    · exact h
  unfold AirPlaySessionManager.observeBind
  split
  · rename_i logical hlog
    split
    · exact hforget
    rename_i hagree
    rw [observed_fst]
    have hself : manager.setLogical position (some logical) = manager := by
      unfold AirPlaySessionManager.setLogical
      rw [← hlog, update_eq_self]
    refine h.live.bind ?_ ?_ hslot hunbound (bind_client_agree hagree)
    · rw [hself]
      exact h.toConsistent
    · rw [hself]
      exact h.toLedger
  · rename_i hfree
    obtain ⟨logical, hlog⟩ | ⟨-, happle⟩ := hpos
    · rw [hlog] at hfree
      cases hfree
    split
    · rename_i allocated halloc
      rw [← allocateLogicalId_tables halloc]
      split
      · exact (h.withConnections (h.toConsistent.forget hslot hunbound)).withNextId _
      · exact h.withNextId _
    rename_i logicalSessionId allocated halloc
    rw [observed_fst, ← allocateLogicalId_tables halloc]
    have hnext := h.withNextId allocated.nextLogicalSessionId
    have hid := allocateLogicalId_free halloc
    refine hnext.live.bind ?_ ?_ hslot hunbound ?_
    · exact hnext.toConsistent.addLogical hfree hid happle rfl
    · exact hnext.toLedger.addLogical hfree hid rfl
    · exact nofun

/-- **`airplay_session_manager_observe`** keeps the invariant once the connection has a slot. -/
lemma Sound.observeAt (h : manager.Sound references) {connectionId : UInt64}
    {connection : Option AirPlayConnectionEntry}
    (hslot : manager.Holds slot connectionId connection) (observedKind : AirPlayConnectionKind)
    (request : AirPlayRtspRequest) (appleSessionId : Option CString) :
    (manager.observeAt slot connection connectionId observedKind request appleSessionId).1.Sound
      references := by
  unfold AirPlaySessionManager.observeAt
  split
  · exact h
  rename_i position hpos
  split
  · exact h
  have hentry := h.observedConnection hslot observedKind
  dsimp only
  split
  · rename_i appleSessionId position
    split_ifs with hfree
    · rw [observed_fst]
      exact hentry
    rw [Bool.not_eq_true] at hfree
    refine hentry.observeBind ?_ hfree (observedLogical_some ?_ hpos)
    · rw [setConnection_connections, update_self]
    cases connection with
    | none => rfl
    | some connection =>
      rw [(observedConnection_some connectionId observedKind connection).2.2.2] at hfree
      rw [Option.filter_some, if_neg (by rw [hfree]; exact Bool.false_ne_true)]
  · rw [observed_fst]
    exact hentry

/-- **`airplay_session_manager_observe`** keeps the invariant. -/
lemma Sound.observe (h : manager.Sound references) (connectionId : UInt64)
    (request : AirPlayRtspRequest) : (manager.observe connectionId request).1.Sound references := by
  unfold AirPlaySessionManager.observe
  dsimp only
  split_ifs
  · exact h
  · exact h
  · exact h
  split
  · rename_i hmiss
    split
    · exact h
    · rename_i slot hslot
      exact h.observeAt ⟨vacant_some hslot, hmiss⟩ _ _ _
  · rename_i slot connection hfound
    split
    · exact h
    · exact h.observeAt (findConnection_some hfound) _ _ _

/-! ## The other operations -/

lemma Consistent.findLogicalById (h : manager.Consistent)
    (hslot : manager.connections slot = some connection) (hbound : connection.logicalSessionBound) :
    manager.findLogicalById connection.logicalSessionId ≠ none :=
  fun hmiss => not_inUse_of_findLogicalById hmiss (h.inUse hslot hbound)

section

variable (h : manager.Sound references)

include h

/-- **`airplay_session_manager_close`** keeps the invariant. -/
lemma Sound.close : (manager.close connectionId).1.Sound references := by
  unfold AirPlaySessionManager.close
  split
  · exact h
  split
  · exact h
  rename_i slot connection hfound
  have hslot := (findConnection_some hfound).1
  unfold closeLogical
  dsimp only
  split_ifs with hbound
  · split
    · rename_i position logical hlog
      obtain ⟨hposition, hid⟩ := findLogicalById_some hlog
      have hlive : (manager.setConnection slot none).Live := h.live
      have hopen : (manager.setConnection slot none).Ledger references := ⟨h.media, h.owed⟩
      have hdetached := h.toConsistent.detach hslot hbound hposition hid
      have hledger : ((manager.setConnection slot none).setLogical position (some { logical with
          connectionCount := logical.connectionCount - 1 })).Ledger references :=
        hopen.setLogical_same h.logicalIds hposition rfl rfl
      split
      · split
        · rw [← setConnection_setLogical_comm]
          exact hlive.release hdetached hledger
        rename_i hcount
        refine ⟨hdetached, hledger, hlive.setLogical fun kept hkept => ?_⟩
        cases hkept
        exact .inl hcount
      · -- The connection itself is counted, so the count is not zero.
        rename_i hzero
        have hpos := boundConnections_pos hslot (boundTo_iff.mpr ⟨hbound, hid.symm⟩)
        rw [← h.counts hposition] at hpos
        exact absurd hpos hzero
    · rename_i hmiss
      exact absurd hmiss (h.toConsistent.findLogicalById hslot hbound)
  · rw [Bool.not_eq_true] at hbound
    exact h.withConnections (h.toConsistent.forget hslot hbound)

lemma Sound.setClient {clientId : AirPlayClientId}
    (hslot : manager.connections slot = some connection)
    (hcli : ∀ position logical, manager.logicalSessions position = some logical → connection.boundTo logical.logicalSessionId → logical.clientId = some clientId) :
    (manager.setConnection slot (some { connection with clientId := some clientId })).Sound
      references := by
  apply h.withConnections
  refine h.toConsistent.setConnection ?_ ?_ ?_ ?_
  · intro other found hne hother heq
    exact hne (h.connectionIds hother hslot heq)
  · intro logicalSessionId
    rw [hslot]
    rfl
  · have hinUse : connection.logicalSessionBound →
        manager.InUse connection.logicalSessionId := h.inUse hslot
    exact hinUse
  · intro position logical other hpos hbound hother
    rw [← hother]
    exact hcli position logical hpos hbound

/-- **`airplay_session_manager_bind_client`** keeps the invariant. -/
lemma Sound.bindClient
    (clientId : AirPlayClientId) : (manager.bindClient connectionId clientId).1.Sound references := by
  unfold AirPlaySessionManager.bindClient
  split
  · exact h
  split
  · exact h
  rename_i slot connection hfound
  have hslot := (findConnection_some hfound).1
  split
  · exact h
  dsimp only
  split
  · split
    · exact h
    rename_i position logical hlog
    obtain ⟨hpos, hid⟩ := findLogicalById_some hlog
    split_ifs with hagree
    · exact h
    have hkept : ∀ other, logical.clientId = some other → some clientId = some other := by
      intro other hother
      by_contra hne
      refine hagree ⟨?_, ?_⟩
      · rw [hother]
        rfl
      · rw [hother]
        exact fun heq => hne heq.symm
    have hheld : logical.Held := h.live hpos
    have hsess : (manager.setLogical position
        (some { logical with clientId := some clientId })).Sound references := by
      refine ⟨h.toConsistent.setLogical hpos rfl rfl rfl hkept,
        h.toLedger.setLogical_same h.logicalIds hpos rfl rfl,
        h.live.setLogical fun kept hnew => ?_⟩
      cases hnew
      exact hheld
    refine hsess.setClient hslot fun other found hother hbound => ?_
    rw [boundTo_iff] at hbound
    rw [setLogical_logicalSessions, update_apply] at hother
    split_ifs at hother with hne
    · cases hother
      rfl
    · exact absurd (h.logicalIds hother hpos (hbound.2.symm.trans hid.symm)) hne
  · rename_i hfree
    refine h.setClient hslot fun position logical _ hbound => ?_
    rw [boundTo_iff] at hbound
    exact absurd hbound.1 hfree

/-- **`airplay_session_manager_mark_transport_teardown`** keeps the invariant. -/
lemma Sound.markTransportTeardown :
    (manager.markTransportTeardown connectionId).1.Sound references := by
  unfold AirPlaySessionManager.markTransportTeardown
  split
  · exact h
  split
  · rename_i clientId _ _
    split
    · exact h
    · rename_i position matching hscan
      have hmem : (position, matching) ∈ (List.finRange 8).filterMap fun position =>
          ((manager.logicalSessions position).filter (servesClient clientId)).map
            fun logical => (position, logical) := by
        rw [hscan]
        exact List.mem_singleton_self _
      obtain ⟨other, -, hother⟩ := List.mem_filterMap.mp hmem
      obtain ⟨logical, hlog, hpair⟩ := Option.map_eq_some_iff.mp hother
      cases hpair
      have hpos := (Option.filter_eq_some_iff.mp hlog).1
      have hheld : matching.Held := h.live hpos
      refine ⟨h.toConsistent.setLogical hpos rfl rfl rfl fun _ hcli => hcli,
        h.toLedger.setLogical_same h.logicalIds hpos rfl rfl,
        h.live.setLogical fun kept hkept => ?_⟩
      cases hkept
      exact hheld
    · exact h
  · exact h

end

/-- The references after one more. -/
def retainReferences (references : UInt64 → ℕ) (logicalSessionId : UInt64) : UInt64 → ℕ :=
  Function.update references logicalSessionId (references logicalSessionId + 1)

/-- The references after one less. -/
def releaseReferences (references : UInt64 → ℕ) (logicalSessionId : UInt64) : UInt64 → ℕ :=
  Function.update references logicalSessionId (references logicalSessionId - 1)

variable (h : manager.Sound references)

include h

/-- **`airplay_session_manager_retain_media`** keeps the invariant. -/
lemma Sound.retainMedia (logicalSessionId : UInt64) :
    (manager.retainMedia logicalSessionId).1.Sound
      (if (manager.retainMedia logicalSessionId).2 then
        retainReferences references logicalSessionId else references) := by
  unfold AirPlaySessionManager.retainMedia
  split
  · exact h
  split
  · exact h
  rename_i position logical hlog
  obtain ⟨hpos, hid⟩ := findLogicalById_some hlog
  split
  · rename_i hroom
    rw [UInt32.lt_iff_toNat_lt] at hroom
    have hcount : (logical.mediaReferenceCount + 1).toNat = references logicalSessionId + 1 := by
      rw [UInt32.toNat_add, ← hid, ← h.media hpos]
      simp only [UInt32.reduceToNat] at hroom ⊢
      omega
    have hledger : (manager.setLogical position (some { logical with
        mediaReferenceCount := logical.mediaReferenceCount + 1 })).Ledger
          (retainReferences references logicalSessionId) := by
      unfold retainReferences
      rw [← hcount, ← hid]
      exact h.toLedger.setLogical h.logicalIds hpos rfl rfl
    refine ⟨h.toConsistent.setLogical hpos rfl rfl rfl fun _ hcli => hcli, hledger,
      h.live.setLogical fun kept hkept => ?_⟩
    cases hkept
    refine .inr fun hzero => ?_
    dsimp only at hzero
    rw [hzero] at hcount
    exact absurd hcount.symm (Nat.succ_ne_zero _)
  · exact h

/-- **`airplay_session_manager_release_media`** keeps the invariant. -/
lemma Sound.releaseMedia (logicalSessionId : UInt64) :
    (manager.releaseMedia logicalSessionId).1.Sound
      (if (manager.releaseMedia logicalSessionId).2 then
        releaseReferences references logicalSessionId else references) := by
  unfold AirPlaySessionManager.releaseMedia
  split
  · exact h
  split
  · exact h
  rename_i position logical hlog
  obtain ⟨hposition, hid⟩ := findLogicalById_some hlog
  split
  · rename_i hpos
    have hcount : (logical.mediaReferenceCount - 1).toNat = references logicalSessionId - 1 := by
      have hone : 1 ≤ logical.mediaReferenceCount := UInt32.le_iff_toNat_le.mpr hpos
      rw [UInt32.toNat_sub_of_le _ _ hone, ← hid, ← h.media hposition]
      rfl
    have hconsistent : (manager.setLogical position (some { logical with
        mediaReferenceCount := logical.mediaReferenceCount - 1 })).Consistent :=
      h.toConsistent.setLogical hposition rfl rfl rfl fun _ hcli => hcli
    have hledger : (manager.setLogical position (some { logical with
        mediaReferenceCount := logical.mediaReferenceCount - 1 })).Ledger
          (releaseReferences references logicalSessionId) := by
      unfold releaseReferences
      rw [← hcount, ← hid]
      exact h.toLedger.setLogical h.logicalIds hposition rfl rfl
    exact h.live.release hconsistent hledger
  · exact h

/-- A session in use has a bound connection or a media reference, and the other way round. -/
lemma Sound.inUse_iff {logicalSessionId : UInt64} :
    manager.InUse logicalSessionId ↔
      0 < manager.boundConnections logicalSessionId ∨ 0 < references logicalSessionId := by
  constructor
  · rintro ⟨position, logical, hpos, rfl⟩
    rw [← h.counts hpos, ← h.media hpos]
    obtain hcount | hmedia := h.live hpos
    · exact .inl (Nat.pos_of_ne_zero fun hzero => hcount (UInt32.toNat_inj.mp hzero))
    · exact .inr (Nat.pos_of_ne_zero fun hzero => hmedia (UInt32.toNat_inj.mp hzero))
  · rintro (hbound | howed)
    · obtain ⟨slot, connection, hslot, hbound⟩ := exists_of_count_pos hbound
      rw [boundTo_iff] at hbound
      exact hbound.2 ▸ h.inUse hslot hbound.1
    · exact h.owed howed

end Operations

lemma sound_create : create.Sound fun _ => 0 where
  connectionIds := Slots.Distinct.none
  logicalIds := Slots.Distinct.none
  appleIds := Slots.Distinct.none
  counts := nofun
  inUse := nofun
  clients := nofun
  media := nofun
  owed := fun _ h => absurd h (lt_irrefl 0)
  live := nofun

end AirPlaySessionManager

/-! ## Runs -/

/-- The calls a session manager answers. -/
inductive AirPlaySessionOperation where
  | observe (connectionId : UInt64) (request : AirPlayRtspRequest)
  | close (connectionId : UInt64)
  | bindClient (connectionId : UInt64) (clientId : AirPlayClientId)
  | markTransportTeardown (connectionId : UInt64)
  | retainMedia (logicalSessionId : UInt64)
  | releaseMedia (logicalSessionId : UInt64)

/-- The manager, beside the media references its callers have been given. -/
structure AirPlaySessionStore where
  manager : AirPlaySessionManager
  references : UInt64 → ℕ

namespace AirPlaySessionStore

/-- Nothing has happened. -/
def initial : AirPlaySessionStore := ⟨.create, fun _ => 0⟩

/-- One call. -/
def step (store : AirPlaySessionStore) : AirPlaySessionOperation → AirPlaySessionStore
  | .observe connectionId request =>
    { store with manager := (store.manager.observe connectionId request).1 }
  | .close connectionId => { store with manager := (store.manager.close connectionId).1 }
  | .bindClient connectionId clientId =>
    { store with manager := (store.manager.bindClient connectionId clientId).1 }
  | .markTransportTeardown connectionId =>
    { store with manager := (store.manager.markTransportTeardown connectionId).1 }
  | .retainMedia logicalSessionId =>
    ⟨(store.manager.retainMedia logicalSessionId).1,
      if (store.manager.retainMedia logicalSessionId).2 then
        AirPlaySessionManager.retainReferences store.references logicalSessionId
      else store.references⟩
  | .releaseMedia logicalSessionId =>
    ⟨(store.manager.releaseMedia logicalSessionId).1,
      if (store.manager.releaseMedia logicalSessionId).2 then
        AirPlaySessionManager.releaseReferences store.references logicalSessionId
      else store.references⟩

/-- A sequence of calls. -/
def run (store : AirPlaySessionStore) (operations : List AirPlaySessionOperation) :
    AirPlaySessionStore :=
  operations.foldl step store

variable {store : AirPlaySessionStore}

lemma sound_step (h : store.manager.Sound store.references)
    (operation : AirPlaySessionOperation) :
    (store.step operation).manager.Sound (store.step operation).references := by
  cases operation with
  | observe connectionId request => exact h.observe connectionId request
  | close connectionId => exact h.close connectionId
  | bindClient connectionId clientId => exact h.bindClient connectionId clientId
  | markTransportTeardown connectionId => exact h.markTransportTeardown connectionId
  | retainMedia logicalSessionId => exact h.retainMedia logicalSessionId
  | releaseMedia logicalSessionId => exact h.releaseMedia logicalSessionId

lemma sound_run (h : store.manager.Sound store.references)
    (operations : List AirPlaySessionOperation) :
    (store.run operations).manager.Sound (store.run operations).references := by
  induction operations generalizing store with
  | nil => exact h
  | cons operation operations ih => exact ih (sound_step h operation)

end AirPlaySessionStore

/-- **The logical session store.**  After every sequence of calls: connection ids are unique,
and so are the ids and the Apple ids of the sessions in use; a session counts the connections
bound to it; a bound connection has its session; a session is in use exactly while a
connection is bound to it or somebody has a media reference to it; and a connection that has a
client has the client of its session. -/
theorem logicalSessionStore_invariant (operations : List AirPlaySessionOperation) :
    let store := AirPlaySessionStore.initial.run operations
    Slots.Distinct AirPlayConnectionEntry.connectionId store.manager.connections ∧
    Slots.Distinct AirPlayLogicalSessionEntry.logicalSessionId store.manager.logicalSessions ∧
    Slots.Distinct AirPlayLogicalSessionEntry.appleSessionId store.manager.logicalSessions ∧
    (∀ position logical, store.manager.logicalSessions position = some logical →
      logical.connectionCount.toNat =
        store.manager.boundConnections logical.logicalSessionId) ∧
    (∀ slot connection, store.manager.connections slot = some connection →
      connection.logicalSessionBound = true →
        store.manager.InUse connection.logicalSessionId) ∧
    (∀ logicalSessionId, store.manager.InUse logicalSessionId ↔
      0 < store.manager.boundConnections logicalSessionId ∨
        0 < store.references logicalSessionId) ∧
    (∀ slot connection position logical clientId,
      store.manager.connections slot = some connection →
      store.manager.logicalSessions position = some logical →
      connection.boundTo logical.logicalSessionId = true →
      connection.clientId = some clientId → logical.clientId = some clientId) := by
  intro store
  have h : store.manager.Sound store.references :=
    AirPlaySessionStore.sound_run AirPlaySessionManager.sound_create operations
  exact ⟨h.connectionIds, h.logicalIds, h.appleIds, fun _ _ hposition => h.counts hposition,
    fun _ _ hslot => h.inUse hslot, fun _ => h.inUse_iff,
    fun _ _ _ _ _ hslot hposition => h.clients hslot hposition⟩

end NXCast
