import NXCast.Session.LogicalSession

/-!
# The two tables of the logical session manager

`Consistent` relates the two tables; it is kept by the moves every operation is made of:
writing a connection without changing its binding, adding and removing a session nobody is
bound to, attaching a connection and detaching one.  `Ledger` compares the sessions' media
counters with the references that were really handed out, and `Sound` adds that every session
is held by somebody.
-/

namespace NXCast

open AirPlayConnectionEntry Function Slots AirPlayLogicalSessionEntry

/-! ## The invariant -/

/-- Whether a connection is bound to a session. -/
def AirPlayConnectionEntry.boundTo (logicalSessionId : UInt64)
    (connection : AirPlayConnectionEntry) : Bool :=
  connection.logicalSessionBound && decide (connection.logicalSessionId = logicalSessionId)

@[simp] lemma AirPlayConnectionEntry.boundTo_iff {logicalSessionId : UInt64}
    {connection : AirPlayConnectionEntry} :
    connection.boundTo logicalSessionId ↔
      connection.logicalSessionBound ∧ connection.logicalSessionId = logicalSessionId := by
  simp [boundTo]

/-- The entry of a connection once it is bound. -/
def AirPlayConnectionEntry.joining (connection : AirPlayConnectionEntry)
    (logical : AirPlayLogicalSessionEntry) : AirPlayConnectionEntry :=
  { connection with
    logicalSessionId := logical.logicalSessionId
    logicalSessionBound := true }

/-- The entry of a session once a connection is bound to it. -/
def AirPlayLogicalSessionEntry.joined (logical : AirPlayLogicalSessionEntry)
    (connection : AirPlayConnectionEntry) : AirPlayLogicalSessionEntry :=
  { logical with
    connectionCount := logical.connectionCount + 1
    clientId := logical.clientId <|> connection.clientId }

/-- Somebody holds the session: a connection or the media of the session. -/
def AirPlayLogicalSessionEntry.Held (logical : AirPlayLogicalSessionEntry) : Prop :=
  logical.connectionCount ≠ 0 ∨ logical.mediaReferenceCount ≠ 0

namespace AirPlaySessionManager

/-- A session with this id is in use. -/
def InUse (manager : AirPlaySessionManager) (logicalSessionId : UInt64) : Prop :=
  ∃ position logical, manager.logicalSessions position = some logical ∧
    logical.logicalSessionId = logicalSessionId

/-- How many connections are bound to a session. -/
def boundConnections (manager : AirPlaySessionManager) (logicalSessionId : UInt64) : ℕ :=
  Slots.count (AirPlayConnectionEntry.boundTo logicalSessionId) manager.connections

/-- What relates the two tables. -/
structure Consistent (manager : AirPlaySessionManager) : Prop where
  connectionIds : Slots.Distinct AirPlayConnectionEntry.connectionId manager.connections
  logicalIds : Slots.Distinct AirPlayLogicalSessionEntry.logicalSessionId manager.logicalSessions
  appleIds : Slots.Distinct AirPlayLogicalSessionEntry.appleSessionId manager.logicalSessions
  counts : ∀ ⦃position logical⦄, manager.logicalSessions position = some logical →
    logical.connectionCount.toNat = manager.boundConnections logical.logicalSessionId
  inUse : ∀ ⦃slot connection⦄, manager.connections slot = some connection →
    connection.logicalSessionBound = true → manager.InUse connection.logicalSessionId
  clients : ∀ ⦃slot connection position logical clientId⦄,
    manager.connections slot = some connection →
    manager.logicalSessions position = some logical →
    connection.boundTo logical.logicalSessionId = true →
    connection.clientId = some clientId → logical.clientId = some clientId

/-- The media counters are the references handed out and not given back. -/
structure Ledger (manager : AirPlaySessionManager) (references : UInt64 → ℕ) : Prop where
  media : ∀ ⦃position logical⦄, manager.logicalSessions position = some logical →
    logical.mediaReferenceCount.toNat = references logical.logicalSessionId
  owed : ∀ ⦃logicalSessionId⦄, 0 < references logicalSessionId →
    manager.InUse logicalSessionId

/-- Every session is held by somebody. -/
def Live (manager : AirPlaySessionManager) : Prop :=
  ∀ ⦃position logical⦄, manager.logicalSessions position = some logical → logical.Held

/-- The invariant of the manager, with the media references its callers have. -/
structure Sound (manager : AirPlaySessionManager) (references : UInt64 → ℕ) : Prop extends
    Consistent manager, Ledger manager references where
  live : manager.Live

/-! ## Reading the tables after a write -/

section Writes

variable {manager : AirPlaySessionManager} {slot : Fin 8} {position : Fin 8}
  {connection : Option AirPlayConnectionEntry} {logical : Option AirPlayLogicalSessionEntry}

@[simp] lemma setConnection_connections : (manager.setConnection slot connection).connections =
    update manager.connections slot connection := rfl

@[simp] lemma setConnection_logicalSessions :
    (manager.setConnection slot connection).logicalSessions = manager.logicalSessions := rfl

@[simp] lemma setLogical_connections :
    (manager.setLogical position logical).connections = manager.connections := rfl

@[simp] lemma setLogical_logicalSessions : (manager.setLogical position logical).logicalSessions =
    update manager.logicalSessions position logical := rfl

lemma setConnection_setLogical_comm :
    (manager.setConnection slot connection).setLogical position logical =
      (manager.setLogical position logical).setConnection slot connection := rfl

lemma setLogical_setLogical {other : Option AirPlayLogicalSessionEntry} :
    (manager.setLogical position other).setLogical position logical =
      manager.setLogical position logical := by
  unfold setLogical
  simp only [update_idem]

end Writes

/-! ## The scans -/

section Scans

variable {manager : AirPlaySessionManager}

lemma findConnection_some {connectionId : UInt64} {slot : Fin 8}
    {connection : AirPlayConnectionEntry}
    (h : manager.findConnection connectionId = some (slot, connection)) :
    manager.connections slot = some connection ∧ connection.connectionId = connectionId := by
  simpa using search_some h

lemma findConnection_none {connectionId : UInt64}
    (h : manager.findConnection connectionId = none) {slot : Fin 8}
    {connection : AirPlayConnectionEntry} (hslot : manager.connections slot = some connection) :
    connection.connectionId ≠ connectionId := by
  simpa using search_none h hslot

variable {logicalSessionId : UInt64}

lemma findLogicalById_some {position : Fin 8} {logical : AirPlayLogicalSessionEntry}
    (h : manager.findLogicalById logicalSessionId = some (position, logical)) :
    manager.logicalSessions position = some logical ∧
      logical.logicalSessionId = logicalSessionId := by
  simpa using search_some h

lemma not_inUse_of_findLogicalById (h : manager.findLogicalById logicalSessionId = none) :
    ¬manager.InUse logicalSessionId := by
  rintro ⟨position, logical, hpos, hid⟩
  have hscan := search_none h hpos
  exact absurd hid (by simpa using hscan)

lemma findLogicalByAppleId_none {appleSessionId : CString}
    (h : manager.findLogicalByAppleId appleSessionId = none) {position : Fin 8}
    {logical : AirPlayLogicalSessionEntry} (hpos : manager.logicalSessions position = some logical) :
    logical.appleSessionId ≠ appleSessionId := by
  simpa using search_none h hpos

lemma allocateLoop_free {attempts : ℕ} {candidate : UInt64}
    (h : (manager.allocateLoop attempts candidate).1 = some logicalSessionId) :
    ¬manager.InUse logicalSessionId := by
  induction attempts generalizing candidate with
  | zero => cases h
  | succ attempts ih =>
    rw [allocateLoop] at h
    split_ifs at h with hfree
    · cases h
      exact not_inUse_of_findLogicalById hfree.2
    · exact ih h

lemma allocateLogicalId_tables {result : Option UInt64} {allocated : AirPlaySessionManager}
    (h : manager.allocateLogicalId = (result, allocated)) :
    { manager with nextLogicalSessionId := allocated.nextLogicalSessionId } = allocated := by
  cases h
  rfl

lemma allocateLogicalId_free {allocated : AirPlaySessionManager}
    (h : manager.allocateLogicalId = (some logicalSessionId, allocated)) :
    ¬manager.InUse logicalSessionId :=
  allocateLoop_free (congrArg Prod.fst h)

end Scans

/-! ## The moves, for the two tables -/

section Moves

variable {manager : AirPlaySessionManager}
  {position : Fin 8} {logicalSessionId : UInt64} {new old : AirPlayLogicalSessionEntry}

lemma InUse.setLogical (h : manager.InUse logicalSessionId)
    (hold : manager.logicalSessions position = some old)
    (hid : new.logicalSessionId = old.logicalSessionId) :
    (manager.setLogical position (some new)).InUse logicalSessionId := by
  obtain ⟨other, logical, hother, hlog⟩ := h
  by_cases heq : other = position
  · rw [heq, hold] at hother
    cases hother
    refine ⟨position, new, ?_, hid.trans hlog⟩
    rw [setLogical_logicalSessions, update_self]
  · refine ⟨other, logical, ?_, hlog⟩
    rw [setLogical_logicalSessions, update_of_ne heq, hother]

lemma InUse.setLogical_of_ne {new : Option AirPlayLogicalSessionEntry}
    (h : manager.InUse logicalSessionId)
    (hold : ∀ old, manager.logicalSessions position = some old → old.logicalSessionId ≠
      logicalSessionId) :
    (manager.setLogical position new).InUse logicalSessionId := by
  obtain ⟨other, logical, hother, hlog⟩ := h
  refine ⟨other, logical, ?_, hlog⟩
  have hne : other ≠ position := by
    rintro rfl
    exact hold logical hother hlog
  rw [setLogical_logicalSessions, update_of_ne hne, hother]

variable {slot : Fin 8}

lemma inUse_setConnection {connection : Option AirPlayConnectionEntry} :
    (manager.setConnection slot connection).InUse logicalSessionId ↔
      manager.InUse logicalSessionId := .rfl

/-- **Writing a connection** that is bound to what its slot was bound to. -/
lemma Consistent.setConnection (h : manager.Consistent) {entry : AirPlayConnectionEntry}
    (hfresh : ∀ other connection, other ≠ slot → manager.connections other = some connection →
      connection.connectionId ≠ entry.connectionId)
    (hworth : ∀ logicalSessionId, worth (boundTo logicalSessionId)
      (manager.connections slot) = worth (boundTo logicalSessionId) (some entry))
    (hinUse : entry.logicalSessionBound → manager.InUse entry.logicalSessionId)
    (hclients : ∀ position logical clientId, manager.logicalSessions position = some logical →
      entry.boundTo logical.logicalSessionId → entry.clientId = some clientId →
      logical.clientId = some clientId) :
    (manager.setConnection slot (some entry)).Consistent where
  connectionIds := h.connectionIds.update hfresh
  logicalIds := h.logicalIds
  appleIds := h.appleIds
  counts := by
    intro position logical hpos
    have hcount := count_update (boundTo logical.logicalSessionId)
      manager.connections slot (some entry)
    have hslot := hworth logical.logicalSessionId
    rw [h.counts hpos]
    unfold boundConnections
    rw [setConnection_connections]
    omega
  inUse := by
    intro other connection hother hbound
    rw [setConnection_connections, update_apply] at hother
    split at hother
    · cases hother
      exact hinUse hbound
    · exact h.inUse hother hbound
  clients := by
    intro other connection position logical clientId hother hpos hbound hcli
    rw [setConnection_connections, update_apply] at hother
    split at hother
    · cases hother
      exact hclients position logical clientId hpos hbound hcli
    · exact h.clients hother hpos hbound hcli

/-- Writing a session: its ids and its count stay, and so does the client it has. -/
lemma Consistent.setLogical (h : manager.Consistent)
    (hold : manager.logicalSessions position = some old)
    (hid : new.logicalSessionId = old.logicalSessionId)
    (happle : new.appleSessionId = old.appleSessionId)
    (hcount : new.connectionCount = old.connectionCount)
    (hcli : ∀ clientId, old.clientId = some clientId → new.clientId = some clientId) :
    (manager.setLogical position (some new)).Consistent where
  connectionIds := h.connectionIds
  logicalIds := h.logicalIds.replace hold hid
  appleIds := h.appleIds.replace hold happle
  counts := by
    intro other logical hother
    rw [setLogical_logicalSessions, update_apply] at hother
    split at hother
    · cases hother
      rw [hcount, hid]
      exact h.counts hold
    · exact h.counts hother
  inUse := fun _ _ hslot hbound => (h.inUse hslot hbound).setLogical hold hid
  clients := by
    intro slot connection other logical clientId hslot hother hbound hcid
    rw [setLogical_logicalSessions, update_apply] at hother
    split at hother
    · cases hother
      rw [hid] at hbound
      exact hcli clientId (h.clients hslot hold hbound hcid)
    · exact h.clients hslot hother hbound hcid

lemma Consistent.boundConnections_of_not_inUse (h : manager.Consistent)
    (hfree : ¬manager.InUse logicalSessionId) : manager.boundConnections logicalSessionId = 0 := by
  by_contra hpos
  obtain ⟨slot, connection, hslot, hbound⟩ :=
    exists_of_count_pos (Nat.pos_of_ne_zero hpos)
  rw [boundTo_iff] at hbound
  exact hfree (hbound.2 ▸ h.inUse hslot hbound.1)

variable {connection : AirPlayConnectionEntry}

lemma boundConnections_pos (hslot : manager.connections slot = some connection)
    (hbound : connection.boundTo logicalSessionId) :
    0 < manager.boundConnections logicalSessionId :=
  count_pos_of_mem hslot hbound

/-- **A new session** nobody is bound to yet. -/
lemma Consistent.addLogical (h : manager.Consistent)
    (hfree : manager.logicalSessions position = none) (hid : ¬manager.InUse new.logicalSessionId)
    (happle : ∀ other logical, manager.logicalSessions other = some logical →
      logical.appleSessionId ≠ new.appleSessionId)
    (hcount : new.connectionCount = 0) :
    (manager.setLogical position (some new)).Consistent where
  connectionIds := h.connectionIds
  logicalIds := h.logicalIds.update fun other logical _ hother heq =>
    hid ⟨other, logical, hother, heq⟩
  appleIds := h.appleIds.update fun other logical _ hother => happle other logical hother
  counts := by
    intro other logical hother
    rw [setLogical_logicalSessions, update_apply] at hother
    split at hother
    · cases hother
      rw [hcount]
      exact (h.boundConnections_of_not_inUse hid).symm
    · exact h.counts hother
  inUse := by
    intro slot connection hslot hbound
    refine (h.inUse hslot hbound).setLogical_of_ne fun old hold => ?_
    rw [hfree] at hold
    cases hold
  clients := by
    intro slot connection other logical clientId hslot hother hbound hcid
    rw [setLogical_logicalSessions, update_apply] at hother
    split at hother
    · cases hother
      rw [boundTo_iff] at hbound
      exact absurd (hbound.2 ▸ h.inUse hslot hbound.1) hid
    · exact h.clients hslot hother hbound hcid

/-- **Forgetting a session** nobody is bound to. -/
lemma Consistent.removeLogical (h : manager.Consistent)
    (hold : manager.logicalSessions position = some old) (hcount : old.connectionCount = 0) :
    (manager.setLogical position none).Consistent where
  connectionIds := h.connectionIds
  logicalIds := h.logicalIds.clear position
  appleIds := h.appleIds.clear position
  counts := by
    intro other logical hother
    rw [setLogical_logicalSessions, update_apply] at hother
    split at hother
    · cases hother
    · exact h.counts hother
  inUse := by
    intro slot connection hslot hbound
    refine (h.inUse hslot hbound).setLogical_of_ne fun other hother heq => ?_
    rw [hold] at hother
    cases hother
    have hpos := boundConnections_pos hslot (boundTo_iff.mpr ⟨hbound, heq.symm⟩)
    have hzero := h.counts hold
    rw [hcount] at hzero
    exact absurd hzero.symm (Nat.pos_iff_ne_zero.mp hpos)
  clients := by
    intro slot connection other logical clientId hslot hother hbound hcid
    rw [setLogical_logicalSessions, update_apply] at hother
    split at hother
    · cases hother
    · exact h.clients hslot hother hbound hcid

variable {logical : AirPlayLogicalSessionEntry}

/-- `bind_connection` for a connection that was not bound. -/
lemma bindConnection_of_unbound (hfree : connection.logicalSessionBound = false) :
    manager.bindConnection slot connection position logical =
      (manager.setConnection slot (some (connection.joining logical))).setLogical position
        (some (logical.joined connection)) := by
  unfold bindConnection leavePrevious
  simp only [hfree, Bool.false_eq_true, false_and, if_false]
  rfl

/-- **Attaching** an unbound connection to a session whose client it does not contradict. -/
lemma Consistent.attach (h : manager.Consistent)
    (hslot : manager.connections slot = some connection)
    (hfree : connection.logicalSessionBound = false)
    (hpos : manager.logicalSessions position = some logical)
    (hcli : ∀ left right, connection.clientId = some left → logical.clientId = some right → left = right) :
    (manager.bindConnection slot connection position logical).Consistent := by
  have hworth : ∀ logicalSessionId, worth
      (boundTo logicalSessionId) (some connection) = 0 := by
    intro logicalSessionId
    exact worth_some_of_neg (by simp [boundTo, hfree])
  rw [bindConnection_of_unbound hfree]
  have hworthNew : ∀ logicalSessionId, worth
      (boundTo logicalSessionId) (some (connection.joining logical)) =
        if logical.logicalSessionId = logicalSessionId then 1 else 0 := by
    intro logicalSessionId
    rw [worth_some]
    refine if_congr ?_ rfl rfl
    rw [boundTo_iff]
    exact and_iff_right rfl
  constructor
  · exact h.connectionIds.replace hslot rfl
  · exact h.logicalIds.replace hpos rfl
  · exact h.appleIds.replace hpos rfl
  · intro other found hother
    have hcount := count_update (boundTo found.logicalSessionId)
      manager.connections slot (some (connection.joining logical))
    rw [hslot, hworth, hworthNew] at hcount
    rw [setLogical_logicalSessions, update_apply] at hother
    unfold boundConnections
    rw [setLogical_connections, setConnection_connections]
    split_ifs at hother with hne
    · -- The session that is joined counts one more; eight connections do not overflow.
      cases hother
      have hold := h.counts hpos
      have hbound := count_le_card (boundTo logical.logicalSessionId) manager.connections
      have hid : (logical.joined connection).logicalSessionId = logical.logicalSessionId := rfl
      have hadd : (logical.joined connection).connectionCount.toNat =
          (logical.connectionCount.toNat + 1) % 2 ^ 32 := rfl
      unfold boundConnections at hold
      rw [Fintype.card_fin] at hbound
      rw [hid, if_pos rfl] at hcount
      rw [hadd, hid]
      omega
    · rw [if_neg fun heq => hne (h.logicalIds hother hpos heq.symm)] at hcount
      have hold := h.counts hother
      unfold boundConnections at hold
      omega
  · intro other found hother hbound
    rw [setLogical_connections, setConnection_connections, update_apply] at hother
    refine InUse.setLogical (inUse_setConnection.mpr ?_) hpos rfl
    split at hother
    · cases hother
      exact ⟨position, logical, hpos, rfl⟩
    · exact h.inUse hother hbound
  · intro other found place session clientId hother hplace hbound hcid
    rw [setLogical_connections, setConnection_connections, update_apply] at hother
    rw [setLogical_logicalSessions, setConnection_logicalSessions, update_apply] at hplace
    split at hother <;> split at hplace
    · cases hother
      cases hplace
      change connection.clientId = some clientId at hcid
      cases hlog : logical.clientId with
      | none => rw [joined, hlog, hcid]; rfl
      | some right =>
        rw [joined, hlog, hcli clientId right hcid hlog]
        rfl
    · rename_i hne
      cases hother
      rw [boundTo_iff] at hbound
      exact absurd (h.logicalIds hplace hpos hbound.2.symm) hne
    · cases hplace
      have hhas := h.clients hother hpos hbound hcid
      rw [joined, hhas]
      rfl
    · exact h.clients hother hplace hbound hcid

/-- **Detaching**: a connection goes, and the session it is bound to counts one less. -/
lemma Consistent.detach (h : manager.Consistent)
    (hslot : manager.connections slot = some connection) (hbound : connection.logicalSessionBound)
    (hpos : manager.logicalSessions position = some logical)
    (hid : logical.logicalSessionId = connection.logicalSessionId) :
    ((manager.setConnection slot none).setLogical position (some { logical with
      connectionCount := logical.connectionCount - 1 })).Consistent := by
  have hworth : ∀ logicalSessionId, worth (boundTo logicalSessionId) (some connection) =
        if logical.logicalSessionId = logicalSessionId then 1 else 0 := by
    intro logicalSessionId
    rw [worth_some]
    simp [boundTo, hbound, hid]
  constructor
  · exact h.connectionIds.clear slot
  · exact h.logicalIds.replace hpos rfl
  · exact h.appleIds.replace hpos rfl
  · intro other found hother
    have hcount := count_clear (p := boundTo found.logicalSessionId) hslot
    rw [hworth] at hcount
    rw [setLogical_logicalSessions, update_apply] at hother
    unfold boundConnections
    rw [setLogical_connections, setConnection_connections]
    split_ifs at hother with hne
    · cases hother
      have hold := h.counts hpos
      unfold boundConnections at hold
      rw [if_pos rfl] at hcount
      dsimp only at hcount ⊢
      rw [UInt32.toNat_sub_of_le]
      · simp only [UInt32.reduceToNat]
        omega
      · rw [UInt32.le_iff_toNat_le]
        simp only [UInt32.reduceToNat]
        omega
    · rw [if_neg fun heq => hne (h.logicalIds hother hpos heq.symm)] at hcount
      have hold := h.counts hother
      unfold boundConnections at hold
      omega
  · intro other found hother hfound
    rw [setLogical_connections, setConnection_connections, update_apply] at hother
    split at hother
    · cases hother
    · exact InUse.setLogical (inUse_setConnection.mpr (h.inUse hother hfound)) hpos rfl
  · intro other found place session clientId hother hplace hfound hcid
    rw [setLogical_connections, setConnection_connections, update_apply] at hother
    rw [setLogical_logicalSessions, setConnection_logicalSessions, update_apply] at hplace
    split at hother
    · cases hother
    split at hplace
    · cases hplace
      have hhas : logical.clientId = some clientId :=
        h.clients hother hpos hfound hcid
      exact hhas
    · exact h.clients hother hplace hfound hcid

lemma Consistent.forget (h : manager.Consistent)
    (hslot : manager.connections slot = some connection)
    (hfree : connection.logicalSessionBound = false) :
    (manager.setConnection slot none).Consistent where
  connectionIds := h.connectionIds.clear slot
  logicalIds := h.logicalIds
  appleIds := h.appleIds
  counts := by
    intro position logical hpos
    have hcount := count_clear (p := boundTo logical.logicalSessionId) hslot
    rw [worth_some_of_neg (by simp [boundTo, hfree]), add_zero] at hcount
    rw [h.counts hpos]
    exact hcount.symm
  inUse := by
    intro other found hother hbound
    rw [setConnection_connections, update_apply] at hother
    split at hother
    · cases hother
    · exact h.inUse hother hbound
  clients := by
    intro other found position logical clientId hother hpos hbound hcid
    rw [setConnection_connections, update_apply] at hother
    split at hother
    · cases hother
    · exact h.clients hother hpos hbound hcid

/-! ## The moves, for the references -/

variable {references : UInt64 → ℕ}

lemma Live.setLogical (h : manager.Live) {entry : Option AirPlayLogicalSessionEntry}
    (hentry : ∀ logical, entry = some logical → logical.Held) :
    (manager.setLogical position entry).Live := by
  intro other logical hother
  rw [setLogical_logicalSessions, update_apply] at hother
  split at hother
  · exact hentry logical hother
  · exact h hother

variable (h : manager.Ledger references)

include h

section

variable (hids : Slots.Distinct AirPlayLogicalSessionEntry.logicalSessionId manager.logicalSessions)

include hids

lemma Ledger.setLogical {count : ℕ} (hold : manager.logicalSessions position = some old)
    (hid : new.logicalSessionId = old.logicalSessionId)
    (hcount : new.mediaReferenceCount.toNat = count) :
    (manager.setLogical position (some new)).Ledger
      (update references old.logicalSessionId count) where
  media := by
    intro other logical hother
    rw [setLogical_logicalSessions, update_apply] at hother
    split_ifs at hother with hne
    · cases hother
      rw [hid, update_self]
      exact hcount
    · rw [update_of_ne fun heq => hne (hids hother hold heq)]
      exact h.media hother
  owed := by
    intro logicalSessionId hpos
    by_cases heq : logicalSessionId = old.logicalSessionId
    · rw [heq]
      exact InUse.setLogical ⟨position, old, hold, rfl⟩ hold hid
    · rw [update_of_ne heq] at hpos
      exact (h.owed hpos).setLogical hold hid

lemma Ledger.setLogical_same (hold : manager.logicalSessions position = some old)
    (hid : new.logicalSessionId = old.logicalSessionId)
    (hmedia : new.mediaReferenceCount = old.mediaReferenceCount) :
    (manager.setLogical position (some new)).Ledger references := by
  have hledger := h.setLogical hids hold hid rfl
  rwa [hmedia, h.media hold, update_eq_self] at hledger

end

lemma Ledger.addLogical (hfree : manager.logicalSessions position = none) (hid : ¬manager.InUse new.logicalSessionId)
    (hmedia : new.mediaReferenceCount = 0) :
    (manager.setLogical position (some new)).Ledger references where
  media := by
    intro other logical hother
    rw [setLogical_logicalSessions, update_apply] at hother
    split at hother
    · cases hother
      have hzero : ¬0 < references new.logicalSessionId := fun hpos => hid (h.owed hpos)
      rw [hmedia]
      exact (Nat.eq_zero_of_not_pos hzero).symm
    · exact h.media hother
  owed := by
    intro logicalSessionId hpos
    refine (h.owed hpos).setLogical_of_ne fun old hold => ?_
    rw [hfree] at hold
    cases hold

lemma Ledger.removeLogical (hold : manager.logicalSessions position = some old) (hmedia : old.mediaReferenceCount = 0) :
    (manager.setLogical position none).Ledger references where
  media := by
    intro other logical hother
    rw [setLogical_logicalSessions, update_apply] at hother
    split at hother
    · cases hother
    · exact h.media hother
  owed := by
    intro logicalSessionId hpos
    refine (h.owed hpos).setLogical_of_ne fun other hother heq => ?_
    rw [hold] at hother
    cases hother
    have hzero := h.media hold
    rw [hmedia, heq] at hzero
    exact absurd hzero.symm (Nat.pos_iff_ne_zero.mp hpos)

end Moves

end AirPlaySessionManager

end NXCast
