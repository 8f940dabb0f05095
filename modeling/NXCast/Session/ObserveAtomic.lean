import NXCast.Session.StoreInvariant

/-!
# A rejected request leaves the tables

`airplay_session_manager_observe` rejects a request at several depths, and the last of them comes
after the connection's entry was written.  The entry of a new connection is forgotten again there; an
entry that was there before keeps the kind it was just given.  `KindGiven` are the requests at which
this shows, and `observe_atomic` says that every other rejected request leaves both tables alone.

The only other failure after a write is that of the counter for new ids, which is never seen: it tries
one id more than there are sessions.
-/

namespace NXCast

open Function Option

namespace AirPlaySessionManager

variable {manager : AirPlaySessionManager}

/-! ## The counter -/

variable {candidate : UInt64}

lemma nextId_iterate_toNat (h : 2 ^ 63 ≤ candidate.toNat) (turns : ℕ) :
    (nextId^[turns] candidate).toNat = 2 ^ 63 + (candidate.toNat - 2 ^ 63 + turns) % 2 ^ 63 := by
  induction turns with
  | zero =>
    have hlt := candidate.toNat_lt
    simp only [iterate_zero, id_eq]
    omega
  | succ turns ih =>
    rw [iterate_succ_apply', nextId]
    have hsum : (nextId^[turns] candidate + 1).toNat =
        ((nextId^[turns] candidate).toNat + 1) % 2 ^ 64 := UInt64.toNat_add _ _
    have hhalf : (0x8000000000000000 : UInt64).toNat = 2 ^ 63 := rfl
    split_ifs with hwrapped
    · have hwrapped : (nextId^[turns] candidate + 1).toNat < 2 ^ 63 := UInt64.lt_iff_toNat_lt.mp hwrapped
      omega
    · have hwrapped : ¬(nextId^[turns] candidate + 1).toNat < 2 ^ 63 :=
        fun hlt => hwrapped (UInt64.lt_iff_toNat_lt.mpr hlt)
      omega

lemma nextId_upper (candidate : UInt64) : 2 ^ 63 ≤ (nextId candidate).toNat := by
  unfold nextId
  split_ifs with hstays
  · exact le_of_eq rfl
  have hhalf : (0x8000000000000000 : UInt64).toNat = 2 ^ 63 := rfl
  rw [UInt64.lt_iff_toNat_lt, hhalf, not_lt] at hstays
  exact hstays

lemma nextId_iterate_injective (h : 2 ^ 63 ≤ candidate.toNat) :
    Function.Injective fun turns : Fin 8 => nextId^[turns] candidate := by
  intro left right heq
  have hnat := congrArg UInt64.toNat heq
  rw [nextId_iterate_toNat h, nextId_iterate_toNat h] at hnat
  exact Fin.ext (by omega)

lemma allocateLoop_none {attempts : ℕ} (h : (manager.allocateLoop attempts candidate).1 = none)
    {turns : ℕ} (hturns : turns < attempts) (hzero : nextId^[turns] candidate ≠ 0) :
    manager.InUse (nextId^[turns] candidate) := by
  induction attempts generalizing candidate turns with
  | zero => exact absurd hturns (Nat.not_lt_zero _)
  | succ attempts ih =>
    rw [allocateLoop] at h
    split at h
    · cases h
    rename_i hbusy
    cases turns with
    | zero =>
      cases hfound : manager.findLogicalById candidate with
      | none => exact absurd ⟨hzero, hfound⟩ hbusy
      | some found =>
        obtain ⟨hpos, hid⟩ := findLogicalById_some hfound
        exact ⟨found.1, found.2, hpos, hid⟩
    | succ turns =>
      exact ih h (Nat.lt_of_succ_lt_succ hturns) hzero

variable {position : Fin 8}

/-- **A free entry has a free id.** -/
lemma allocateLogicalId_isSome (hfree : manager.logicalSessions position = none) :
    manager.allocateLogicalId.1 ≠ none := by
  intro hnone
  let first := nextId manager.nextLogicalSessionId
  have hfirst : 2 ^ 63 ≤ first.toNat := nextId_upper manager.nextLogicalSessionId
  have hused : ∀ turns : Fin 8, manager.InUse (nextId^[turns] first) := by
    intro turns
    have hturns : turns.val + 1 < 9 := by omega
    refine allocateLoop_none hnone hturns fun hzero => ?_
    have hnat := congrArg UInt64.toNat hzero
    rw [iterate_succ_apply, nextId_iterate_toNat hfirst] at hnat
    have hzero' : (0 : UInt64).toNat = 0 := rfl
    omega
  choose at_ logical hat hid using hused
  have hinjective : Function.Injective at_ := by
    intro left right heq
    have hents : logical left = logical right :=
      some.inj ((hat left).symm.trans (heq ▸ hat right))
    refine nextId_iterate_injective hfirst ?_
    dsimp only
    rw [← hid left, ← hid right, hents]
  obtain ⟨turns, hturns⟩ := Finite.surjective_of_injective hinjective position
  rw [← hturns, hat turns] at hfree
  cases hfree

/-! ## What a rejected request leaves -/

/-- The records of the manager are the same. -/
def SameRecords (manager next : AirPlaySessionManager) : Prop :=
  next.connections = manager.connections ∧ next.logicalSessions = manager.logicalSessions

/-- The clients that a connection and a session are known to have are different. -/
def ClientsClash (connection : AirPlayConnectionEntry) (logical : AirPlayLogicalSessionEntry) : Prop :=
  connection.clientId.isSome ∧ logical.clientId.isSome ∧ connection.clientId ≠ logical.clientId

/-- The request comes on a connection of unknown kind that has no session, names the session of another
client, and shows of what kind the connection is. -/
def KindGiven (manager : AirPlaySessionManager) (connectionId : UInt64)
    (request : AirPlayRtspRequest) : Prop :=
  ∃ appleSessionId slot connection position logical,
    airplayRtspRequestHeader request.headers (cstring "X-Apple-Session-ID") = some appleSessionId ∧
    connectionId ≠ 0 ∧ validAppleSessionId appleSessionId = true ∧ request.hasCseq = false ∧
    manager.findConnection connectionId = some (slot, connection) ∧ connection.kind = .unknown ∧
    connection.logicalSessionBound = false ∧
    manager.findLogicalByAppleId appleSessionId = some (position, logical) ∧
    ClientsClash connection logical

variable {request : AirPlayRtspRequest} {appleSessionId : CString}

lemma classifyRequest_ne_unknown (hcseq : request.hasCseq = false) :
    classifyRequest request (some appleSessionId) ≠ .unknown := by
  unfold classifyRequest
  split
  · exact nofun
  have hnot : ¬request.hasCseq := by
    rw [hcseq]
    exact Bool.false_ne_true
  have hnamed : (some appleSessionId).isSome ∨ request.protocol = cstring "HTTP/1.1" ∨
      uriIsPairing request.uri := .inl rfl
  rw [if_neg hnot, if_pos hnamed]
  exact nofun

variable {slot : Fin 8} {error : AirPlaySessionObserveError}

lemma observed_ne_error {position : Option (Fin 8)} (hslot : manager.connections slot ≠ none) :
    (manager.observed slot position).2 ≠ .error error := by
  unfold observed
  split
  · exact nofun
  · rename_i hnone
    exact absurd hnone hslot

/-- Binding is rejected at a session of another client only, and then it forgets a new connection. -/
lemma observeBind_error {connection : AirPlayConnectionEntry}
    {newConnection : Bool} (hunbound : connection.logicalSessionBound = false)
    (h : (manager.observeBind slot connection newConnection position appleSessionId).2 =
      .error error) :
    ∃ logical, manager.logicalSessions position = some logical ∧ ClientsClash connection logical ∧
      (manager.observeBind slot connection newConnection position appleSessionId).1 =
        if newConnection then manager.setConnection slot none else manager := by
  have hbound : ∀ (start : AirPlaySessionManager) (logical : AirPlayLogicalSessionEntry),
      (start.bindConnection slot connection position logical).connections slot ≠ none := by
    intro start logical
    rw [bindConnection_of_unbound hunbound, setLogical_connections, setConnection_connections,
      update_self]
    exact nofun
  unfold observeBind at h ⊢
  split at h
  · rename_i logical hlog
    split at h
    · rename_i hclash
      refine ⟨logical, hlog, hclash, ?_⟩
      rw [if_pos hclash]
    · exact absurd h (observed_ne_error (hbound _ _))
  · rename_i hfree
    split at h
    · rename_i allocated halloc
      exact absurd (congrArg Prod.fst halloc) (allocateLogicalId_isSome hfree)
    · exact absurd h (observed_ne_error (hbound _ _))

variable {connection : Option AirPlayConnectionEntry}

lemma sameRecords_setConnection_self (hslot : manager.connections slot = connection) :
    manager.SameRecords (manager.setConnection slot connection) := by
  refine ⟨?_, rfl⟩
  rw [setConnection_connections, ← hslot, update_eq_self]

variable {connectionId : UInt64}

variable {observedKind : AirPlayConnectionKind}

lemma observedConnection_of_known
    {connection : AirPlayConnectionEntry} (hkind : connection.kind ≠ .unknown) :
    observedConnection connectionId observedKind (some connection) = connection :=
  if_neg hkind

/-- A session that is chosen for a connection without one, and is there, has the Apple id. -/
lemma observedLogical_found {logical : AirPlayLogicalSessionEntry}
    (hunbound : connection.filter (·.logicalSessionBound) = none)
    (h : manager.observedLogical connection (some appleSessionId) = .ok (some position))
    (hpos : manager.logicalSessions position = some logical) :
    manager.findLogicalByAppleId appleSessionId = some (position, logical) := by
  unfold observedLogical at h
  rw [hunbound] at h
  dsimp only at h
  split at h
  · rename_i found other hfound
    cases h
    have hother := (Slots.search_some hfound).1
    rw [hpos] at hother
    cases hother
    exact hfound
  · split at h
    · rename_i free hfree
      cases h
      have hnone := Slots.vacant_some hfree
      rw [hpos] at hnone
      cases hnone
    · cases h

/-- **The end of `airplay_session_manager_observe`.** It is rejected with the tables as they were, or the
connection was known without its kind. -/
lemma observeAt_error {appleSessionId : Option CString}
    (hslot : manager.connections slot = connection)
    (h : (manager.observeAt slot connection connectionId observedKind request appleSessionId).2 =
      .error error) :
    manager.SameRecords
        (manager.observeAt slot connection connectionId observedKind request appleSessionId).1 ∨
      ∃ appleId entry position logical, appleSessionId = some appleId ∧ connection = some entry ∧
        entry.kind = .unknown ∧ entry.logicalSessionBound = false ∧
        manager.findLogicalByAppleId appleId = some (position, logical) ∧
        ClientsClash entry logical := by
  have hheld : ∀ entry : AirPlayConnectionEntry,
      (manager.setConnection slot (some entry)).connections slot ≠ none := by
    intro entry
    rw [setConnection_connections, update_self]
    exact nofun
  unfold observeAt at h ⊢
  split at h
  · exact .inl ⟨rfl, rfl⟩
  rename_i position hpos
  split at h
  · rename_i hfree
    rw [if_pos hfree]
    exact .inl ⟨rfl, rfl⟩
  rename_i hbinding
  rw [if_neg hbinding]
  dsimp only at h ⊢
  split at h
  · rename_i appleId position
    split_ifs at h with hfree
    · exact absurd h (observed_ne_error (hheld _))
    rw [if_neg hfree]
    rw [Bool.not_eq_true] at hfree
    obtain ⟨logical, hlog, hclash, hleft⟩ := observeBind_error hfree h
    rw [hleft]
    cases connection with
    | none =>
      refine .inl ⟨?_, rfl⟩
      change update (update manager.connections slot _) slot none = _
      rw [update_idem, ← hslot, update_eq_self]
    | some entry =>
      by_cases hkind : entry.kind = .unknown
      · obtain ⟨-, -, hcli, hbound⟩ :=
          observedConnection_some connectionId observedKind entry
        rw [hbound] at hfree
        refine .inr ⟨appleId, entry, position, logical, rfl, rfl, hkind, hfree, ?_, ?_⟩
        · refine observedLogical_found ?_ hpos hlog
          rw [filter_some, if_neg (by rw [hfree]; exact Bool.false_ne_true)]
        · unfold ClientsClash at hclash ⊢
          rwa [hcli] at hclash
      · rw [observedConnection_of_known hkind]
        exact .inl (sameRecords_setConnection_self hslot)
  · exact absurd h (observed_ne_error (hheld _))

/-- The request that shows of what kind its connection is, is rejected with the kind kept. -/
lemma observe_kindGiven (h : manager.KindGiven connectionId request) :
    (manager.observe connectionId request).2 = .error .conflict ∧
      ¬manager.SameRecords (manager.observe connectionId request).1 := by
  obtain ⟨appleId, slot, entry, position, logical, hhead, hid, hvalid, hcseq, hfound, hkind,
    hbound, hsess, hclash⟩ := h
  have hknown : classifyRequest request (some appleId) ≠ .unknown := classifyRequest_ne_unknown hcseq
  have hlog : manager.observedLogical (some entry) (some appleId) = .ok (some position) := by
    unfold observedLogical
    rw [filter_some, if_neg (by rw [hbound]; exact Bool.false_ne_true)]
    dsimp only
    rw [hsess]
  have hobserve : manager.observe connectionId request =
      (manager.setConnection slot (some { entry with
        kind := classifyRequest request (some appleId) }), .error .conflict) := by
    have hvalid' : ¬((some appleId).any fun value => !validAppleSessionId value) := by
      rw [any_some, hvalid]
      exact Bool.false_ne_true
    have hcseq' : ¬(request.hasCseq ∧ (some appleId).isSome) := by
      rw [hcseq]
      exact fun hboth => Bool.false_ne_true hboth.1
    unfold observe
    rw [hhead]
    rw [if_neg hid, if_neg hvalid', if_neg hcseq', hfound]
    dsimp only
    rw [if_neg (fun hall => hall.2.1 hkind)]
    unfold observeAt
    rw [hlog]
    dsimp only
    rw [if_neg (fun hnone => nomatch hnone.2), show observedConnection connectionId
      (classifyRequest request (some appleId)) (some entry) =
        { entry with kind := classifyRequest request (some appleId) } from if_pos hkind]
    rw [if_neg (by rw [hbound]; exact Bool.false_ne_true)]
    unfold observeBind
    rw [setConnection_logicalSessions, (Slots.search_some hsess).1]
    dsimp only
    unfold ClientsClash at hclash
    rw [if_pos hclash]
    rfl
  rw [hobserve]
  refine ⟨rfl, fun hsame => ?_⟩
  have hentry := congrFun hsame.1 slot
  rw [setConnection_connections, update_self, (findConnection_some hfound).1] at hentry
  have hkinds := congrArg AirPlayConnectionEntry.kind (some.inj hentry)
  exact hknown (hkinds.trans hkind)

/-- **Observing is atomic.** A request that is rejected leaves every record as it was, except when it is
rejected because its connection, of which the kind was not known yet, belongs to another client than the
session it names. -/
theorem observe_atomic (manager : AirPlaySessionManager) (connectionId : UInt64)
    (request : AirPlayRtspRequest) :
    (∀ error, (manager.observe connectionId request).2 = .error error →
        manager.SameRecords (manager.observe connectionId request).1) ↔
      ¬manager.KindGiven connectionId request := by
  constructor
  · intro hatomic hgiven
    obtain ⟨hrejected, hchanged⟩ := observe_kindGiven hgiven
    exact hchanged (hatomic _ hrejected)
  intro hgiven error h
  unfold observe at h ⊢
  dsimp only at h ⊢
  split_ifs at h ⊢ with hid hvalid hcseq
  · exact ⟨rfl, rfl⟩
  · exact ⟨rfl, rfl⟩
  · exact ⟨rfl, rfl⟩
  split at h
  · rename_i hmissing
    split at h
    · exact ⟨rfl, rfl⟩
    rename_i slot hslot
    obtain hsame | ⟨_, _, _, _, -, hnone, -⟩ := observeAt_error (Slots.vacant_some hslot) h
    · exact hsame
    · cases hnone
  rename_i slot connection hfound
  split_ifs at h with hconflict
  · rw [if_pos hconflict]
    exact ⟨rfl, rfl⟩
  rw [if_neg hconflict]
  obtain hsame | ⟨appleId, entry, position, logical, happle, hentry, hkind, hbound, hsession,
    hclash⟩ := observeAt_error (findConnection_some hfound).1 h
  · exact hsame
  cases hentry
  refine absurd ⟨appleId, slot, connection, position, logical, happle, hid, ?_, ?_, hfound,
    hkind, hbound, hsession, hclash⟩ hgiven
  · rw [happle, Option.any_some, Bool.not_eq_true', Bool.not_eq_false] at hvalid
    exact hvalid
  · rw [happle] at hcseq
    exact Bool.eq_false_iff.mpr fun htrue => hcseq ⟨htrue, rfl⟩

/-! ## A rejected request that is seen -/

/-- A request without a body. -/
def plainRequest (protocol : String) (headers : List AirPlayRtspHeader) : AirPlayRtspRequest where
  method := cstring "GET"
  uri := cstring "/feedback"
  protocol := cstring protocol
  headers := headers
  body := []
  bodyLength := 0
  hasCseq := false
  cseq := 0

/-- A request that names a session. -/
def namingRequest : AirPlayRtspRequest :=
  plainRequest "HTTP/1.1" [⟨cstring "X-Apple-Session-ID", cstring "s"⟩]

/-- Connection 1 has a client and no kind; connection 2, of another client, opens session `s`. -/
def clashingManager : AirPlaySessionManager :=
  (AirPlaySessionStore.initial.run
    [.observe 1 (plainRequest "RTSP/1.0" []), .bindClient 1 (Vector.replicate 32 1),
      .observe 2 namingRequest, .bindClient 2 (Vector.replicate 32 2)]).manager

/-- Connection 1 names session `s`, is rejected, and is an AirPlay connection from then on. -/
theorem observe_atomic_kind :
    (clashingManager.observe 1 namingRequest).2 = .error .conflict ∧
      ¬clashingManager.SameRecords (clashingManager.observe 1 namingRequest).1 := by
  have hrun : (clashingManager.observe 1 namingRequest).2 = .error .conflict ∧
      ((clashingManager.observe 1 namingRequest).1.connections 0).map
          AirPlayConnectionEntry.kind = some .airplay ∧
        (clashingManager.connections 0).map AirPlayConnectionEntry.kind = some .unknown := by
    decide +kernel
  obtain ⟨hrejected, hafter, hbefore⟩ := hrun
  refine ⟨hrejected, fun hsame => ?_⟩
  rw [hsame.1, hbefore] at hafter
  cases hafter

end AirPlaySessionManager

end NXCast
